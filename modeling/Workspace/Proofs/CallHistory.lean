/-
Workspace.Proofs.CallHistory — what earlier calls leave to later ones.

A call that looks a configuration file up takes the `.env` file into the
environment, also when it fails, and the next call reads this environment. A
call leaves its world as it is or settled (`world_call`), so the step is
`answer_settled`: in a settled world every call has the answer that it has
before. That needs `World.StopsForGood`; without it an assignment that failed
can succeed when the same file is taken in again (`answers_slippingWorld`).

What a run can do to the environment does not depend on it: variables keep
their values, and only those that the file binds are added (`World.Extends`).
-/
import Workspace.Proofs.SettledEnvironment
import Workspace.Session

namespace Workspace

/-- A call that depends on the world. -/
inductive Call where
  /-- Finds the configuration file of a workspace. -/
  | find (workspace : Text)
  /-- Loads a configuration. -/
  | load (workspace : Text) (file : Option Text)
  /-- Loads a configuration and resolves it. -/
  | loadAndResolve (workspace : Text) (file : Option Text)

inductive Answer where
  | found (outcome : Except Error (Option Text))
  | loaded (outcome : Except Error LoadedConfig)
  | resolved (outcome : Except Error (Text × Resolution))

/-- The call is given the file to load. -/
def Call.GivesFile : Call → Prop
  | .find _ => False
  | .load _ file | .loadAndResolve _ file => file.isSome

namespace Session

def call (s : Session) : Call → Answer × Session
  | .find workspace => (s.configPath? workspace).map .found id
  | .load workspace file => (s.load workspace file).map .loaded id
  | .loadAndResolve workspace file => (s.loadAndResolve workspace file).map .resolved id

/-- The answers of calls, one after the other, and the session after them. -/
def run (s : Session) : List Call → List Answer × Session
  | [] => ([], s)
  | c :: rest =>
    let (answer, next) := s.call c
    let (answers, last) := next.run rest
    (answer :: answers, last)

end Session

namespace World

variable {w w' w'' : World}

/-! ## What calls do to the world -/

/-- The same files, directory and console, and an environment that has all
variables of the other and no further ones than the `.env` file gives a value
to. -/
structure Extends (w w' : World) : Prop where
  disk : w'.disk = w.disk
  currentDirectory : w'.currentDirectory = w.currentDirectory
  envFile : w'.envFile = w.envFile
  envFault : w'.envFault = w.envFault
  columns : w'.columns = w.columns
  keeps : ∀ name v : String, w.environment.value? name = some v →
    w'.environment.value? name = some v
  adds : ∀ name v : String, w.environment.value? name = none →
    w'.environment.value? name = some v →
      ∃ text, w.envFile = some text ∧
        ∃ b ∈ EnvFile.bindings text, b.name = name ∧ b.value.isSome

theorem Extends.refl (w : World) : w.Extends w where
  disk := rfl
  currentDirectory := rfl
  envFile := rfl
  envFault := rfl
  columns := rfl
  keeps := fun _ _ h => h
  adds := fun _ _ hunset hset => by simp [hunset] at hset

theorem Extends.trans (h : w.Extends w') (h' : w'.Extends w'') : w.Extends w'' where
  disk := h'.disk.trans h.disk
  currentDirectory := h'.currentDirectory.trans h.currentDirectory
  envFile := h'.envFile.trans h.envFile
  envFault := h'.envFault.trans h.envFault
  columns := h'.columns.trans h.columns
  keeps := fun name v hset => h'.keeps name v (h.keeps name v hset)
  adds := by
    intro name v hunset hset
    cases hbetween : w'.environment.value? name with
    | some v' => exact h.adds name v' hunset hbetween
    | none => exact h.envFile ▸ h'.adds name v hbetween hset

theorem extends_settled (w : World) : w.Extends w.settled where
  disk := rfl
  currentDirectory := rfl
  envFile := rfl
  envFault := rfl
  columns := rfl
  keeps := fun _ _ => w.grows_settled.keeps
  adds := by
    intro name v hunset hset
    rw [settled, withFile_eq_assign] at hset
    rcases Environment.value?_assign_cases hset with hold | ⟨-, hmem, -⟩
    · simp [hunset] at hold
    · unfold assignments envText? at hmem
      cases hfault : w.envFault with
      | some fault => simp [hfault] at hmem
      | none =>
        cases hfile : w.envFile with
        | none => simp [hfault, hfile] at hmem
        | some text =>
          simp only [hfault, hfile] at hmem
          exact ⟨text, rfl, EnvFile.exists_binding_of_mem_assignments hmem⟩

/-! ## What the answers depend on -/

/-- The answer of a call in the world. -/
def answer (w : World) : Call → Answer
  | .find workspace => .found (w.configPath? workspace)
  | .load workspace file => .loaded (w.loadConfig workspace file)
  | .loadAndResolve workspace file => .resolved (w.loadAndResolve workspace file)

theorem settled_settled (h : w.StopsForGood) : w.settled.settled = w.settled := by
  rw [settled, withFile_settled h]

theorem configPath?_settled (h : w.StopsForGood) (workspace : Text) :
    w.settled.configPath? workspace = w.configPath? workspace := by
  rw [configPath?, configPath?, settleFault?_settled h, settled_settled h]

theorem loadConfig_settled (h : w.StopsForGood) (workspace : Text) (file : Option Text) :
    w.settled.loadConfig workspace file = w.loadConfig workspace file := by
  simp only [loadConfig, configPath?_settled h]
  rfl

theorem loadAndResolve_settled (h : w.StopsForGood) (workspace : Text) (file : Option Text) :
    w.settled.loadAndResolve workspace file = w.loadAndResolve workspace file := by
  simp only [loadAndResolve, loadConfig_settled h]
  rfl

/-- In a settled world a call has the answer that it has before. -/
theorem answer_settled (h : w.StopsForGood) (c : Call) : w.settled.answer c = w.answer c := by
  cases c with
  | find workspace => rw [answer, answer, configPath?_settled h]
  | load workspace file => rw [answer, answer, loadConfig_settled h]
  | loadAndResolve workspace file => rw [answer, answer, loadAndResolve_settled h]

/-- A file that is given is loaded without the environment. -/
theorem loadConfig_congr (h : w.Extends w') (workspace file : Text) :
    w'.loadConfig workspace (some file) = w.loadConfig workspace (some file) := by
  simp only [loadConfig, h.disk, h.currentDirectory]

theorem answer_of_givesFile (h : w.Extends w') {c : Call} (hfile : c.GivesFile) :
    w'.answer c = w.answer c := by
  cases c with
  | find workspace => exact hfile.elim
  | load workspace file =>
    obtain ⟨file, rfl⟩ := Option.isSome_iff_exists.mp hfile
    rw [answer, answer, loadConfig_congr h]
  | loadAndResolve workspace file =>
    obtain ⟨file, rfl⟩ := Option.isSome_iff_exists.mp hfile
    have hfinder : w'.finder = w.finder := by
      unfold finder
      rw [h.disk, h.currentDirectory]
    simp only [answer, loadAndResolve, loadConfig_congr h, hfinder]

end World

namespace Session

variable {s s' : Session}

/-! ## A call and a run -/

/-- The answer of a call depends on the world of the session alone. -/
theorem answer_call (s : Session) (c : Call) : (s.call c).1 = s.world.answer c := by
  cases c <;> rfl

theorem world_keep {α : Type} (s : Session) (result : Except Error α) (config : α → FullConfig) :
    (s.keep result config).world = s.world := by
  cases result <;> rfl

/-- A call settles the world, or leaves it alone if it is given its file. -/
theorem world_call (s : Session) (c : Call) :
    (c.GivesFile → (s.call c).2.world = s.world)
      ∧ (¬c.GivesFile → (s.call c).2.world = s.world.settled) := by
  cases c with
  | find workspace => exact ⟨False.elim, fun _ => rfl⟩
  | load workspace file =>
    cases file with
    | none => exact ⟨nofun, fun _ => rfl⟩
    | some file => exact ⟨fun _ => rfl, fun h => absurd rfl h⟩
  | loadAndResolve workspace file =>
    cases file with
    | none => exact ⟨nofun, fun _ => world_keep _ _ _⟩
    | some file => exact ⟨fun _ => world_keep _ _ _, fun h => absurd rfl h⟩

theorem extends_call (s : Session) (c : Call) : s.world.Extends (s.call c).2.world := by
  by_cases hfile : c.GivesFile
  · rw [(s.world_call c).1 hfile]
    exact .refl _
  · rw [(s.world_call c).2 hfile]
    exact s.world.extends_settled

theorem extends_run (s : Session) (calls : List Call) : s.world.Extends (s.run calls).2.world := by
  induction calls generalizing s with
  | nil => exact .refl _
  | cons c rest ih => exact (s.extends_call c).trans (ih (s.call c).2)

/-- As long as the world is what it was at first, or settled, all answers are
those of the first call, and it stays so. -/
theorem answers_run (h : s.world.StopsForGood) (calls : List Call)
    (hworld : s'.world = s.world ∨ s'.world = s.world.settled) :
    (s'.run calls).1 = calls.map s.world.answer := by
  induction calls generalizing s' with
  | nil => rfl
  | cons c rest ih =>
    have hnow : (s'.call c).1 = s.world.answer c := by
      rw [answer_call]
      rcases hworld with hworld | hworld
      · rw [hworld]
      · rw [hworld, World.answer_settled h]
    have hnext : (s'.call c).2.world = s.world ∨ (s'.call c).2.world = s.world.settled := by
      by_cases hfile : c.GivesFile
      · rwa [(s'.world_call c).1 hfile]
      · rw [(s'.world_call c).2 hfile]
        rcases hworld with hworld | hworld
        · exact Or.inr (hworld ▸ rfl)
        · exact Or.inr (hworld ▸ World.settled_settled h)
    rw [List.map_cons, ← hnow, ← ih hnext]
    rfl

/-- **Earlier calls do not change later answers.** Every call of a run is
answered as when it is made alone, unless taking the `.env` file in stops at
first at a variable whose value is another one later. Whatever the file holds,
a run leaves the files and the current directory as they are, leaves every
variable that is set as it is, even one that is set to nothing, and adds none
that the file does not give a value to. A call that is given its configuration
file leaves the environment as it is, and is answered as when made alone. -/
theorem run_history (s : Session) (calls : List Call) :
    (s.world.StopsForGood → (s.run calls).1 = calls.map fun c => (s.call c).1)
      ∧ s.world.Extends (s.run calls).2.world
      ∧ ∀ c : Call, c.GivesFile →
          ((s.run calls).2.call c).2.world = (s.run calls).2.world
            ∧ ((s.run calls).2.call c).1 = (s.call c).1 := by
  refine ⟨fun h => ?_, s.extends_run calls, fun c hfile => ⟨?_, ?_⟩⟩
  · rw [answers_run h calls (Or.inl rfl)]
    exact List.map_congr_left fun c _ => (s.answer_call c).symm
  · exact ((s.run calls).2.world_call c).1 hfile
  · rw [answer_call, answer_call, World.answer_of_givesFile (s.extends_run calls) hfile]

/-- A file whose first line reads differently once the second one is set, and
that gives a value to a variable that is set to nothing. -/
def forwardWorld : World where
  disk := .empty
  currentDirectory := "/"
  environment := [("HOME", "")]
  envFile := some "A=$\x7bB\x7dc\nB=x\nHOME=/h\nCOFFEESENSE_CONFIG=$\x7bA\x7d.json"

/-- The lookup goes on finding what the first one found, after another lookup
and after a file that is not there. -/
theorem run_history_forwardWorld :
    forwardWorld.StopsForGood
      ∧ (run ⟨forwardWorld, none⟩ [.find "/ws", .load "/ws" (some "none.json"), .find "ws"]).1
          = [.find "/ws", .load "/ws" (some "none.json"), .find "ws"].map
              (fun c => (call ⟨forwardWorld, none⟩ c).1)
      ∧ (call ⟨forwardWorld, none⟩ (.find "ws")).1 = .found (.ok (some "ws/c.json"))
      ∧ (run ⟨forwardWorld, none⟩ [.find "/ws"]).2.world.environment.value? "HOME" = some ""
      ∧ (run ⟨forwardWorld, none⟩ [.find "/ws"]).2.world.environment.value? "A" = some "c"
      ∧ ((run ⟨forwardWorld, none⟩ [.find "/ws"]).2.call (.load "/ws" (some "none.json"))).2.world
          = (run ⟨forwardWorld, none⟩ [.find "/ws"]).2.world := by
  have hstops : forwardWorld.StopsForGood :=
    World.stopsForGood_of_settleFault?_eq_none (by decide +kernel)
  obtain ⟨hanswers, -⟩ := run_history ⟨forwardWorld, none⟩
    [.find "/ws", .load "/ws" (some "none.json"), .find "ws"]
  obtain ⟨-, hextends, hgiven⟩ := run_history ⟨forwardWorld, none⟩ [.find "/ws"]
  refine ⟨hstops, hanswers hstops, ?_, hextends.keeps "HOME" "" (by decide), by decide +kernel,
    (hgiven (.load "/ws" (some "none.json")) rfl).1⟩
  rfl

/-- A variable that is refused at first, and later is made of another one. -/
def slippingWorld : World where
  disk := .empty
  currentDirectory := "/"
  environment := [("COFFEESENSE_CONFIG", "c.json")]
  envFile := some "A=\x00\nB=$\x7bA\x7d\nA=ok"

/-- The first lookup sets `A` and fails at `B`; the second one reads `A` and finds
the file, where the same lookup made alone fails. -/
theorem answers_slippingWorld :
    (run ⟨slippingWorld, none⟩ [.find "/ws", .find "/ws"]).1
        = [.found (.error (.unsettable VariableFault.nul)), .found (.ok (some "/ws/c.json"))]
      ∧ (call ⟨slippingWorld, none⟩ (.find "/ws")).1 = .found (.error (.unsettable VariableFault.nul))
      ∧ (run ⟨slippingWorld, none⟩ [.find "/ws", .find "/ws"]).1
          ≠ [.find "/ws", .find "/ws"].map fun c => (call ⟨slippingWorld, none⟩ c).1 := by
  have hrun : (run ⟨slippingWorld, none⟩ [.find "/ws", .find "/ws"]).1
      = [.found (.error (.unsettable VariableFault.nul)), .found (.ok (some "/ws/c.json"))] := by rfl
  have hcall : (call ⟨slippingWorld, none⟩ (.find "/ws")).1
      = .found (.error (.unsettable VariableFault.nul)) := by rfl
  refine ⟨hrun, hcall, ?_⟩
  rw [hrun, List.map_cons, List.map_cons, hcall]
  simp

end Session

end Workspace
