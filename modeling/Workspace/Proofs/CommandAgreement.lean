/-
Workspace.Proofs.CommandAgreement — the commands agree with the library.

A command takes its paths relative to the current directory and loads and
resolves with what it gets. `World.FindsOwner` says which project owns a file
that way, in terms of the library alone. A run of `owner` shows the root of
this project and ends with exit code 0, or ends with exit code 1 if there is
none; a run of `resolve --json` shows what was resolved, or ends with exit
code 1 (`run_agrees`). Which words ask for that is a matter of their spelling
(`AsksOwner`, `AsksJson`).

Output that does not go to a terminal loses the control sequences of one, also
where they are part of a root (`run_unshownRoots`). A root without the
escape character has none (`withoutControls_eq_self`). What becomes of a root
that no output can hold is left open.
-/
import Workspace.Proofs.CommandWords
import Workspace.Proofs.ImplicitProject
import Workspace.Proofs.SharedConfig

namespace Workspace

namespace Terminal

theorem withoutControlsFrom_eq_self {rounds : Nat} {t : Text} (h : .char '\x1b' ∉ t) :
    withoutControlsFrom rounds t = t := by
  induction rounds generalizing t with
  | zero => rfl
  | succ rounds ih =>
    cases t with
    | nil => rfl
    | cons p rest =>
      obtain ⟨hp, hrest⟩ := not_or.mp (mt List.mem_cons.mpr h)
      rw [withoutControlsFrom, if_neg (Ne.symm hp), ih hrest]

/-- A text without the escape character has no control sequences. -/
theorem withoutControls_eq_self {t : Text} (h : .char '\x1b' ∉ t) : withoutControls t = t :=
  withoutControlsFrom_eq_self h

end Terminal

/-- What a workspace and a configuration file that are taken from the current
directory load and resolve to. -/
def World.loadHere (w : World) (workspace : Text) (file : Option Text) :
    Except Error (Text × Resolution) :=
  w.loadAndResolve (absolutizePath workspace w.currentDirectory)
    (file.map (absolutizePath · w.currentDirectory))

/-- Loading and resolving succeed, and a project with this root owns the file. -/
def World.FindsOwner (w : World) (file workspace : Text) (config : Option Text) (root : Text) :
    Prop :=
  ∃ base r p, w.loadHere workspace config = .ok (base, r)
    ∧ findOwner r.config.projects (absolutizePath file w.currentDirectory) = some p
    ∧ p.root = root

namespace CommandLine

variable {w : World} {words : List String} {file workspace root : Text} {config : Option Text}

/-! ## Exit codes -/

theorem exitCode_ending_one (shown : Shown) : (ending 1 shown).exitCode = 1 := by
  cases shown with
  | error fault => rfl
  | ok t =>
    rw [ending, Outcome.showing]
    split <;> rfl

theorem showing_ofString (exitCode : Nat) (s : String) :
    Outcome.showing exitCode s = ⟨exitCode, s, none⟩ := by
  rw [Outcome.showing, Text.toString?_ofString]

theorem resolveWorkspace_eq (w : World) (workspace : Text) (config : Option Text) :
    resolveWorkspace w workspace config = (w.loadHere workspace config).map fun r => r.2.config :=
  rfl

/-! ## The owner of a file -/

theorem runOwner_eq_showing (h : w.FindsOwner file workspace config root) :
    runOwner w file workspace config
      = .showing 0 (Terminal.withoutControls root ++ Text.ofString "\n") := by
  obtain ⟨base, r, p, hload, howner, rfl⟩ := h
  rw [runOwner, resolveWorkspace_eq, hload]
  simp only [Except.map, howner]

theorem runOwner_of_findsOwner {s : String} (h : w.FindsOwner file workspace config root)
    (hshown : Terminal.withoutControls root = s) :
    runOwner w file workspace config = .finished (s ++ "\n") := by
  have hline : Terminal.withoutControls root ++ Text.ofString "\n"
      = Text.ofString (s ++ "\n") := by
    rw [hshown, Text.ofString, Text.ofString, Text.ofString, String.toList_append, List.map_append]
  rw [runOwner_eq_showing h, hline, showing_ofString]
  rfl

theorem exitCode_runOwner (h : ∀ root, ¬w.FindsOwner file workspace config root) :
    (runOwner w file workspace config).exitCode = 1 := by
  rw [runOwner, resolveWorkspace_eq]
  cases hload : w.loadHere workspace config with
  | error e => exact exitCode_ending_one _
  | ok loaded =>
    obtain ⟨base, r⟩ := loaded
    simp only [Except.map]
    cases howner : findOwner r.config.projects (absolutizePath file w.currentDirectory) with
    | none => exact exitCode_ending_one _
    | some p => exact absurd ⟨base, r, p, hload, howner, rfl⟩ (h p.root)

/-! ## The resolved configuration -/

theorem runResolve_of_loadHere {base : Text} {r : Resolution}
    (h : w.loadHere workspace config = .ok (base, r))
    (hshort : ∀ s ∈ r.config.settings, ¬isLong s.2) :
    runResolve w workspace config true = .finished (Json.text r.config.toValue ++ "\n") := by
  have hall : r.config.settings.any (fun s => isLong s.2) = false := by
    simpa using hshort
  rw [runResolve, resolveWorkspace_eq, h]
  simp only [Except.map, if_true, jsonOutcome, hall]
  rfl

theorem exitCode_runResolve {e : Error} (h : w.loadHere workspace config = .error e)
    (json : Bool) : (runResolve w workspace config json).exitCode = 1 := by
  rw [runResolve, resolveWorkspace_eq, h]
  exact exitCode_ending_one _

/-- **The commands agree with the library.** The words that `owner` accepts are
those that ask for the owner of a file. Its run shows the root of the project
that owns the file and ends with exit code 0 if loading, resolving and the search
for the owner succeed, and ends with exit code 1 if they do not. Since the output
goes to no terminal, the root is shown without control sequences; if it holds no
escape character, as it is.
Likewise a run of `resolve --json` shows the resolved configuration, unless it
holds an integer that is too long, or ends with exit code 1. -/
theorem run_agrees (w : World) (words : List String) :
    (∀ file workspace config,
        (Request.ofArguments words = .ok (.owner file workspace config) ↔
            AsksOwner words file workspace config)
          ∧ (AsksOwner words file workspace config →
              (∀ root (s : String), w.FindsOwner file workspace config root →
                  Terminal.withoutControls root = s → run w words = .finished (s ++ "\n"))
                ∧ (∀ root (s : String), w.FindsOwner file workspace config root →
                    .char '\x1b' ∉ root → root = s → run w words = .finished (s ++ "\n"))
                ∧ ((∀ root, ¬w.FindsOwner file workspace config root) →
                    (run w words).exitCode = 1)))
      ∧ ∀ workspace config,
        (Request.ofArguments words = .ok (.resolve workspace config true) ↔
            AsksJson words workspace config)
          ∧ (AsksJson words workspace config →
              (∀ base r, w.loadHere workspace config = .ok (base, r) →
                  (∀ s ∈ r.config.settings, ¬isLong s.2) →
                    run w words = .finished (Json.text r.config.toValue ++ "\n"))
                ∧ ∀ e, w.loadHere workspace config = .error e → (run w words).exitCode = 1) := by
  refine ⟨fun file workspace config => ⟨ofArguments_eq_owner_iff, fun hasks => ?_⟩,
    fun workspace config => ⟨ofArguments_eq_json_iff, fun hasks => ?_⟩⟩
  · have hrun : run w words = runOwner w file workspace config := by
      rw [run, ofArguments_eq_owner_iff.mpr hasks]
      rfl
    rw [hrun]
    refine ⟨fun root s howns hshown => runOwner_of_findsOwner howns hshown,
      fun root s howns hplain hroot => ?_, exitCode_runOwner⟩
    exact runOwner_of_findsOwner howns ((Terminal.withoutControls_eq_self hplain).trans hroot)
  · have hrun : run w words = runResolve w workspace config true := by
      rw [run, ofArguments_eq_json_iff.mpr hasks]
      rfl
    rw [hrun]
    exact ⟨fun base r hload hshort => runResolve_of_loadHere hload hshort,
      fun e hload => exitCode_runResolve hload true⟩

theorem loadHere_sharingWorld :
    sharingWorld.loadHere "b/c" (some "coffeesense.config.json")
      = .ok ("/a", sharedResolution) := by
  have hchosen : sharingWorld.chosenFile?
      (absolutizePath (absolutizePath "b/c" sharingWorld.currentDirectory)
        sharingWorld.currentDirectory)
      (some (absolutizePath "coffeesense.config.json" sharingWorld.currentDirectory))
        = .ok (some "/a/coffeesense.config.json") := rfl
  rw [World.loadHere, Option.map_some, loadAndResolve_of_chosenFile? hchosen]
  simp only [loadFile_sharingWorld, bind, Except.bind, resolve_sharingWorld, pure, Except.pure]

/-- Options in two orders and forms: a file below the project, a file beside it,
and the configuration as JSON. -/
theorem run_agrees_sharingWorld :
    run sharingWorld ["owner", "-vwb/c", "p/x", "--config", "coffeesense.config.json"]
        = .finished "/a/p\n"
      ∧ (run sharingWorld ["--", "owner", "-c", "coffeesense.config.json", "--workspace=b/c", "--",
          "q"]).exitCode = 1
      ∧ run sharingWorld ["resolve", "--json", "b/c", "-ccoffeesense.config.json"]
          = .finished (Json.text sharedResolution.config.toValue ++ "\n") := by
  have howned : AsksOwner ["owner", "-vwb/c", "p/x", "--config", "coffeesense.config.json"]
      "p/x" "b/c" (some "coffeesense.config.json") := ofArguments_eq_owner_iff.mp rfl
  have hunowned : AsksOwner
      ["--", "owner", "-c", "coffeesense.config.json", "--workspace=b/c", "--", "q"]
      "q" "b/c" (some "coffeesense.config.json") := ofArguments_eq_owner_iff.mp rfl
  have hjson : AsksJson ["resolve", "--json", "b/c", "-ccoffeesense.config.json"]
      "b/c" (some "coffeesense.config.json") := ofArguments_eq_json_iff.mp rfl
  refine ⟨?_, ?_, ?_⟩
  · refine (((run_agrees sharingWorld _).1 _ _ _).2 howned).2.1 "/a/p" "/a/p" ?_ (by decide) rfl
    exact ⟨_, _, ⟨"/a/p", none, none⟩, loadHere_sharingWorld, by decide +kernel, rfl⟩
  · refine (((run_agrees sharingWorld _).1 _ _ _).2 hunowned).2.2 ?_
    rintro root ⟨base, r, p, hload, howner, -⟩
    obtain ⟨-, rfl⟩ := Prod.mk.inj (Except.ok.inj (loadHere_sharingWorld.symm.trans hload))
    have hnone : findOwner sharedResolution.config.projects
        (absolutizePath "q" sharingWorld.currentDirectory) = none := by decide +kernel
    exact nomatch hnone.symm.trans howner
  · exact (((run_agrees sharingWorld _).2 _ _).2 hjson).1 _ _ loadHere_sharingWorld nofun

/-! ## Roots that are not shown as they are -/

/-- A workspace whose name holds the sequence that makes a terminal write bold,
and a file in it. -/
def boldWords : List String := ["owner", "/w\x1b[1m/f", "-w", "/w\x1b[1m"]

/-- A current directory whose name no output can hold. -/
def surrogateWorld : World where
  disk := .empty
  currentDirectory := .ofCodes [0x2f, 0xdcff]
  environment := []
  envFile := none

/-- Without a configuration file there is one project. -/
theorem loadHere_of_bare {w : World} {workspace base : Text} {p : Project}
    (hload : w.loadConfig (absolutizePath workspace w.currentDirectory) none = .ok ⟨base, .empty⟩)
    (hresolve : resolve w.finder base (absolutizePath workspace w.currentDirectory) .empty
      = .ok ⟨⟨[], sortByDepth [p]⟩, []⟩) :
    w.loadHere workspace none = .ok (base, ⟨⟨[], [p]⟩, []⟩) := by
  rw [sortByDepth_singleton] at hresolve
  simp only [World.loadHere, Option.map_none, World.loadAndResolve, hload, bind, Except.bind,
    hresolve, pure, Except.pure]

/-- Without a configuration file and other files, the workspace owns what is in it. -/
theorem findsOwner_of_bare {w : World} {file workspace root : Text}
    (hload : w.loadConfig (absolutizePath workspace w.currentDirectory) none = .ok ⟨root, .empty⟩)
    (hresolve : resolve w.finder root (absolutizePath workspace w.currentDirectory) .empty
      = .ok ⟨⟨[], sortByDepth [⟨root, none, none⟩]⟩, []⟩)
    (howner : findOwner [⟨root, none, none⟩] (absolutizePath file w.currentDirectory)
      = some ⟨root, none, none⟩) :
    w.FindsOwner file workspace none root :=
  ⟨root, _, _, loadHere_of_bare hload hresolve, howner, rfl⟩

/-- Loading, resolving and the search for the owner succeed, but the root that is
shown is another one, or none is. -/
theorem run_unshownRoots :
    AsksOwner boldWords "/w\x1b[1m/f" "/w\x1b[1m" none
      ∧ bareWorld.FindsOwner "/w\x1b[1m/f" "/w\x1b[1m" none "/w\x1b[1m"
      ∧ run bareWorld boldWords = .finished "/w\n"
      ∧ (run bareWorld boldWords).output ≠ "/w\x1b[1m\n"
      ∧ AsksOwner ["owner", "f"] "f" "." none
      ∧ surrogateWorld.FindsOwner "f" "." none (.ofCodes [0x2f, 0xdcff])
      ∧ (run surrogateWorld ["owner", "f"]).exitCode ≠ 0 := by
  have hbold : AsksOwner boldWords "/w\x1b[1m/f" "/w\x1b[1m" none :=
    ofArguments_eq_owner_iff.mp rfl
  have hplain : AsksOwner ["owner", "f"] "f" "." none := ofArguments_eq_owner_iff.mp rfl
  have hboldOwner : bareWorld.FindsOwner "/w\x1b[1m/f" "/w\x1b[1m" none "/w\x1b[1m" :=
    findsOwner_of_bare rfl rfl (by decide +kernel)
  have hsurrogateOwner : surrogateWorld.FindsOwner "f" "." none (.ofCodes [0x2f, 0xdcff]) :=
    findsOwner_of_bare rfl rfl (by decide +kernel)
  have hrun : run bareWorld boldWords = .finished "/w\n" := by decide +kernel
  refine ⟨hbold, hboldOwner, hrun, ?_, hplain, hsurrogateOwner, ?_⟩
  · rw [hrun]
    decide
  · decide +kernel

end CommandLine

end Workspace
