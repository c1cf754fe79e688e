/-
Workspace.Proofs.SettledEnvironment — taking the `.env` file in once more.

The file is read in the environment that it writes to: a value that refers to
a variable is another one when the variable was set in between. The second
time, though, every variable that the file could set is set and passed over,
so all that matters is where the first time ended. `World.refused?` is the
variable that could not be set there. Its name is the same the second time,
and its value is made of the same pieces, or of pieces that could be set
(`forall₂_assignments`): it can have lost the character that ends texts, but
not gained it.

So the second time ends where the first one did, for the same reason, and
leaves the environment as it is (`withFile_settled`), unless the refused value
has lost that character. `World.StopsForGood` excludes this.
-/
import Mathlib.Data.List.Forall2
import Mathlib.Data.List.Induction
import Mathlib.Data.Option.Basic
import Workspace.EnvFile

namespace Workspace

namespace Environment

variable {env env' : Environment} {assignments : List (String × String)} {name value v : String}

/-! ## What an assignment leaves -/

/-- The first of the variables that is not set and cannot be set. -/
def refused? (env : Environment) : List (String × String) → Option (String × String)
  | [] => none
  | (name, value) :: rest =>
    match env.value? name, fault? name value with
    | some _, _ => refused? env rest
    | none, some _ => some (name, value)
    | none, none => refused? (env.set name value) rest

/-- A variable has a value because it was set before, or by one of the
assignments. -/
theorem value?_assign_cases (h : (env.assign assignments).1.value? name = some v) :
    env.value? name = some v
      ∨ (env.value? name = none ∧ (name, v) ∈ assignments ∧ fault? name v = none) := by
  induction assignments generalizing env with
  | nil => exact Or.inl h
  | cons a rest ih =>
    obtain ⟨n, value⟩ := a
    rw [assign] at h
    split at h
    · rcases ih h with hset | ⟨hnone, hmem, hfault⟩
      · exact Or.inl hset
      · exact Or.inr ⟨hnone, List.mem_cons_of_mem _ hmem, hfault⟩
    · exact Or.inl h
    · next hunset hfine =>
      by_cases hname : name = n
      · subst hname
        rcases ih h with hset | ⟨hnone, -⟩
        · rw [value?_set_self, Option.some.injEq] at hset
          subst hset
          exact Or.inr ⟨hunset, List.mem_cons_self, hfine⟩
        · simp [value?_set_self] at hnone
      · rw [← value?_set_of_ne env value hname]
        rcases ih h with hset | ⟨hnone, hmem, hfault⟩
        · exact Or.inl hset
        · exact Or.inr ⟨hnone, List.mem_cons_of_mem _ hmem, hfault⟩

/-- Where no variable is refused, all of them are set. -/
theorem assign_of_refused?_eq_none (h : env.refused? assignments = none) :
    (env.assign assignments).2 = none
      ∧ ∀ a ∈ assignments, ((env.assign assignments).1.value? a.1).isSome := by
  induction assignments generalizing env with
  | nil => simp [assign]
  | cons a rest ih =>
    obtain ⟨n, value⟩ := a
    rw [refused?] at h
    rw [assign]
    cases hset : env.value? n with
    | some old =>
      simp only [hset] at h ⊢
      obtain ⟨hfault, hall⟩ := ih h
      refine ⟨hfault, List.forall_mem_cons.mpr ⟨?_, hall⟩⟩
      rw [value?_assign_of_some rest hset]
      rfl
    | none =>
      cases hfault : fault? n value with
      | some fault => simp [hset, hfault] at h
      | none =>
        simp only [hset, hfault] at h ⊢
        obtain ⟨hend, hall⟩ := ih h
        refine ⟨hend, List.forall_mem_cons.mpr ⟨?_, hall⟩⟩
        rw [value?_assign_of_some rest (value?_set_self env n value)]
        rfl

/-- Where a variable is refused, those before it are set, it is not, and what is
wrong with it ends the assignment. -/
theorem assign_of_refused?_eq_some (h : env.refused? assignments = some (name, value)) :
    (env.assign assignments).2 = fault? name value
      ∧ (fault? name value).isSome
      ∧ (env.assign assignments).1.value? name = none
      ∧ ∃ before after, assignments = before ++ (name, value) :: after
          ∧ ∀ a ∈ before, ((env.assign assignments).1.value? a.1).isSome := by
  induction assignments generalizing env with
  | nil => simp [refused?] at h
  | cons a rest ih =>
    obtain ⟨n, new⟩ := a
    rw [refused?] at h
    rw [assign]
    cases hset : env.value? n with
    | some old =>
      simp only [hset] at h ⊢
      obtain ⟨hend, hfault, hunset, before, after, rfl, hall⟩ := ih h
      refine ⟨hend, hfault, hunset, (n, new) :: before, after, rfl,
        List.forall_mem_cons.mpr ⟨?_, hall⟩⟩
      rw [value?_assign_of_some _ hset]
      rfl
    | none =>
      cases hfault : fault? n new with
      | some fault =>
        simp only [hset, hfault, Option.some.injEq, Prod.mk.injEq] at h ⊢
        obtain ⟨rfl, rfl⟩ := h
        exact ⟨hfault.symm, by simp [hfault], hset, [], rest, rfl, by simp⟩
      | none =>
        simp only [hset, hfault] at h ⊢
        obtain ⟨hend, hsome, hunset, before, after, rfl, hall⟩ := ih h
        refine ⟨hend, hsome, hunset, (n, new) :: before, after, rfl,
          List.forall_mem_cons.mpr ⟨?_, hall⟩⟩
        rw [value?_assign_of_some _ (value?_set_self env n new)]
        rfl

/-- Variables that are set are passed over. -/
theorem assign_append_of_isSome {before : List (String × String)}
    (h : ∀ a ∈ before, (env.value? a.1).isSome) (rest : List (String × String)) :
    env.assign (before ++ rest) = env.assign rest := by
  induction before with
  | nil => rfl
  | cons a before ih =>
    obtain ⟨n, value⟩ := a
    obtain ⟨hset, hrest⟩ := List.forall_mem_cons.mp h
    obtain ⟨old, hold⟩ := Option.isSome_iff_exists.mp hset
    rw [List.cons_append, assign]
    simp only [hold]
    exact ih hrest

/-- What is wrong with a variable is a matter of its name, and of whether the
value holds the character that ends texts. -/
theorem fault?_congr (h : '\x00' ∉ name.toList → ('\x00' ∈ v.toList ↔ '\x00' ∈ value.toList)) :
    fault? name v = fault? name value := by
  by_cases hname : '\x00' ∈ name.toList
  · simp [fault?, hname]
  · simp [fault?, hname, h hname]

/-! ## Growth -/

/-- An environment in which everything is still set to what it was; what was set
since could be set. -/
structure Grows (env env' : Environment) : Prop where
  keeps : ∀ {name v : String}, env.value? name = some v → env'.value? name = some v
  adds : ∀ {name v : String}, env.value? name = none → env'.value? name = some v →
    '\x00' ∉ v.toList

theorem grows_assign (env : Environment) (assignments : List (String × String)) :
    env.Grows (env.assign assignments).1 where
  keeps := value?_assign_of_some assignments
  adds := by
    intro name v hunset hset
    rcases value?_assign_cases hset with hold | ⟨-, -, hfault⟩
    · simp [hunset] at hold
    · intro hnul
      simp [fault?, hnul] at hfault

end Environment

namespace EnvFile

variable {env env' : Environment} {earlier earlier' : List Binding}

/-! ## A file read in a grown environment -/

/-- A value that holds the character that ends texts only if the other one does. -/
def NoWorse (v v' : String) : Prop :=
  '\x00' ∈ v'.toList → '\x00' ∈ v.toList

/-- One binding, read in an environment and in a grown one. -/
structure Binding.NoWorse (b b' : Binding) : Prop where
  name_eq : b'.name = b.name
  value : Option.Rel EnvFile.NoWorse b.value b'.value

theorem noWorse_getD {v v' : Option String} (h : Option.Rel NoWorse v v') :
    NoWorse (v.getD "") (v'.getD "") := by
  cases h with
  | none => exact id
  | some hworse => exact hworse

/-- One assignment, from a file read in an environment and in a grown one. -/
def NoWorseAt (a a' : String × String) : Prop :=
  a'.1 = a.1 ∧ NoWorse a.2 a'.2

theorem rel_assigned {latest latest' : Option Binding}
    (h : Option.Rel Binding.NoWorse latest latest') (name : String) :
    Option.Rel NoWorseAt (latest.bind fun b => b.value.map fun value => (name, value))
      (latest'.bind fun b => b.value.map fun value => (name, value)) := by
  cases h with
  | none => exact .none
  | @some b b' hb =>
    obtain ⟨-, hvalue⟩ := hb
    simp only [Option.bind_some]
    generalize b.value = v at hvalue ⊢
    generalize b'.value = v' at hvalue ⊢
    cases hvalue with
    | none => exact .none
    | some hworse => exact .some ⟨rfl, hworse⟩

/-- The latest bindings of one name correspond. -/
theorem rel_find? (h : List.Forall₂ Binding.NoWorse earlier earlier') (name : String) :
    Option.Rel Binding.NoWorse (earlier.find? (·.name = name))
      (earlier'.find? (·.name = name)) := by
  induction h with
  | nil => exact .none
  | @cons b b' earlier earlier' hb _ ih =>
    by_cases hname : b.name = name
    · simpa [hname, hb.name_eq] using hb
    · simpa [hname, hb.name_eq] using ih

theorem nul_mem_referenced (hgrows : env.Grows env')
    (hearlier : List.Forall₂ Binding.NoWorse earlier earlier') {name : String}
    {default : Option (List Char)} (h : '\x00' ∈ referenced env' earlier' name default) :
    '\x00' ∈ referenced env earlier name default := by
  unfold referenced at h ⊢
  cases hold : env.value? name with
  | some v =>
    simpa [hgrows.keeps hold] using h
  | none =>
    cases hnew : env'.value? name with
    | some v =>
      rw [hnew] at h
      exact absurd h (hgrows.adds hold hnew)
    | none =>
      rw [hnew] at h
      have hlatest := rel_find? hearlier name
      generalize earlier.find? (·.name = name) = latest at hlatest ⊢
      generalize earlier'.find? (·.name = name) = latest' at hlatest h
      cases hlatest with
      | none => exact h
      | some hb => exact noWorse_getD hb.value h

theorem nul_mem_interpolateFrom (hgrows : env.Grows env')
    (hearlier : List.Forall₂ Binding.NoWorse earlier earlier') :
    ∀ (rounds : Nat) (cs : List Char), '\x00' ∈ interpolateFrom env' earlier' rounds cs →
      '\x00' ∈ interpolateFrom env earlier rounds cs
  | 0, cs, h => h
  | _ + 1, [], h => h
  | rounds + 1, c :: cs, h => by
    have hrest := nul_mem_interpolateFrom hgrows hearlier rounds
    have hplain : '\x00' ∈ c :: interpolateFrom env' earlier' rounds cs →
        '\x00' ∈ c :: interpolateFrom env earlier rounds cs := by
      simp only [List.mem_cons]
      exact Or.imp_right (hrest cs)
    simp only [interpolateFrom] at h ⊢
    split at h
    · split at h
      · simp only [List.mem_append] at h ⊢
        exact h.imp (nul_mem_referenced hgrows hearlier) (hrest _)
      · exact hplain h
    · exact hplain h

/-- The last binding is read after the others. -/
theorem resolved_concat (env : Environment) (bs : List Binding) (b : Binding) :
    resolved env (bs ++ [b])
      = { b with value := b.value.map (interpolate env (resolved env bs)) } :: resolved env bs := by
  simp [resolved]

theorem forall₂_resolved (hgrows : env.Grows env') (bs : List Binding) :
    List.Forall₂ Binding.NoWorse (resolved env bs) (resolved env' bs) := by
  induction bs using List.reverseRecOn with
  | nil => exact .nil
  | append_singleton bs b ih =>
    rw [resolved_concat, resolved_concat]
    refine .cons ⟨rfl, ?_⟩ ih
    cases b.value with
    | none => exact .none
    | some v =>
      refine .some ?_
      simpa [NoWorse, interpolate] using
        nul_mem_interpolateFrom hgrows ih v.toList.length v.toList

/-- Reading a file leaves its names, and what has a value. -/
theorem exists_binding_of_mem_resolved {bs : List Binding} {r : Binding} (h : r ∈ resolved env bs) :
    ∃ b ∈ bs, b.name = r.name ∧ b.value.isSome = r.value.isSome := by
  induction bs using List.reverseRecOn with
  | nil => simp [resolved] at h
  | append_singleton bs b ih =>
    rw [resolved_concat] at h
    rcases List.mem_cons.mp h with rfl | hmem
    · exact ⟨b, by simp, rfl, by simp⟩
    · obtain ⟨b', hb', hlike⟩ := ih hmem
      exact ⟨b', List.mem_append_left _ hb', hlike⟩

/-- A grown environment gives the same variables the same values, but for the
character that ends texts. -/
theorem forall₂_assignments (hgrows : env.Grows env') (text : String) :
    List.Forall₂ NoWorseAt (assignments env text) (assignments env' text) := by
  have hbindings := forall₂_resolved hgrows (bindings text)
  have hnames : (resolved env (bindings text)).map Binding.name
      = (resolved env' (bindings text)).map Binding.name := by
    rw [← List.forall₂_eq_eq_eq, List.forall₂_map_left_iff, List.forall₂_map_right_iff]
    exact hbindings.imp fun _ _ h => h.name_eq.symm
  simp only [assignments, List.map_reverse, hnames]
  refine List.rel_filterMap (R := Eq) ?_ (List.forall₂_eq_eq_eq ▸ rfl)
  rintro name - rfl
  exact rel_assigned (rel_find? hbindings name) name

/-- The variables of both readings are set together. -/
theorem isSome_of_forall₂ {assigned assigned' : List (String × String)}
    (h : List.Forall₂ NoWorseAt assigned assigned')
    (hset : ∀ a ∈ assigned, (env.value? a.1).isSome) :
    ∀ a' ∈ assigned', (env.value? a'.1).isSome := by
  induction h with
  | nil => exact nofun
  | cons ha _ ih =>
    obtain ⟨hhere, hrest⟩ := List.forall_mem_cons.mp hset
    exact List.forall_mem_cons.mpr ⟨ha.1 ▸ hhere, ih hrest⟩

/-- What a file assigns it binds to a value. -/
theorem exists_binding_of_mem_assignments {text name value : String}
    (h : (name, value) ∈ assignments env text) :
    ∃ b ∈ bindings text, b.name = name ∧ b.value.isSome := by
  obtain ⟨n, -, hn⟩ := List.mem_filterMap.mp h
  obtain ⟨latest, hlatest, hvalue⟩ := Option.bind_eq_some_iff.mp hn
  obtain ⟨v, hv, hpair⟩ := Option.map_eq_some_iff.mp hvalue
  obtain ⟨rfl, rfl⟩ := Prod.mk.inj hpair
  obtain ⟨b, hb, hname, hsome⟩ := exists_binding_of_mem_resolved (List.mem_of_find?_eq_some hlatest)
  have hfound := List.find?_some hlatest
  exact ⟨b, hb, hname.trans (by simpa using hfound), by simp [hsome, hv]⟩

end EnvFile

namespace World

variable {w : World}

/-! ## Settling again -/

/-- What the `.env` file assigns in the environment of the world. -/
def assignments (w : World) : List (String × String) :=
  match w.envText? with
  | none => []
  | some text => EnvFile.assignments w.environment text

theorem withFile_eq_assign (w : World) :
    w.environment.withFile w.envText? = w.environment.assign w.assignments := by
  unfold assignments
  cases w.envText? <;> rfl

/-- Taking the `.env` file in leaves its text as it is. -/
theorem envText?_settled (w : World) : w.settled.envText? = w.envText? := rfl

/-- The variable that the `.env` file cannot set, and that it ends at. -/
def refused? (w : World) : Option (String × String) :=
  w.environment.refused? w.assignments

theorem grows_settled (w : World) : w.environment.Grows w.settled.environment := by
  rw [settled, withFile_eq_assign]
  exact w.environment.grows_assign w.assignments

theorem forall₂_assignments_settled (w : World) :
    List.Forall₂ EnvFile.NoWorseAt w.assignments w.settled.assignments := by
  unfold assignments
  rw [envText?_settled]
  cases w.envText? with
  | none => exact .nil
  | some text => exact EnvFile.forall₂_assignments w.grows_settled text

/-- A variable that is refused because of its value is refused again once those
before it are set: the value still holds the character that ends texts. -/
def StopsForGood (w : World) : Prop :=
  ∀ name value value' : String, w.refused? = some (name, value) →
    (name, value') ∈ w.settled.assignments →
      '\x00' ∉ name.toList → '\x00' ∈ value.toList → '\x00' ∈ value'.toList

/-- A file that can be taken in as a whole does not stop at all. -/
theorem stopsForGood_of_settleFault?_eq_none (h : w.settleFault? = none) : w.StopsForGood := by
  intro name value value' hrefused
  obtain ⟨hend, hsome, -⟩ := Environment.assign_of_refused?_eq_some hrefused
  rw [settleFault?, withFile_eq_assign, hend] at h
  split at h
  · simp at h
  · simp [Option.map_eq_none_iff.mp h] at hsome

/-- **Taking the `.env` file in again changes nothing** and fails as it did the
first time. -/
theorem withFile_settled (h : w.StopsForGood) :
    w.settled.environment.withFile w.settled.envText?
      = (w.settled.environment, (w.environment.withFile w.envText?).2) := by
  have hend : w.settled.environment = (w.environment.assign w.assignments).1 := by
    rw [settled, withFile_eq_assign]
  have hsame := w.forall₂_assignments_settled
  rw [withFile_eq_assign, withFile_eq_assign]
  cases hrefused : w.refused? with
  | none =>
    obtain ⟨hnone, hall⟩ := Environment.assign_of_refused?_eq_none hrefused
    rw [← hend] at hall
    have hskip := Environment.assign_append_of_isSome (EnvFile.isSome_of_forall₂ hsame hall) []
    rw [List.append_nil] at hskip
    rw [hskip, hnone]
    rfl
  | some a =>
    obtain ⟨name, value⟩ := a
    obtain ⟨hstop, hsome, hunset, before, after, hsplit, hall⟩ :=
      Environment.assign_of_refused?_eq_some hrefused
    rw [hsplit] at hsame
    -- the second time passes the same variables over and comes to the same one
    have hbefore := (List.forall₂_take_append _ _ _ hsame.flip).flip
    obtain ⟨a', rest', ⟨hname, hworse⟩, -, hrest⟩ :=
      List.forall₂_cons_right_iff.mp (List.forall₂_drop_append _ _ _ hsame.flip)
    obtain ⟨name', value'⟩ := a'
    obtain rfl : name' = name := hname
    have hmem : (name', value') ∈ w.settled.assignments :=
      List.mem_of_mem_drop (hrest ▸ List.mem_cons_self)
    have hagain : Environment.fault? name' value' = Environment.fault? name' value :=
      Environment.fault?_congr fun hname =>
        ⟨hworse, h name' value value' hrefused hmem hname⟩
    rw [← hend] at hall hunset
    obtain ⟨fault, hsome⟩ := Option.isSome_iff_exists.mp hsome
    rw [← List.take_append_drop before.length w.settled.assignments, hrest,
      Environment.assign_append_of_isSome (EnvFile.isSome_of_forall₂ hbefore hall),
      Environment.assign, hstop, hunset, hagain, hsome]

theorem settleFault?_settled (h : w.StopsForGood) : w.settled.settleFault? = w.settleFault? := by
  have hfault : w.settled.envFault = w.envFault := rfl
  rw [settleFault?, settleFault?, hfault, withFile_settled h]

end World

end Workspace
