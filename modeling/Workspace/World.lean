/-
Workspace.World — what the outside looks like to the resolver.

A `World` is a disk, a current directory, the environment variables, the text
of the `.env` file, if there is one, and the width of the console.
-/
import Workspace.Disk
import Workspace.Path

namespace Workspace

/-- Why a variable cannot be set. -/
inductive VariableFault where
  /-- The name or the value holds the character that ends texts. -/
  | nul
  /-- The name holds the character that ends names. -/
  | equalsSign
  deriving DecidableEq, Repr

def VariableFault.message : VariableFault → String
  | .nul => "embedded null byte"
  | .equalsSign => "illegal environment variable name"

/-- Why the text of a file of variables cannot be had. -/
inductive TextFault where
  | undecodable (fault : Utf8Fault)
  /-- The file at the path cannot be opened. -/
  | refused (path : Text) (fault : OsFault)
  deriving DecidableEq, Repr

/-- Why a file of variables cannot be taken into the environment. -/
inductive SettleFault where
  | unreadable (fault : TextFault)
  | unsettable (fault : VariableFault)
  deriving DecidableEq, Repr

instance : Coe VariableFault SettleFault := ⟨.unsettable⟩

/-- Variables with their values; no name occurs twice. -/
abbrev Environment := List (String × String)

namespace Environment

def value? (env : Environment) (name : String) : Option String :=
  env.lookup name

/-- The environment with the variable set. -/
def set (env : Environment) (name value : String) : Environment :=
  (name, value) :: env.filter (·.1 ≠ name)

def unset (env : Environment) (name : String) : Environment :=
  env.filter (·.1 ≠ name)

/-- What is wrong with a variable of this name and value. -/
def fault? (name value : String) : Option VariableFault :=
  if name.toList.contains '\x00' ∨ value.toList.contains '\x00' then some .nul
  else if name.toList.contains '=' then some .equalsSign
  else none

/-- Sets those of the variables that are not set, in order, up to the first
one that cannot be set. -/
def assign (env : Environment) : List (String × String) → Environment × Option VariableFault
  | [] => (env, none)
  | (name, value) :: rest =>
    match env.value? name, fault? name value with
    | some _, _ => assign env rest
    | none, some fault => (env, some fault)
    | none, none => assign (env.set name value) rest

/-- Dropping one name leaves what every other name stands for. -/
theorem lookup_filter_ne (env : Environment) {name other : String} (h : other ≠ name) :
    (env.filter (·.1 ≠ name)).lookup other = env.lookup other := by
  induction env with
  | nil => rfl
  | cons entry env ih =>
    obtain ⟨n, v⟩ := entry
    by_cases hn : n = name
    · subst hn
      have hb : (other == n) = false := beq_eq_false_iff_ne.mpr h
      simpa [List.lookup_cons, hb] using ih
    · simp only [ne_eq, hn, not_false_eq_true, decide_true, List.filter_cons_of_pos,
        List.lookup_cons]
      split
      · rfl
      · exact ih

theorem value?_set_self (env : Environment) (name value : String) :
    (env.set name value).value? name = some value := by
  simp [value?, set]

theorem value?_set_of_ne (env : Environment) {name other : String} (value : String)
    (h : other ≠ name) : (env.set name value).value? other = env.value? other := by
  have hb : (other == name) = false := beq_eq_false_iff_ne.mpr h
  rw [value?, set, List.lookup_cons, hb]
  exact lookup_filter_ne env h

theorem value?_unset_of_ne (env : Environment) {name other : String} (h : other ≠ name) :
    (env.unset name).value? other = env.value? other :=
  lookup_filter_ne env h

/-- A variable that is set keeps its value. -/
theorem value?_assign_of_some {env : Environment} {name v : String}
    (assignments : List (String × String)) (h : env.value? name = some v) :
    (env.assign assignments).1.value? name = some v := by
  induction assignments generalizing env with
  | nil => exact h
  | cons a rest ih =>
    obtain ⟨n, value⟩ := a
    rw [assign]
    split
    · exact ih h
    · exact h
    · next hn _ =>
      refine ih ?_
      rw [value?_set_of_ne env value ?_]
      · exact h
      · rintro rfl
        rw [h] at hn
        exact Option.some_ne_none v hn

end Environment

structure World where
  disk : Disk
  currentDirectory : Text
  environment : Environment
  /-- The text of the `.env` file, if there is a file. -/
  envFile : Option String
  /-- Why the text of the `.env` file cannot be had, if it cannot. -/
  envFault : Option TextFault := none
  /-- The columns of the console. Where neither a terminal nor the variable
  `COLUMNS` says otherwise it has 80; without further notice every line fits. -/
  columns : Nat := 10000

end Workspace
