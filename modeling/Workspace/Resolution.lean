/-
Workspace.Resolution — a user's configuration resolved as a whole.

Every declaration becomes a project; a workspace that declares none is one
project itself. The projects are listed deepest root first, so that the
first root that holds a file is its nearest one, and a root that is declared
more than once is warned about, once.
-/
import Workspace.Project

namespace Workspace

/-- The resolved configuration: the settings as they were written and the
projects, deepest root first. -/
structure FullConfig where
  settings : Settings
  projects : List Project
  deriving DecidableEq

/-- A resolved configuration with the roots that are declared repeatedly and
how often each of them is. -/
structure Resolution where
  config : FullConfig
  repeated : List (Text × Nat)
  deriving DecidableEq

/-- The different texts of a list, in order of first occurrence. -/
def distinct : List Text → List Text
  | [] => []
  | s :: rest => s :: (distinct rest).filter (· ≠ s)

/-- The texts that occur more than once, with their number. -/
def repeatedTexts (texts : List Text) : List (Text × Nat) :=
  ((distinct texts).map fun s => (s, texts.count s)).filter fun p => 1 < p.2

/-- The warning about a root that is declared `count` times. -/
def repeatedRootWarning (root : Text) (count : Nat) : Text :=
  "Project root " ++ root ++ " is declared " ++ String.ofList (Decimal.natDigits count)
    ++ " times; the first one wins"

def Resolution.warnings (r : Resolution) : List Text :=
  r.repeated.map fun (root, count) => repeatedRootWarning root count

/-- The declarations of a configuration; without any, the workspace itself is
declared. -/
def declarationsOf (workspace : Text) (config : UserConfig) : List Declaration :=
  match config.projects.getD [] with
  | [] => [.path (normalizePath workspace)]
  | declared => declared

/-- All declarations resolved, in order; the first error ends it. -/
def resolveAll (find : Finder) (base : Text) : List Declaration → Except Error (List Project)
  | [] => .ok []
  | d :: rest => do
    let project ← resolveProject find base d
    let projects ← resolveAll find base rest
    return project :: projects

/-- Resolves a configuration: roots are taken from `base`, and `workspace` is
the root of the project that is there when none is declared. -/
def resolve (find : Finder) (base workspace : Text) (config : UserConfig) :
    Except Error Resolution := do
  let projects ← resolveAll find base (declarationsOf workspace config)
  return {
    config := ⟨config.settings.getD [], sortByDepth projects⟩
    repeated := repeatedTexts (projects.map Project.root) }

/-- The configuration that a caller hands over: nothing, or a mapping. -/
def UserConfig.ofArgument : Value → Except Error UserConfig
  | .null => .ok .empty
  | .map entries => ofMapping entries
  | v => .error (.notConfig v.kindName)

/-! ## As data -/

namespace Project

/-- The fields of a project that are set. -/
def toValue (p : Project) : Value :=
  let entry (name : String) (v : Option Text) : List (Value × Value) :=
    match v with
    | none => []
    | some s => [(.str name, .str s)]
  .map ((.str "root", .str p.root) :: entry "package" p.package ++ entry "tsconfig" p.tsconfig)

/-- All fields of a project, null where they are not set. -/
def toFullValue (p : Project) : Value :=
  let text (v : Option Text) : Value := match v with | none => .null | some s => .str s
  .map [(.str "root", .str p.root), (.str "package", text p.package),
    (.str "tsconfig", text p.tsconfig)]

end Project

def Settings.toValue (settings : Settings) : Value :=
  .map (settings.map fun (name, v) => (.str name, v.toValue))

/-- A resolved configuration in the shape in which one is written. -/
def FullConfig.toValue (c : FullConfig) : Value :=
  .map [(.str "settings", c.settings.toValue),
    (.str "projects", .list (c.projects.map Project.toValue))]

/-- A resolved configuration with every field. -/
def FullConfig.toFullValue (c : FullConfig) : Value :=
  .map [(.str "settings", c.settings.toValue),
    (.str "projects", .list (c.projects.map Project.toFullValue))]

/-! ## From data -/

/-- The project that the fields of a mapping make up. -/
def Project.ofValue : Value → Checked Project
  | .map entries =>
    (Checked.both (field entries "root" (.issue .missing) laxText)
      (.both (field entries "package" (.ok none) (optional laxText))
        (field entries "tsconfig" (.ok none) (optional laxText)))).map
      fun (root, package, tsconfig) => ⟨root, package, tsconfig⟩
  | _ => .issue (.modelType "CoffeeSenseProject")

/-- The resolved configuration with the fields that are given. -/
def FullConfig.ofFields (settings projects : Option Value) : Except Error FullConfig :=
  let settings : Checked Settings :=
    match settings with
    | none => .ok []
    | some v => .under (.name "settings") (settingsOf v)
  let projects : Checked (List Project) :=
    match projects with
    | none => .ok []
    | some v => .under (.name "projects") (match listMembers? v with
      | none => .issue .tupleType
      | some items => Checked.all (indexed Project.ofValue 0 items))
  match Checked.both settings projects with
  | .ok (settings, projects) => .ok ⟨settings, projects⟩
  | .error issues => .error (.invalidRecord "CoffeeSenseFullConfig" issues)

end Workspace
