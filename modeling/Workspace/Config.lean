/-
Workspace.Config — the configuration that a user writes.

A configuration has settings, which are passed on untouched, and a list of
project declarations. `UserConfig.ofValue` accepts exactly the values of the
documented shape and reports every issue of the others:

* `settings`, if it is there and not null, maps texts to booleans, integers,
  numbers or texts;
* `projects`, if it is there and not null, lists paths and records; a record
  has a `root` and may have a `package` and a `tsconfig`;
* no path and no root is blank.

Everything else in a configuration is ignored.
-/
import Workspace.Error
import Workspace.Text.Blank
import Workspace.Text.Utf8

namespace Workspace

/-- The value of a setting. -/
inductive Setting where
  | bool (b : Bool)
  | int (i : Int)
  | float (x : Float)
  | str (s : Text)
  deriving DecidableEq

def Setting.toValue : Setting → Value
  | .bool b => .bool b
  | .int i => .int i
  | .float x => .float x
  | .str s => .str s

/-- Settings by name, in the order in which they were written. -/
abbrev Settings := List (Text × Setting)

/-- A project as the user declares it; overrides are relative to `root`. -/
structure ProjectRecord where
  root : Text
  package : Option Text
  tsconfig : Option Text
  deriving DecidableEq, Repr

inductive Declaration where
  | path (root : Text)
  | record (fields : ProjectRecord)
  deriving DecidableEq, Repr

structure UserConfig where
  settings : Option Settings
  projects : Option (List Declaration)
  deriving DecidableEq

/-- The configuration of a workspace without one. -/
def UserConfig.empty : UserConfig := ⟨none, none⟩

/-! ## Texts -/

/-- A text, taken as it is. -/
def strictText : Value → Checked Text
  | .str s => .ok s
  | _ => .issue .stringType

/-- A text, or bytes that spell one. -/
def laxText : Value → Checked Text
  | .bytes b =>
    match String.fromUTF8? ⟨b.toArray⟩ with
    | some s => .ok s
    | none => .issue .stringUnicode
  | v => strictText v

/-- Nothing, or a value that passes the check. -/
def optional {α : Type} (check : Value → Checked α) : Value → Checked (Option α)
  | .null => .ok none
  | v => (check v).map some

/-! ## Settings -/

/-- The issues of a value that is no setting: one for each kind it might have
been. -/
def settingIssues : List Issue :=
  [⟨[.name "bool"], .boolType⟩, ⟨[.name "int"], .intType⟩,
   ⟨[.name "float"], .floatType⟩, ⟨[.name "str"], .stringType⟩]

def settingOf : Value → Checked Setting
  | .bool b => .ok (.bool b)
  | .int i => .ok (.int i)
  | .float x => .ok (.float x)
  | .str s => .ok (.str s)
  | _ => .error settingIssues

/-- One entry of the settings, with the issues of its key before those of its
value. -/
def settingEntry (entry : Value × Value) : Checked (Text × Setting) :=
  .under entry.1.step
    (.both (.under (.name "[key]") (laxText entry.1)) (settingOf entry.2))

/-- Assigns a setting: a name that is there keeps its place. -/
def Settings.insert (name : Text) (value : Setting) : Settings → Settings
  | [] => [(name, value)]
  | (n, v) :: rest => if n = name then (n, value) :: rest else (n, v) :: insert name value rest

/-- The settings that result from assigning the pairs in order. -/
def Settings.ofPairs (pairs : List (Text × Setting)) : Settings :=
  pairs.foldl (fun settings p => settings.insert p.1 p.2) []

def settingsOf : Value → Checked Settings
  | .map entries => (Checked.all (entries.map settingEntry)).map Settings.ofPairs
  | _ => .issue .dictType

/-! ## Projects -/

/-- The fields of a record, looked up by name; `absent` stands in for a field
that is not there. -/
def field {α : Type} (entries : List (Value × Value)) (name : String)
    (absent : Checked α) (check : Value → Checked α) : Checked α :=
  .under (.name name) (match Value.lookup? entries name with
    | none => absent
    | some v => check v)

/-- A root that is not blank. -/
def rootText (v : Value) : Checked Text :=
  match strictText v with
  | .error issues => .error issues
  | .ok s => if Text.isBlank s then .issue (.rule "project root must not be empty") else .ok s

/-- The record with these fields. -/
def recordOf (entries : List (Value × Value)) : Checked ProjectRecord :=
  (Checked.both (field entries "root" (.issue .missing) rootText)
    (.both (field entries "package" (.ok none) (optional strictText))
      (field entries "tsconfig" (.ok none) (optional strictText)))).map
    fun (root, package, tsconfig) => ⟨root, package, tsconfig⟩

/-- The record that a value is read as. -/
def recordOfValue : Value → Checked ProjectRecord
  | .map entries => recordOf entries
  | _ => .issue (.modelType "ProjectDeclaration")

/-- One entry of the project list: a path or a record. -/
def declarationOf (v : Value) : Checked Declaration :=
  match strictText v with
  | .ok s => .ok (.path s)
  | .error textIssues =>
    match recordOfValue v with
    | .ok r => .ok (.record r)
    | .error recordIssues =>
      .error (Issue.within (.name "str") textIssues
        ++ Issue.within (.name "ProjectDeclaration") recordIssues)

/-- A declaration that is a blank path. -/
def Declaration.isBlankPath : Declaration → Bool
  | .path s => Text.isBlank s
  | .record _ => false

/-- The members of a value that can stand for a list. -/
def listMembers? : Value → Option (List Value)
  | .list items => some items
  | .set items => some items
  | _ => none

/-- Checks the members of a list, each under its index. -/
def indexed {α : Type} (check : Value → Checked α) (first : Nat) : List Value → List (Checked α)
  | [] => []
  | v :: vs => .under (.index first) (check v) :: indexed check (first + 1) vs

def projectsOf (v : Value) : Checked (List Declaration) :=
  match listMembers? v with
  | none => .issue .listType
  | some items =>
    match Checked.all (indexed declarationOf 0 items) with
    | .error issues => .error issues
    | .ok declarations =>
      if declarations.any Declaration.isBlankPath then
        .issue (.rule "project path must not be empty")
      else .ok declarations

/-! ## Configurations -/

/-- The configuration that the entries of a mapping make up. -/
def UserConfig.ofEntries (entries : List (Value × Value)) : Checked UserConfig :=
  (Checked.both (field entries "settings" (.ok none) (optional settingsOf))
    (field entries "projects" (.ok none) (optional projectsOf))).map
    fun (settings, projects) => ⟨settings, projects⟩

/-- The configuration of a mapping, or the error that lists its issues. -/
def UserConfig.ofMapping (entries : List (Value × Value)) : Except Error UserConfig :=
  match ofEntries entries with
  | .ok config => .ok config
  | .error issues => .error (.invalidConfig issues)

/-- The members of a value when it is gone through one by one. -/
def iterated? : Value → Option (List Value)
  | .list items | .set items => some items
  | .map entries => some (entries.map (·.1))
  | .str s => some (s.map fun p => .str [p])
  | .bytes b => some (b.map fun x => .int x.toNat)
  | _ => none

/-- The entries that pairs listed in a value spell. -/
def entriesOfPairs (index : Nat) (entries : List (Value × Value)) :
    List Value → Except ContentFault (List (Value × Value))
  | [] => .ok entries
  | v :: vs =>
    match iterated? v with
    | none => .error (.notPairSequence index)
    | some [key, value] =>
      if key.isKey then entriesOfPairs (index + 1) (Value.insertEntry key value entries) vs
      else .error (.unhashableKey key.kindName)
    | some other => .error (.notPair index other.length)

/-- The entries of a mapping, or of a value that lists pairs; a value that is
absent, zero or empty has none. -/
def entriesOf (v : Value) : Except ContentFault (List (Value × Value)) :=
  if v.isEmptyish then .ok []
  else
    match v with
    | .map entries => .ok entries
    | _ =>
      match iterated? v with
      | none => .error (.notIterable v.kindName)
      | some items => entriesOfPairs 0 [] items

/-- The configuration that any value stands for. -/
def UserConfig.ofValue (v : Value) : Except Error UserConfig :=
  match entriesOf v with
  | .ok entries => ofMapping entries
  | .error fault => .error (.content fault)

end Workspace
