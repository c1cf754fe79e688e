/-
Workspace.Issue — what a validation finds wrong, and where.

A validation goes through the whole value and collects every issue in
order; `Checked` is its outcome. The location of an issue is the way from
the validated value down to the part at fault.
-/
import Workspace.Value

namespace Workspace

/-- One step of a location. -/
inductive Step where
  | name (text : String)
  | index (i : Int)
  deriving DecidableEq, Repr

inductive IssueKind where
  | missing
  | boolType
  | boolParsing
  | intType
  | intParsing
  | intParsingSize
  | intFromFloat
  | finiteNumber
  | floatType
  | stringType
  | stringUnicode
  | dictType
  | listType
  | tupleType
  /-- The value is no mapping that could be read as the named record. -/
  | modelType (record : String)
  /-- The value is none of the listed texts. -/
  | literal (expected : List String)
  | rule (text : String)
  deriving DecidableEq, Repr

structure Issue where
  location : List Step
  kind : IssueKind
  deriving DecidableEq, Repr

/-- The same issues seen from further up. -/
def Issue.within (step : Step) (issues : List Issue) : List Issue :=
  issues.map fun i => { i with location := step :: i.location }

namespace IssueKind

/-- The short name of a kind of issue. -/
def tag : IssueKind → String
  | missing => "missing"
  | boolType => "bool_type"
  | boolParsing => "bool_parsing"
  | intType => "int_type"
  | intParsing => "int_parsing"
  | intParsingSize => "int_parsing_size"
  | intFromFloat => "int_from_float"
  | finiteNumber => "finite_number"
  | floatType => "float_type"
  | stringType => "string_type"
  | stringUnicode => "string_unicode"
  | dictType => "dict_type"
  | listType => "list_type"
  | tupleType => "tuple_type"
  | modelType _ => "model_type"
  | literal _ => "literal_error"
  | rule _ => "value_error"

/-- Alternatives in quotes, the last one after `or`. -/
def alternatives : List String → String
  | [] => ""
  | [a] => "'" ++ a ++ "'"
  | [a, b] => "'" ++ a ++ "' or '" ++ b ++ "'"
  | a :: rest => "'" ++ a ++ "', " ++ alternatives rest

/-- The text that tells the user. -/
def text : IssueKind → String
  | missing => "Field required"
  | boolType => "Input should be a valid boolean"
  | boolParsing => "Input should be a valid boolean, unable to interpret input"
  | intType => "Input should be a valid integer"
  | intParsing => "Input should be a valid integer, unable to parse string as an integer"
  | intParsingSize => "Unable to parse input string as an integer, exceeded maximum size"
  | intFromFloat => "Input should be a valid integer, got a number with a fractional part"
  | finiteNumber => "Input should be a finite number"
  | floatType => "Input should be a valid number"
  | stringType => "Input should be a valid string"
  | stringUnicode =>
    "Input should be a valid string, unable to parse raw data as a unicode string"
  | dictType => "Input should be a valid dictionary"
  | listType => "Input should be a valid list"
  | tupleType => "Input should be a valid tuple"
  | modelType record => "Input should be a valid dictionary or instance of " ++ record
  | literal expected => "Input should be " ++ alternatives expected
  | rule text => "Value error, " ++ text

end IssueKind

/-- The outcome of a validation: a result, or every issue found. -/
abbrev Checked (α : Type) := Except (List Issue) α

namespace Checked

/-- A single issue with the validated value itself. -/
def issue {α : Type} (kind : IssueKind) : Checked α :=
  .error [⟨[], kind⟩]

/-- The same outcome seen from further up. -/
def under {α : Type} (step : Step) : Checked α → Checked α
  | .ok a => .ok a
  | .error issues => .error (Issue.within step issues)

/-- Both outcomes, with the issues of both. -/
def both {α β : Type} : Checked α → Checked β → Checked (α × β)
  | .ok a, .ok b => .ok (a, b)
  | .ok _, .error issues => .error issues
  | .error issues, .ok _ => .error issues
  | .error first, .error second => .error (first ++ second)

theorem both_eq_ok_iff {α β : Type} {c : Checked α} {d : Checked β} {a : α} {b : β} :
    both c d = .ok (a, b) ↔ c = .ok a ∧ d = .ok b := by
  cases c <;> cases d <;> simp [both]

theorem under_eq_ok_iff {α : Type} {step : Step} {c : Checked α} {a : α} :
    under step c = .ok a ↔ c = .ok a := by
  cases c <;> simp [under]

/-- All outcomes, with the issues of all. -/
def all {α : Type} : List (Checked α) → Checked (List α)
  | [] => .ok []
  | c :: cs =>
    match both c (all cs) with
    | .ok (a, as) => .ok (a :: as)
    | .error issues => .error issues

/-- The issues of an outcome; none when it succeeded. -/
def issues {α : Type} : Checked α → List Issue
  | .ok _ => []
  | .error issues => issues

end Checked

namespace Value

/-- The name of a key in a location: texts and machine integers stand for
themselves, everything else is spelled out. A surrogate in a text is shown as
three replacement characters, one for each byte that it would take. -/
def step : Value → Step
  | .str s => .name (s.withReplacements 3)
  | .bool b => .index (if b then 1 else 0)
  | .int i =>
    if -(Nat.pow 2 63 : Int) ≤ i ∧ i < Nat.pow 2 63 then .index i
    else .name (Decimal.intText i)
  | v => .name v.shown

end Value

/-- The headline of a failed validation of the named record. -/
def validationHeadline (record : String) (issues : List Issue) : String :=
  String.ofList (Decimal.natDigits issues.length)
    ++ (if issues.length = 1 then " validation error for " else " validation errors for ")
    ++ record

end Workspace
