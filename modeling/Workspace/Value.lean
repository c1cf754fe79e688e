/-
Workspace.Value — the data that a configuration text or a caller hands over.

Values are what JSON and YAML texts denote, before any rule of the
configuration looks at them. A mapping keeps its entries in order of first
insertion, and its keys are compared as numbers are: `1`, `1.0` and `true`
are one key (`Value.sameKey`). `Value.shown` is the spelling of a value in
messages.
-/
import Workspace.Calendar
import Workspace.Text.Quoted

namespace Workspace

inductive Value where
  | null
  | bool (b : Bool)
  | int (i : Int)
  | float (x : Float)
  | str (s : Text)
  | bytes (b : List UInt8)
  | date (d : Date)
  | moment (m : Moment)
  | list (items : List Value)
  | set (items : List Value)
  | map (entries : List (Value × Value))

namespace Value

/-- The exact integer that a number equals, where booleans are 0 and 1. -/
def integerValue? : Value → Option Int
  | .bool b => some (if b then 1 else 0)
  | .int i => some i
  | .float x => (Decimal.decompose? x).bind Decimal.Finite.toInt?
  | _ => none

/-- Two values are the same key of a mapping. -/
def sameKey (a b : Value) : Bool :=
  match a, b with
  | .null, .null => true
  | .str s, .str t => s = t
  | .bytes s, .bytes t => s = t
  | .date s, .date t => s = t
  | .moment s, .moment t => s.sameAs t
  | .float x, .float y =>
    x.toBits = y.toBits || (match integerValue? a, integerValue? b with
      | some i, some j => i = j
      | _, _ => false)
  | _, _ =>
    match integerValue? a, integerValue? b with
    | some i, some j => i = j
    | _, _ => false

/-- The value can be a key of a mapping: it is no collection. -/
def isKey : Value → Bool
  | .list _ | .set _ | .map _ => false
  | _ => true

/-- The entries after one more assignment: an equal key keeps its place and
its spelling and takes the new value, a new key goes to the end. -/
def insertEntry (key value : Value) : List (Value × Value) → List (Value × Value)
  | [] => [(key, value)]
  | (k, v) :: rest =>
    if k.sameKey key then (k, value) :: rest else (k, v) :: insertEntry key value rest

/-- The members of a set: of those that are the same key the first. -/
def distinct (members : List Value) : List Value :=
  (members.foldl (fun entries m => insertEntry m .null entries) []).map (·.1)

/-- The mapping that results from assigning the pairs in order. -/
def mapping (pairs : List (Value × Value)) : Value :=
  .map (pairs.foldl (fun entries p => insertEntry p.1 p.2 entries) [])

/-- The value under a text key. -/
def lookup? (entries : List (Value × Value)) (key : String) : Option Value :=
  (entries.find? fun e => match e.1 with | .str s => s = key | _ => false).map (·.2)

/-- The name of the kind of a value in messages. -/
def kindName : Value → String
  | .null => "NoneType"
  | .bool _ => "bool"
  | .int _ => "int"
  | .float _ => "float"
  | .str _ => "str"
  | .bytes _ => "bytes"
  | .date _ => "date"
  | .moment _ => "datetime"
  | .list _ => "list"
  | .set _ => "set"
  | .map _ => "dict"

/-- Absent, zero, empty or false. -/
def isEmptyish : Value → Bool
  | .null | .bool false | .int 0 | .str [] | .bytes [] | .list [] | .set [] | .map [] => true
  | .float x => (Decimal.decompose? x).any fun f => f.mantissa = 0
  | _ => false

mutual

/-- The spelling of a value in messages. -/
def shown : Value → String
  | .null => "None"
  | .bool b => if b then "True" else "False"
  | .int i => Decimal.intText i
  | .float x => Decimal.floatText .plain x
  | .str s => Text.quote s
  | .bytes b => Text.quoteBytes b
  | .date d => d.shown
  | .moment m => m.shown
  | .list items => "[" ++ ", ".intercalate (shownItems items) ++ "]"
  | .set [] => "set()"
  | .set items => "\x7b" ++ ", ".intercalate (shownItems items) ++ "\x7d"
  | .map entries => "\x7b" ++ ", ".intercalate (shownEntries entries) ++ "\x7d"

def shownItems : List Value → List String
  | [] => []
  | v :: vs => v.shown :: shownItems vs

def shownEntries : List (Value × Value) → List String
  | [] => []
  | (k, v) :: rest => (k.shown ++ ": " ++ v.shown) :: shownEntries rest

end

/-- The value as a text of its own: a text stands for itself. -/
def plain : Value → Text
  | .str s => s
  | v => v.shown

end Value

end Workspace
