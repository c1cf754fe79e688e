/-
Workspace.Yaml.Scalar — the data that scalars spell.

`Tag.read` gives the value of a scalar under its tag. Underscores in numbers
do not count. Integers may be written in base 2, 8, 10 or 16, or in groups
of sixty with colons between them, and floating-point numbers in groups of
sixty as well. A scalar that does not fit its tag is an error: a broken one
of the grammar for bytes, and one of the content for everything else.
-/
import Workspace.Yaml.Tag
import Workspace.Yaml.Cursor
import Workspace.Value
import Workspace.Text.Lower
import Workspace.Text.Base64

namespace Workspace.Yaml

/-- The characters with these code points. A code point that is no character
becomes one that is neither digit nor blank. -/
def characters (codes : List Nat) : List Char :=
  codes.map Char.ofNat

/-- The code points without a character. -/
def without (c : Char) (codes : List Nat) : List Nat :=
  codes.filter (· ≠ c.toNat)

/-- The pieces of a text between colons. -/
def betweenColons (codes : List Nat) : List (List Nat) :=
  codes.foldr (fun c pieces =>
    match pieces with
    | [] => if c = 58 then [[], []] else [[c]]
    | p :: ps => if c = 58 then [] :: p :: ps else (c :: p) :: ps) []

/-- A sign at the start of a text, and the text after it; a number has at
least a sign. -/
def signed (codes : List Nat) : Except ContentFault (Bool × List Nat) :=
  match codes with
  | [] => .error .emptyNumber
  | 45 :: rest => .ok (true, rest)
  | 43 :: rest => .ok (false, rest)
  | _ => .ok (false, codes)

/-! ## Integers -/

/-- The text of a number without the mark of its base, such as `0x`. -/
def withoutBaseMark (base : Nat) (cs : List Char) : List Char :=
  match cs with
  | '0' :: m :: rest =>
    let mark := m.toLower
    if (base = 16 ∧ mark = 'x') ∨ (base = 8 ∧ mark = 'o') ∨ (base = 2 ∧ mark = 'b') then rest
    else cs
  | _ => cs

/-- The integer that a text spells in a base, blanks around it passed over. -/
def integerIn (base : Nat) (codes : List Nat) : Except ContentFault Int :=
  let (negative, cs) := Decimal.takeSign (Text.trimBoth Text.isSpaceChar (characters codes))
  let body := withoutBaseMark base cs
  let digits := (body.takeWhile fun c => (Text.digitIn? base c).isSome).filterMap
    (Text.digitIn? base)
  if base = 10 ∧ digitLimit < digits.length then .error (.longInteger digits.length)
  else if digits = [] ∨ digits.length < body.length then .error (.notInteger base codes)
  else
    let n := Decimal.valueOf base digits
    .ok (if negative then -(n : Int) else n)

/-- The value of groups of sixty, high groups first. -/
def sixties (groups : List Int) : Int :=
  groups.foldl (fun n g => n * 60 + g) 0

def readInt (codes : List Nat) : Except ContentFault Int := do
  let (negative, codes) ← signed (without '_' codes)
  let magnitude ←
    match codes with
    | [] => throw .emptyNumber
    | [48] => pure 0
    | 48 :: 98 :: rest => integerIn 2 rest
    | 48 :: 120 :: rest => integerIn 16 rest
    | 48 :: _ => integerIn 8 codes
    | _ =>
      if 58 ∈ codes then sixties <$> (betweenColons codes).mapM (integerIn 10)
      else integerIn 10 codes
  return if negative then -magnitude else magnitude

/-! ## Floating-point numbers -/

def numberOf (codes : List Nat) : Except ContentFault Float :=
  match Decimal.readFloat? (characters codes) with
  | some x => .ok x
  | none => .error (.notNumber codes)

/-- The value of groups of sixty, low groups first, where the first group
counts `unit`. Sums and products are rounded one by one. -/
def floatSixties (unit : Nat) (sum : Float) : List Float → Except ContentFault Float
  | [] => .ok sum
  | g :: groups =>
    match Decimal.ofInt? unit with
    | some u => floatSixties (60 * unit) (sum + g * u) groups
    | none => .error .numberTooLarge

/-- The lower-case form of a text; code points that are no characters stay. -/
def lowerCodes (codes : List Nat) : List Nat :=
  codes.flatMap fun n =>
    if n.isValidChar then (Text.lowerChar (Char.ofNat n)).map Char.toNat else [n]

def codesOf (s : String) : List Nat :=
  s.toList.map Char.toNat

def readFloat (codes : List Nat) : Except ContentFault Float := do
  let (negative, codes) ← signed (lowerCodes (without '_' codes))
  if codes = codesOf ".nan" then return Float.ofBits 0x7ff8000000000000
  let magnitude ←
    if codes = codesOf ".inf" then pure (Float.ofBits 0x7ff0000000000000)
    else if 58 ∈ codes then do
      let groups ← (betweenColons codes).mapM numberOf
      floatSixties 1 0 groups.reverse
    else numberOf codes
  return if negative then -magnitude else magnitude

/-! ## Other data -/

/-- The words for true and false. -/
def booleanWords : List (String × Bool) :=
  [("yes", true), ("no", false), ("true", true), ("false", false), ("on", true), ("off", false)]

def readBool (codes : List Nat) : Except ContentFault Bool :=
  let word := lowerCodes codes
  match booleanWords.find? fun w => codesOf w.1 = word with
  | some w => .ok w.2
  | none => .error (.notBoolean word)

/-- The bytes that an ASCII text spells. -/
def readBinary (codes : List Nat) : Except Stop (List UInt8) :=
  if codes.all (· < 128) then
    match Text.Base64.decode (characters codes) with
    | some bytes => .ok bytes
    | none => .error .malformed
  else .error .malformed

/-- The date or moment with these numbers. -/
def Timestamp.toValue (t : Timestamp) : Except CalendarError Value :=
  match t.time with
  | none => (Date.of t.year t.month t.day).map .date
  | some (hour, minute, second) => do
    let offset ←
      match t.offset with
      | none => pure none
      | some minutes => some <$> checkOffset minutes
    return .moment
      (← Moment.of t.year t.month t.day hour minute second t.microsecond offset)

def readTimestamp (codes : List Nat) : Except ContentFault Value :=
  match Timestamp.read? (withoutLastBreak (characters codes)) with
  | none => .error .notTimestamp
  | some t => t.toValue.mapError .notCalendar

/-- The value of a scalar under a tag; only the tags of scalars have one. -/
def Tag.read (tag : Tag) (codes : List Nat) : Except Stop Value :=
  match tag with
  | .null => .ok .null
  | .bool => ((readBool codes).map .bool).mapError .content
  | .int => ((readInt codes).map .int).mapError .content
  | .float => ((readFloat codes).map .float).mapError .content
  | .binary => (readBinary codes).map .bytes
  | .timestamp => (readTimestamp codes).mapError .content
  | .str => .ok (.str (.ofCodes codes))
  | _ => .error .malformed

end Workspace.Yaml
