/-
Workspace.Lenient — readings of values that are meant to be a boolean or an
integer.

Editors do not always send settings with their proper type. A boolean may
come as a number or as one of a few words, and an integer as a number
without a fraction or as a text. What comes as bytes is read as the text
that they spell.
-/
import Workspace.Issue
import Workspace.Text.Blank

namespace Workspace

/-- The words for false and true, in lower case. -/
def booleanWords : List (String × Bool) :=
  [("0", false), ("off", false), ("f", false), ("false", false), ("n", false), ("no", false),
   ("1", true), ("on", true), ("t", true), ("true", true), ("y", true), ("yes", true)]

/-- The boolean that a word stands for, whatever the case of its letters. -/
def booleanWord? (s : String) : Option Bool :=
  booleanWords.lookup (String.ofList (s.toList.map Char.toLower))

/-- An integer that fits 64 bits. -/
def isMachineInt (i : Int) : Bool :=
  -(Nat.pow 2 63 : Int) ≤ i && i < Nat.pow 2 63

def booleanOfText (s : String) : Checked Bool :=
  match booleanWord? s with
  | some b => .ok b
  | none => .issue .boolParsing

def booleanOfInt (i : Int) : Checked Bool :=
  if i = 0 then .ok false
  else if i = 1 then .ok true
  else .issue (if isMachineInt i then .boolParsing else .boolType)

/-- The text that bytes spell. -/
def textOfBytes? (b : List UInt8) : Option String :=
  String.fromUTF8? ⟨b.toArray⟩

/-- A boolean, the numbers 0 and 1, or a word. -/
def lenientBool : Value → Checked Bool
  | .bool b => .ok b
  | .int i => booleanOfInt i
  | .float x =>
    match (Decimal.decompose? x).bind Decimal.Finite.toInt? with
    | some i => if i.natAbs < Nat.pow 2 63 then booleanOfInt i else .issue .boolType
    | none => .issue .boolType
  | .str t =>
    match t.toString? with
    | some s => booleanOfText s
    | none => .issue .stringUnicode
  | .bytes b =>
    match textOfBytes? b with
    | some s => booleanOfText s
    | none => .issue .boolParsing
  | _ => .issue .boolType

/-! ## Integers as texts

White space around an integer, its sign, leading zeros, single underscores
between its digits and a fraction of zeros do not matter. Among leading zeros
underscores may stand in any number, and after the zeros of an integer
without a minus sign there may be one.
-/

def isAsciiDigit (c : Char) : Bool :=
  (Text.asciiDigit? c).isSome

/-- The text without the zeros at its start, and the underscores among them.
Where nothing or a point follows, the last of these characters stays. Only
digits, a minus sign or a point may follow. -/
def withoutLeadingZeros? : List Char → Option (List Char)
  | [] => none
  | '0' :: cs =>
    let inZeros (c : Char) : Bool := c = '0' || c = '_'
    let last := ('0' :: cs.takeWhile inZeros).getLast (by simp)
    match cs.dropWhile inZeros with
    | [] => some [last]
    | c :: rest =>
      if c = '.' then some (last :: c :: rest)
      else if isAsciiDigit c ∨ c = '-' then some (c :: rest)
      else none
  | c :: cs => if isAsciiDigit c then some (c :: cs) else none

/-- A sign and what follows it and any leading zeros. -/
def signedDigits? (cs : List Char) : Option (Bool × List Char) :=
  let (negative, body) := Decimal.takeSign cs
  match withoutLeadingZeros? body with
  | some ('-' :: digits) => if negative then none else some (true, digits)
  | some digits => some (negative, digits)
  | none => none

/-- The text without a fraction of nothing but zeros. -/
def withoutZeroFraction (cs : List Char) : List Char :=
  match cs.dropWhile (· ≠ '.') with
  | '.' :: c :: rest => if (c :: rest).all (· = '0') then cs.takeWhile (· ≠ '.') else cs
  | _ => cs

/-- The text without single underscores between digits, if it has no others. -/
def withoutUnderscores (cs : List Char) : List Char :=
  (Decimal.dropUnderscores? isAsciiDigit false cs).getD cs

/-- The most digits that an integer is read from. -/
def integerTextLimit : Nat := 4300

/-- The number that makes up all of a text. Too many digits are noticed before
anything that follows them. -/
def magnitudeOfDigits (cs : List Char) : Checked Nat :=
  let digits := cs.takeWhile isAsciiDigit
  if digits.head? = some '0' then if cs = ['0'] then .ok 0 else .issue .intParsing
  else if integerTextLimit < digits.length then .issue .intParsingSize
  else if digits = [] ∨ digits.length < cs.length then .issue .intParsing
  else .ok (Decimal.valueOf 10 (digits.filterMap Text.asciiDigit?))

def integerOfText (s : String) : Checked Int :=
  match signedDigits? (Text.trimBoth Text.isSpaceChar s.toList) with
  | none => .issue .intParsing
  | some (negative, digits) =>
    (magnitudeOfDigits (withoutUnderscores (withoutZeroFraction digits))).map fun n =>
      if negative then -(n : Int) else n

/-- A number without a fraction, or a text that spells one. -/
def lenientInt : Value → Checked Int
  | .bool b => .ok (if b then 1 else 0)
  | .int i => .ok i
  | .float x =>
    match Decimal.decompose? x with
    | none => .issue .finiteNumber
    | some f =>
      match f.toInt? with
      | none => .issue .intFromFloat
      | some i => if i.natAbs < Nat.pow 2 63 then .ok i else .issue .intParsingSize
  | .str t =>
    match t.toString? with
    | some s => integerOfText s
    | none => .issue .stringUnicode
  | .bytes b =>
    match textOfBytes? b with
    | some s => integerOfText s
    | none => .issue .intParsing
  | _ => .issue .intType

end Workspace
