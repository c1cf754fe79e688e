/-
Workspace.Decimal.Float — how a floating-point number is written and read.

Written, a number has the fewest digits that read back. It is positional
from 0.0001 up to below 10 ^ 16, with at least one digit after the point,
and has a signed exponent of two digits or more otherwise. Infinities and
not-a-numbers have names, which differ between formats (`Names`).

Read, a number may have a sign, an exponent, and white space around it;
`inf`, `infinity` and `nan` are read in either case.
-/
import Workspace.Decimal.Shortest
import Workspace.Text.Blank
import Workspace.Text.Digit

namespace Workspace.Decimal

/-- What a format calls the numbers that have no digits. -/
structure Names where
  infinity : String
  notANumber : String

/-- The names used in messages. -/
def Names.plain : Names := ⟨"inf", "nan"⟩

/-- The names used in JSON texts. -/
def Names.json : Names := ⟨"Infinity", "NaN"⟩

/-- The decimal digits of a natural number. -/
def natDigits (n : Nat) : List Char :=
  Nat.toDigits 10 n

/-- The decimal digits of an integer after its sign. -/
def intText (i : Int) : String :=
  String.ofList (if i < 0 then '-' :: natDigits i.natAbs else natDigits i.natAbs)

/-- An exponent: its sign and at least two digits. -/
def exponentText (e : Int) : List Char :=
  let digits := natDigits e.natAbs
  'e' :: (if e < 0 then '-' else '+') :: (if digits.length < 2 then '0' :: digits else digits)

/-- The text of a positive decimal, positional where its magnitude allows. -/
def decimalText (d : Scaled) : List Char :=
  let digits := natDigits d.digits
  let point : Int := d.exponent + digits.length
  if -4 < point ∧ point ≤ 16 then
    if point ≤ 0 then '0' :: '.' :: List.replicate (-point).toNat '0' ++ digits
    else if digits.length ≤ point.toNat then
      digits ++ List.replicate (point.toNat - digits.length) '0' ++ ['.', '0']
    else digits.take point.toNat ++ '.' :: digits.drop point.toNat
  else
    match digits with
    | [] => []
    | [first] => first :: exponentText (point - 1)
    | first :: rest => first :: '.' :: rest ++ exponentText (point - 1)

/-- The text of a floating-point number. -/
def floatText (names : Names) (x : Float) : String :=
  match decompose? x with
  | some f =>
    let body := if f.mantissa = 0 then ['0', '.', '0']
      else decimalText (shortest f.mantissa f.exponent)
    String.ofList (if f.negative then '-' :: body else body)
  | none =>
    if mantissaField x ≠ 0 then names.notANumber
    else if isNegative x then "-" ++ names.infinity
    else names.infinity

/-! ## Reading -/

/-- The digits at the start of a text, and the text after them. Single
underscores may stand between digits. -/
def takeDigits : List Char → List Nat × List Char
  | [] => ([], [])
  | c :: cs =>
    match Text.decimalDigit? c with
    | some d => (d :: (takeDigits cs).1, (takeDigits cs).2)
    | none => ([], c :: cs)

/-- Underscores between digits dropped; any other one refuses the text. -/
def dropUnderscores? (isDigit : Char → Bool) : (before : Bool) → List Char → Option (List Char)
  | _, [] => some []
  | before, c :: cs =>
    if c = '_' then
      match before, cs with
      | true, d :: _ => if isDigit d then dropUnderscores? isDigit false cs else none
      | _, _ => none
    else (dropUnderscores? isDigit (isDigit c) cs).map (c :: ·)

/-- The value of digits in a base, high digits first. -/
def valueOf (base : Nat) (digits : List Nat) : Nat :=
  digits.foldl (fun n d => n * base + d) 0

/-- The double nearest to `± digits · 10 ^ exponent`. Values that cannot but
overflow or vanish are recognised from their magnitude, which is the place of
the first digit that is no zero. -/
def ofDigits (negative : Bool) (digits : List Nat) (exponent : Int) : Float :=
  let significant := digits.dropWhile (· = 0)
  let n := valueOf 10 significant
  let magnitude := exponent + significant.length
  if significant = [] then nearest negative 0 1
  else if 400 < magnitude then nearest negative (Nat.pow 2 1025) 1
  else if magnitude < -400 then nearest negative 0 1
  else nearest negative (n * Nat.pow 10 exponent.toNat) (Nat.pow 10 (-exponent).toNat)

/-- A sign at the start of a text: whether it is a minus, and the rest. -/
def takeSign : List Char → Bool × List Char
  | '-' :: cs => (true, cs)
  | '+' :: cs => (false, cs)
  | cs => (false, cs)

/-- The exponent that makes up all of a text; the empty text is exponent 0. -/
def readExponent? : List Char → Option Int
  | [] => some 0
  | c :: cs =>
    if c = 'e' ∨ c = 'E' then
      let (negative, cs) := takeSign cs
      match takeDigits cs with
      | (d :: ds, []) =>
        let n := valueOf 10 (d :: ds)
        some (if negative then -(n : Int) else n)
      | _ => none
    else none

/-- The unsigned number that makes up all of a text. -/
def readMagnitude? (negative : Bool) (cs : List Char) : Option Float :=
  let name := cs.map Char.toLower
  if name = ['i', 'n', 'f'] ∨ name = ['i', 'n', 'f', 'i', 'n', 'i', 't', 'y'] then
    some (Float.ofBits (if negative then 0xfff0000000000000 else 0x7ff0000000000000))
  else if name = ['n', 'a', 'n'] then
    some (Float.ofBits (if negative then 0xfff8000000000000 else 0x7ff8000000000000))
  else
    let (whole, rest) := takeDigits cs
    let (fraction, rest) :=
      match rest with
      | '.' :: more => takeDigits more
      | _ => ([], rest)
    let digits := whole ++ fraction
    if digits = [] then none
    else (readExponent? rest).map fun e =>
      ofDigits negative digits (e - fraction.length)

/-- The number that a text spells, white space around it passed over. -/
def readFloat? (cs : List Char) : Option Float :=
  let (negative, body) := takeSign (Text.trimBoth Text.isSpaceChar cs)
  (dropUnderscores? (fun c => (Text.decimalDigit? c).isSome) false body).bind
    (readMagnitude? negative)

end Workspace.Decimal
