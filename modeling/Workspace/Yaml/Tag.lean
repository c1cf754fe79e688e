/-
Workspace.Yaml.Tag — what kind of data a node stands for.

Nodes are tagged explicitly, or else by their form: a plain scalar that
looks like a boolean, a number, a date and so on is one, and everything
else is a text (`Tag.ofPlain`).
-/
import Workspace.Calendar

namespace Workspace.Yaml

inductive Tag where
  | null
  | bool
  | int
  | float
  | binary
  | timestamp
  | str
  | seq
  | map
  | omap
  | pairs
  | set
  /-- The key `<<`, which merges other mappings in. -/
  | merge
  /-- The key `=`, which holds the scalar that a mapping stands for. -/
  | value
  | other
  deriving DecidableEq, Repr

/-- The tags that are known, by the name after the common start of their text. -/
def knownTags : List (String × Tag) :=
  [("null", .null), ("bool", .bool), ("int", .int), ("float", .float), ("binary", .binary),
   ("timestamp", .timestamp), ("str", .str), ("seq", .seq), ("map", .map), ("omap", .omap),
   ("pairs", .pairs), ("set", .set), ("merge", .merge), ("value", .value)]

/-- The start of the text of every known tag. -/
def tagBase : List Char := "tag:yaml.org,2002:".toList

def Tag.ofText (cs : List Char) : Tag :=
  if tagBase.isPrefixOf cs then
    (knownTags.lookup (String.ofList (cs.drop tagBase.length))).getD .other
  else .other

/-! ## The forms of plain scalars -/

namespace Form

def isDigit (c : Char) : Bool := '0' ≤ c && c ≤ '9'

def isDigitOrLow (c : Char) : Bool := isDigit c || c = '_'

/-- Not empty, and all characters satisfy `p`. -/
def someOf (p : Char → Bool) (cs : List Char) : Bool :=
  cs ≠ [] && cs.all p

/-- The text without a sign at its start. -/
def unsigned : List Char → List Char
  | '+' :: cs => cs
  | '-' :: cs => cs
  | cs => cs

/-- A digit below sixty, or two digits that are. -/
def isSixtieth : List Char → Bool
  | [a] => isDigit a
  | [a, b] => '0' ≤ a && a ≤ '5' && isDigit b
  | _ => false

/-- The parts of a text between colons. -/
def colonParts (cs : List Char) : List (List Char) :=
  cs.foldr (fun c parts =>
    if c = ':' then [] :: parts
    else
      match parts with
      | [] => [[c]]
      | p :: ps => (c :: p) :: ps) [[]]

/-- Digits in groups of sixty, the first of which starts with `first`. -/
def isSexagesimal (first : Char → Bool) (cs : List Char) : Bool :=
  match colonParts cs with
  | (a :: rest) :: part :: parts =>
    first a && rest.all isDigitOrLow && (part :: parts).all isSixtieth
  | _ => false

def isBool (cs : List Char) : Bool :=
  ["yes", "Yes", "YES", "no", "No", "NO", "true", "True", "TRUE", "false", "False", "FALSE",
    "on", "On", "ON", "off", "Off", "OFF"].contains (String.ofList cs)

/-- Nothing, or an exponent with its sign. -/
def isExponent : List Char → Bool
  | [] => true
  | e :: s :: digits => (e = 'e' || e = 'E') && (s = '+' || s = '-') && someOf isDigit digits
  | _ => false

/-- Digits and a point, with digits on at least one side of it. -/
def isPointed (cs : List Char) : Bool :=
  match cs with
  | '.' :: d :: rest => isDigit d && isExponent (rest.dropWhile isDigitOrLow)
  | _ => false

/-- Digits, a point, and perhaps more digits and an exponent. -/
def isDecimal : List Char → Bool
  | d :: rest =>
    isDigit d && (match rest.dropWhile isDigitOrLow with
      | '.' :: more => isExponent (more.dropWhile isDigitOrLow)
      | _ => false)
  | [] => false

/-- Groups of sixty, a point, and perhaps more digits. -/
def isSexagesimalFraction (cs : List Char) : Bool :=
  match cs.dropWhile (· ≠ '.') with
  | '.' :: digits => digits.all isDigitOrLow && isSexagesimal isDigit (cs.takeWhile (· ≠ '.'))
  | _ => false

def isFloat (cs : List Char) : Bool :=
  isPointed cs || isDecimal (unsigned cs) || isSexagesimalFraction (unsigned cs)
    || [".inf", ".Inf", ".INF"].contains (String.ofList (unsigned cs))
    || [".nan", ".NaN", ".NAN"].contains (String.ofList cs)

def isHexOrLow (c : Char) : Bool := (Text.hexDigit? c).isSome || c = '_'

def isUnsignedInt : List Char → Bool
  | ['0'] => true
  | '0' :: 'b' :: digits => someOf (fun c => c = '0' || c = '1' || c = '_') digits
  | '0' :: 'x' :: digits => someOf isHexOrLow digits
  | '0' :: digits => someOf (fun c => ('0' ≤ c && c ≤ '7') || c = '_') digits
  | cs =>
    (match cs with
      | d :: rest => isDigit d && rest.all isDigitOrLow
      | [] => false)
      || isSexagesimal (fun d => isDigit d && d ≠ '0') cs

def isInt (cs : List Char) : Bool := isUnsignedInt (unsigned cs)

def isNull (cs : List Char) : Bool :=
  ["", "~", "null", "Null", "NULL"].contains (String.ofList cs)

/-- An indicator alone, which is no data. -/
def isIndicator (cs : List Char) : Bool :=
  cs = ['!'] || cs = ['&'] || cs = ['*']

end Form

/-! ## Timestamps -/

/-- The numbers that a timestamp spells; the time is there as a whole or not
at all. -/
structure Timestamp where
  year : Nat
  month : Nat
  day : Nat
  /-- Month and day have two digits each. -/
  padded : Bool
  time : Option (Nat × Nat × Nat)
  microsecond : Nat
  /-- Minutes ahead of universal time. -/
  offset : Option Int
  deriving DecidableEq, Repr

namespace Timestamp

/-- Between `least` and `most` digits at the start of a text, as many as there
are, and the text after them. -/
def takeDigits (least most : Nat) (cs : List Char) : Option (List Char × List Char) :=
  let digits := (cs.take most).takeWhile Form.isDigit
  if least ≤ digits.length then some (digits, cs.drop digits.length) else none

def number (digits : List Char) : Nat :=
  Decimal.valueOf 10 (digits.map fun c => c.toNat - 48)

def takeChar (c : Char) : List Char → Option (List Char)
  | d :: cs => if c = d then some cs else none
  | [] => none

/-- The first six digits of a fraction of a second, filled up with zeros. -/
def microseconds (digits : List Char) : Nat :=
  let d := digits.take 6
  number (d ++ List.replicate (6 - d.length) '0')

/-- The distance from universal time that makes up all of a text. -/
def zone? (cs : List Char) : Option (Option Int) :=
  let afterBlanks := cs.dropWhile fun c => c = ' ' || c = '\t'
  match afterBlanks with
  | [] => if cs = [] then some none else none
  | ['Z'] => some (some 0)
  | s :: rest =>
    if s = '+' ∨ s = '-' then do
      let (hours, rest) ← takeDigits 1 2 rest
      let minutes ←
        match rest with
        | [] => some []
        | ':' :: more =>
          match takeDigits 2 2 more with
          | some (digits, []) => some digits
          | _ => none
        | _ => none
      let distance : Int := number hours * 60 + number minutes
      return some (if s = '-' then -distance else distance)
    else none

/-- The time that makes up all of a text: hours, minutes and seconds, perhaps
a fraction and a distance from universal time. -/
def time? (cs : List Char) : Option ((Nat × Nat × Nat) × Nat × Option Int) := do
  let (hour, cs) ← takeDigits 1 2 cs
  let cs ← takeChar ':' cs
  let (minute, cs) ← takeDigits 2 2 cs
  let cs ← takeChar ':' cs
  let (second, cs) ← takeDigits 2 2 cs
  let (fraction, cs) :=
    match cs with
    | '.' :: more => (more.takeWhile Form.isDigit, more.dropWhile Form.isDigit)
    | _ => ([], cs)
  let zone ← zone? cs
  return ((number hour, number minute, number second), microseconds fraction, zone)

/-- The timestamp that a text spells. -/
def read? (cs : List Char) : Option Timestamp := do
  let (year, cs) ← takeDigits 4 4 cs
  let cs ← takeChar '-' cs
  let (month, cs) ← takeDigits 1 2 cs
  let cs ← takeChar '-' cs
  let (day, cs) ← takeDigits 1 2 cs
  let padded := month.length = 2 && day.length = 2
  let timeText : Option (List Char) :=
    match cs with
    | [] => none
    | c :: rest =>
      if c = 'T' ∨ c = 't' then some rest
      else if c = ' ' ∨ c = '\t' then some (rest.dropWhile fun c => c = ' ' || c = '\t')
      else some cs
  match timeText with
  | none => return ⟨number year, number month, number day, padded, none, 0, none⟩
  | some text =>
    if text = cs then none
    else
      let (time, microsecond, zone) ← time? text
      return ⟨number year, number month, number day, padded, some time, microsecond, zone⟩

end Timestamp

/-- A plain scalar that is a timestamp: with a time, or with two digits for
month and day. -/
def Form.isTimestamp (cs : List Char) : Bool :=
  (Timestamp.read? cs).any fun t => t.padded || t.time.isSome

/-- A text without one line feed at its end. -/
def withoutLastBreak (cs : List Char) : List Char :=
  if cs.getLast? = some '\n' then cs.dropLast else cs

/-- The tag of a plain scalar, by its form. The form is that of the text
before a line feed at its end. -/
def Tag.ofPlain (text : List Char) : Tag :=
  let cs := withoutLastBreak text
  let is (form : List Char → Bool) : Bool := text ≠ ['\n'] && form cs
  if text = [] then .null
  else if is Form.isBool then .bool
  else if is Form.isFloat then .float
  else if is Form.isInt then .int
  else if is (· = ['<', '<']) then .merge
  else if is Form.isNull then .null
  else if is Form.isTimestamp then .timestamp
  else if is (· = ['=']) then .value
  else if is Form.isIndicator then .other
  else .str

end Workspace.Yaml
