/-
Workspace.Json.Reader — JSON texts read as values.

The reader takes the grammar of RFC 8259 with three named numbers besides
(`NaN`, `Infinity`, `-Infinity`). Of equal keys of one object the last value
counts. An error is one of a few kinds at a place in the text, and its
message gives the place as line, column and offset.

Every function consumes a text from the front and gives what is left of it;
the place of an error is what was left when it was found, so no offset is
carried along.
-/
import Workspace.Value
import Workspace.ContentFault

namespace Workspace.Json

/-- What the grammar does not allow. -/
inductive Defect where
  | value
  | propertyName
  | colon
  | comma
  | extraData
  | unterminatedString
  | controlCharacter
  | escape
  | unicodeEscape
  | byteOrderMark
  deriving DecidableEq, Repr

def Defect.text : Defect → String
  | .value => "Expecting value"
  | .propertyName => "Expecting property name enclosed in double quotes"
  | .colon => "Expecting ':' delimiter"
  | .comma => "Expecting ',' delimiter"
  | .extraData => "Extra data"
  | .unterminatedString => "Unterminated string starting at"
  | .controlCharacter => "Invalid control character at"
  | .escape => "Invalid \\escape"
  | .unicodeEscape => "Invalid \\uXXXX escape"
  | .byteOrderMark => "Unexpected UTF-8 BOM (decode using utf-8-sig)"

/-- A defect and the place where it was found; lines and columns count from 1. -/
structure SyntaxFault where
  defect : Defect
  line : Nat
  column : Nat
  offset : Nat
  deriving DecidableEq, Repr

private def number (n : Nat) : String :=
  String.ofList (Decimal.natDigits n)

def SyntaxFault.message (f : SyntaxFault) : String :=
  f.defect.text ++ ": line " ++ number f.line ++ " column " ++ number f.column
    ++ " (char " ++ number f.offset ++ ")"

/-- Why reading stopped: a defect with the text that was left, or a number
that cannot be converted. -/
inductive Stop where
  | defect (defect : Defect) (rest : List Char)
  | content (fault : ContentFault)

abbrev Read (α : Type) := Except Stop (α × List Char)

def isSpace (c : Char) : Bool :=
  c = ' ' || c = '\t' || c = '\n' || c = '\r'

def skipSpace (cs : List Char) : List Char :=
  cs.dropWhile isSpace

/-! ## Strings -/

/-- Four hexadecimal digits that are followed by something. -/
def fourHex? : List Char → Option (Nat × List Char)
  | a :: b :: c :: d :: e :: rest => do
    let a ← Text.hexDigit? a
    let b ← Text.hexDigit? b
    let c ← Text.hexDigit? c
    let d ← Text.hexDigit? d
    return (((a * 16 + b) * 16 + c) * 16 + d, e :: rest)
  | _ => none

def isHighSurrogate (n : Nat) : Bool :=
  0xd800 ≤ n && n < 0xdc00

def isLowSurrogate (n : Nat) : Bool :=
  0xdc00 ≤ n && n < 0xe000

/-- The code point of a surrogate pair. -/
def joinSurrogates (high low : Nat) : Nat :=
  0x10000 + (high - 0xd800) * 0x400 + (low - 0xdc00)

/-- The second half of a surrogate pair, if the text goes on with one; an
escape that goes on without being one of four digits stops the reading. -/
def lowHalf? (rest : List Char) : Except Stop (Option (Nat × List Char)) :=
  match rest with
  | '\\' :: 'u' :: more =>
    if more.drop 4 = [] then .ok none
    else
      match fourHex? more with
      | none => .error (.defect .unicodeEscape ('u' :: more))
      | some (low, after) => .ok (if isLowSurrogate low then some (low, after) else none)
  | _ => .ok none

/-- The character that an escape with one letter stands for. -/
def simpleEscape? : Char → Option Nat
  | '"' => some 34
  | '\\' => some 92
  | '/' => some 47
  | 'b' => some 8
  | 'f' => some 12
  | 'n' => some 10
  | 'r' => some 13
  | 't' => some 9
  | _ => none

/-- The code point of the escape after `\u`, and the text after it. -/
def unicodeEscape (cs : List Char) : Read Nat :=
  match fourHex? cs with
  | none => .error (.defect .unicodeEscape ('u' :: cs))
  | some (code, rest) =>
    if isHighSurrogate code then
      match lowHalf? rest with
      | .error stop => .error stop
      | .ok (some (low, after)) => .ok (joinSurrogates code low, after)
      | .ok none => .ok (code, rest)
    else .ok (code, rest)

/-- The rest of a string whose opening quote begins the text `start`. Each
round takes one character or one escape, so one round for each character of
`start` is enough; `rounds` has an element for each that is left. -/
def stringBody (start : List Char) : (rounds : List Char) → List Char → Read (List Nat)
  | [], _ => .error (.defect .unterminatedString start)
  | _ :: rounds, cs =>
    match cs with
    | [] => .error (.defect .unterminatedString start)
    | '"' :: rest => .ok ([], rest)
    | '\\' :: [] => .error (.defect .unterminatedString start)
    | '\\' :: 'u' :: rest =>
      match unicodeEscape rest with
      | .error stop => .error stop
      | .ok (code, after) =>
        match stringBody start rounds after with
        | .error stop => .error stop
        | .ok (codes, left) => .ok (code :: codes, left)
    | '\\' :: c :: rest =>
      match simpleEscape? c with
      | none => .error (.defect .escape ('\\' :: c :: rest))
      | some code =>
        match stringBody start rounds rest with
        | .error stop => .error stop
        | .ok (codes, left) => .ok (code :: codes, left)
    | c :: rest =>
      if c.toNat < 0x20 then .error (.defect .controlCharacter (c :: rest))
      else
        match stringBody start rounds rest with
        | .error stop => .error stop
        | .ok (codes, left) => .ok (c.toNat :: codes, left)

/-- The string after an opening quote. -/
def stringAfterQuote (cs : List Char) : Read (List Nat) :=
  stringBody ('"' :: cs) ('"' :: cs) cs

/-! ## Numbers -/

def isDigit (c : Char) : Bool :=
  '0' ≤ c && c ≤ '9'

/-- The integer digits of a number: a lone zero, or digits without a leading
one. -/
def integerPart? : List Char → Option (List Char × List Char)
  | '0' :: cs => some (['0'], cs)
  | c :: cs =>
    if isDigit c then some (c :: cs.takeWhile isDigit, cs.dropWhile isDigit) else none
  | [] => none

/-- A point with digits after it; anything else is left alone. -/
def fractionPart : List Char → List Char × List Char
  | '.' :: c :: cs =>
    if isDigit c then (c :: cs.takeWhile isDigit, cs.dropWhile isDigit) else ([], '.' :: c :: cs)
  | cs => ([], cs)

/-- An exponent with digits; anything else is left alone. -/
def exponentPart (cs : List Char) : Option (Bool × List Char) × List Char :=
  match cs with
  | e :: rest =>
    if e = 'e' ∨ e = 'E' then
      let (negative, digits) :=
        match rest with
        | '-' :: more => (true, more)
        | '+' :: more => (false, more)
        | _ => (false, rest)
      match digits with
      | d :: more =>
        if isDigit d then
          (some (negative, d :: more.takeWhile isDigit), more.dropWhile isDigit)
        else (none, cs)
      | [] => (none, cs)
    else (none, cs)
  | [] => (none, cs)

/-- What ASCII digits count. -/
def digitValues (cs : List Char) : List Nat :=
  cs.map fun c => c.toNat - 48

/-- The number that ASCII digits spell. -/
def digitsValue (cs : List Char) : Nat :=
  Decimal.valueOf 10 (digitValues cs)

/-- The most decimal digits that an integer may have. -/
def integerDigitLimit : Nat := 4300

/-- A number; `start` is the text it begins, sign included. -/
def numberValue (start : List Char) (negative : Bool) (cs : List Char) : Read Value :=
  match integerPart? cs with
  | none => .error (.defect .value start)
  | some (whole, rest) =>
    let (fraction, rest) := fractionPart rest
    let (exponent, rest) := exponentPart rest
    if fraction = [] ∧ exponent = none then
      if integerDigitLimit < whole.length then .error (.content (.longInteger whole.length))
      else
        let n : Int := digitsValue whole
        .ok (.int (if negative then -n else n), rest)
    else
      let e : Int :=
        match exponent with
        | none => 0
        | some (true, digits) => -(digitsValue digits : Int)
        | some (false, digits) => digitsValue digits
      .ok (.float (Decimal.ofDigits negative (digitValues (whole ++ fraction))
        (e - fraction.length)), rest)

/-- The named values, each with the text after its first character. -/
def namedValues : List (Char × List Char × Value) :=
  [('n', ['u', 'l', 'l'], .null),
   ('t', ['r', 'u', 'e'], .bool true),
   ('f', ['a', 'l', 's', 'e'], .bool false),
   ('N', ['a', 'N'], .float (Float.ofBits 0x7ff8000000000000)),
   ('I', ['n', 'f', 'i', 'n', 'i', 't', 'y'], .float (Float.ofBits 0x7ff0000000000000)),
   ('-', ['I', 'n', 'f', 'i', 'n', 'i', 't', 'y'], .float (Float.ofBits 0xfff0000000000000))]

/-- A value that is no string, object or array. -/
def atomValue (cs : List Char) : Read Value :=
  match cs with
  | [] => .error (.defect .value [])
  | c :: rest =>
    match namedValues.find? fun n => n.1 = c && n.2.1.isPrefixOf rest with
    | some (_, name, value) => .ok (value, rest.drop name.length)
    | none => if c = '-' then numberValue cs true rest else numberValue cs false cs

/-! ## Values -/

mutual

/-- The value at the very start of a text, with brackets nested at most `depth`
deep. The first argument bounds the number of calls; twice the length of the
text is enough. -/
def value : (calls depth : Nat) → List Char → Read Value
  | 0, _, cs => .error (.defect .value cs)
  | n + 1, depth, cs =>
    match cs with
    | '"' :: rest =>
      match stringAfterQuote rest with
      | .error stop => .error stop
      | .ok (codes, left) => .ok (.str (.ofCodes codes), left)
    | '[' :: rest =>
      match depth, skipSpace rest with
      | 0, _ => .error (.content .tooDeep)
      | _, ']' :: left => .ok (.list [], left)
      | depth + 1, inner =>
        match items n depth inner with
        | .error stop => .error stop
        | .ok (vs, left) => .ok (.list vs, left)
    | '\x7b' :: rest =>
      match depth, skipSpace rest with
      | 0, _ => .error (.content .tooDeep)
      | _, '\x7d' :: left => .ok (.map [], left)
      | depth + 1, inner =>
        match members n depth inner with
        | .error stop => .error stop
        | .ok (pairs, left) => .ok (.mapping pairs, left)
    | _ => atomValue cs

/-- The items of an array up to its closing bracket. -/
def items : (calls depth : Nat) → List Char → Read (List Value)
  | 0, _, cs => .error (.defect .value cs)
  | n + 1, depth, cs =>
    match value n depth cs with
    | .error stop => .error stop
    | .ok (v, rest) =>
      match skipSpace rest with
      | ']' :: left => .ok ([v], left)
      | ',' :: more =>
        match items n depth (skipSpace more) with
        | .error stop => .error stop
        | .ok (vs, left) => .ok (v :: vs, left)
      | other => .error (.defect .comma other)

/-- The members of an object up to its closing brace. -/
def members : (calls depth : Nat) → List Char → Read (List (Value × Value))
  | 0, _, cs => .error (.defect .value cs)
  | n + 1, depth, cs =>
    match cs with
    | '"' :: rest =>
      match stringAfterQuote rest with
      | .error stop => .error stop
      | .ok (codes, afterKey) =>
        match skipSpace afterKey with
        | ':' :: afterColon =>
          match value n depth (skipSpace afterColon) with
          | .error stop => .error stop
          | .ok (v, afterValue) =>
            match skipSpace afterValue with
            | '\x7d' :: left => .ok ([(.str (.ofCodes codes), v)], left)
            | ',' :: more =>
              match members n depth (skipSpace more) with
              | .error stop => .error stop
              | .ok (pairs, left) => .ok ((.str (.ofCodes codes), v) :: pairs, left)
            | other => .error (.defect .comma other)
        | other => .error (.defect .colon other)
    | _ => .error (.defect .propertyName cs)

end

/-! ## Whole texts -/

/-- A defect at the place where `rest` is left of `text`. -/
def faultAt (text : List Char) (defect : Defect) (rest : List Char) : SyntaxFault :=
  let before := text.take (text.length - rest.length)
  { defect
    line := before.count '\n' + 1
    column := (before.reverse.takeWhile (· ≠ '\n')).length + 1
    offset := before.length }

/-- Why a text gives no value. -/
inductive Error where
  | grammar (fault : SyntaxFault)
  | content (fault : ContentFault)

/-- How deep brackets may be nested. The grammar knows no such limit: this is
what the call stack has room for in a process that reads a file at once, and
less where the caller is deep down already. -/
def nestingLimit : Nat := 985

/-- The value that a whole text spells. -/
def read (text : List Char) : Except Error Value :=
  if text.head? = some '\ufeff' then .error (.grammar (faultAt text .byteOrderMark text))
  else
    match value (2 * text.length + 2) nestingLimit (skipSpace text) with
    | .error (.defect defect rest) => .error (.grammar (faultAt text defect rest))
    | .error (.content fault) => .error (.content fault)
    | .ok (v, rest) =>
      match skipSpace rest with
      | [] => .ok v
      | other => .error (.grammar (faultAt text .extraData other))

end Workspace.Json
