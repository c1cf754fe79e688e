/-
Workspace.ContentFault — what can be wrong with texts and bytes beyond the
grammar of a format.

A text can follow every rule of its format and still spell a number, a date
or a character that does not exist, bytes can be no text, and a text can have
no bytes. These faults are kept apart from grammar errors, because they are
reported differently.
-/
import Workspace.Calendar
import Workspace.Text.Quoted

namespace Workspace

/-- Where a byte sequence stops being UTF-8. -/
inductive Utf8Defect where
  | invalidStart
  | invalidContinuation
  | unexpectedEnd
  deriving DecidableEq, Repr

/-- The bytes at fault: `count` of them from `position` on, the first one `byte`.
Positions are those of the whole file, also where a file is decoded block by block
and positions within the block would be reported. -/
structure Utf8Fault where
  defect : Utf8Defect
  position : Nat
  count : Nat
  byte : UInt8
  deriving DecidableEq, Repr

/-- The surrogates at fault in a text that has no bytes: `count` of them from
`position` on, the first one with the number `code`. -/
structure EncodeFault where
  code : Nat
  position : Nat
  count : Nat
  deriving DecidableEq, Repr

inductive ContentFault where
  /-- The bytes are not UTF-8. -/
  | undecodable (fault : Utf8Fault)
  /-- A path text has no bytes. -/
  | unencodable (fault : EncodeFault)
  /-- The text of an integer in a base. -/
  | notInteger (base : Nat) (codes : List Nat)
  /-- An integer with more decimal digits than are read. -/
  | longInteger (digits : Nat)
  /-- An integer with more decimal digits than are written. -/
  | longOutput
  | notNumber (codes : List Nat)
  /-- A number with nothing after its sign. -/
  | emptyNumber
  /-- A power of sixty beyond the range of floating-point numbers. -/
  | numberTooLarge
  | notCalendar (error : CalendarError)
  | notTimestamp
  /-- A timestamp was asked of a mapping. -/
  | timestampOfMapping
  | notBoolean (codes : List Nat)
  | codePointOutOfRange
  | codePointTooLarge
  | tooDeep
  /-- A value of this kind was taken for a sequence of pairs. -/
  | notIterable (kind : String)
  | notPairSequence (index : Nat)
  | notPair (index length : Nat)
  | unhashableKey (kind : String)
  deriving DecidableEq, Repr

namespace ContentFault

private def number (n : Nat) : String :=
  String.ofList (Decimal.natDigits n)

private def quoted (codes : List Nat) : String :=
  String.ofList (Text.quoteCodes codes)

def utf8Message (f : Utf8Fault) : String :=
  let place :=
    if f.count = 1 then
      "byte 0x" ++ String.ofList (Text.fixedDigits 16 2 f.byte.toNat) ++ " in position "
        ++ number f.position
    else
      "bytes in position " ++ number f.position ++ "-" ++ number (f.position + f.count - 1)
  let reason :=
    match f.defect with
    | .invalidStart => "invalid start byte"
    | .invalidContinuation => "invalid continuation byte"
    | .unexpectedEnd => "unexpected end of data"
  "'utf-8' codec can't decode " ++ place ++ ": " ++ reason

def encodeMessage (f : EncodeFault) : String :=
  let place :=
    if f.count = 1 then
      "character '\\u" ++ String.ofList (Text.fixedDigits 16 4 f.code) ++ "' in position "
        ++ number f.position
    else
      "characters in position " ++ number f.position ++ "-" ++ number (f.position + f.count - 1)
  "'utf-8' codec can't encode " ++ place ++ ": surrogates not allowed"

/-- The text that reports a fault. -/
def message : ContentFault → String
  | undecodable f => utf8Message f
  | unencodable f => encodeMessage f
  | notInteger base codes =>
    "invalid literal for int() with base " ++ number base ++ ": "
      ++ String.ofList ((Text.quoteCodes codes).take 200)
  | longInteger digits =>
    "Exceeds the limit (4300 digits) for integer string conversion: value has "
      ++ number digits ++ " digits; use sys.set_int_max_str_digits() to increase the limit"
  | longOutput =>
    "Exceeds the limit (4300 digits) for integer string conversion; "
      ++ "use sys.set_int_max_str_digits() to increase the limit"
  | notNumber codes => "could not convert string to float: " ++ quoted codes
  | emptyNumber => "string index out of range"
  | numberTooLarge => "int too large to convert to float"
  | notCalendar error => error.message
  | notTimestamp => "'NoneType' object has no attribute 'groupdict'"
  | timestampOfMapping => "expected string or bytes-like object, got 'list'"
  | notBoolean codes => quoted codes
  | codePointOutOfRange => "chr() arg not in range(0x110000)"
  | codePointTooLarge => "Python int too large to convert to C int"
  | tooDeep => "maximum recursion depth exceeded"
  | notIterable kind => "'" ++ kind ++ "' object is not iterable"
  | notPairSequence index =>
    "cannot convert dictionary update sequence element #" ++ number index ++ " to a sequence"
  | notPair index length =>
    "dictionary update sequence element #" ++ number index ++ " has length " ++ number length
      ++ "; 2 is required"
  | unhashableKey kind => "unhashable type: '" ++ kind ++ "'"

end ContentFault

end Workspace
