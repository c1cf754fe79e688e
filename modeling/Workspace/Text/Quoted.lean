/-
Workspace.Text.Quoted — the quoted spelling of a text in messages.

A quoted text stands between single quotes, or between double quotes when
it holds a single quote and no double quote. The quote in use, the
backslash and every character without a visible form are escaped; all else
stands as it is. The functions take code points, so that texts with code
points that are no characters can be shown as well.
-/
import Workspace.Text.Basic
import Workspace.Text.Digit
import Workspace.Text.Printable

namespace Workspace.Text

/-- The escape of a code point by its number, in the shortest of the three
widths that holds it. -/
def numericEscape (code : Nat) : List Char :=
  if code < 0x100 then '\\' :: 'x' :: fixedDigits 16 2 code
  else if code < 0x10000 then '\\' :: 'u' :: fixedDigits 16 4 code
  else '\\' :: 'U' :: fixedDigits 16 8 code

/-- How one code point is written between quotes of the kind `quote`. -/
def quotedCode (quote : Char) (code : Nat) : List Char :=
  if code = quote.toNat ∨ code = 92 then ['\\', Char.ofNat code]
  else if code = 10 then ['\\', 'n']
  else if code = 13 then ['\\', 'r']
  else if code = 9 then ['\\', 't']
  else if isPrintable code then [Char.ofNat code]
  else numericEscape code

/-- The quote that surrounds a text. -/
def quoteFor (codes : List Nat) : Char :=
  if 39 ∈ codes ∧ 34 ∉ codes then '"' else '\''

/-- The quoted spelling of a list of code points. -/
def quoteCodes (codes : List Nat) : List Char :=
  let quote := quoteFor codes
  quote :: codes.flatMap (quotedCode quote) ++ [quote]

/-- The quoted spelling of a text. -/
def quote (t : Text) : String :=
  String.ofList (quoteCodes t.codes)

/-- How one byte is written between quotes of the kind `quote`. -/
def quotedByte (quote : Char) (byte : UInt8) : List Char :=
  let code := byte.toNat
  if code = quote.toNat ∨ code = 92 then ['\\', Char.ofNat code]
  else if code = 10 then ['\\', 'n']
  else if code = 13 then ['\\', 'r']
  else if code = 9 then ['\\', 't']
  else if 0x20 ≤ code ∧ code < 0x7f then [Char.ofNat code]
  else numericEscape code

/-- The quoted spelling of a byte string, marked by a leading `b`. -/
def quoteBytes (bytes : List UInt8) : String :=
  let quote := quoteFor (bytes.map UInt8.toNat)
  String.ofList ('b' :: quote :: bytes.flatMap (quotedByte quote) ++ [quote])

end Workspace.Text
