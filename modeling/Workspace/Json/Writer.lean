/-
Workspace.Json.Writer — values written as indented JSON.

Members and items stand on lines of their own, two blanks deeper than what
holds them; an empty object or array stays on one line. Everything outside
printable ASCII is escaped, characters beyond the basic plane as surrogate
pairs, so that the text is ASCII throughout.
-/
import Workspace.Value

namespace Workspace.Json

/-- The escape of one UTF-16 unit. -/
def unitEscape (unit : Nat) : List Char :=
  '\\' :: 'u' :: Text.fixedDigits 16 4 unit

/-- How one code point stands in a string. -/
def stringCode (code : Nat) : List Char :=
  if code = 34 then ['\\', '"']
  else if code = 92 then ['\\', '\\']
  else if code = 10 then ['\\', 'n']
  else if code = 13 then ['\\', 'r']
  else if code = 9 then ['\\', 't']
  else if code = 12 then ['\\', 'f']
  else if code = 8 then ['\\', 'b']
  else if 0x20 ≤ code ∧ code < 0x7f then [Char.ofNat code]
  else if code < 0x10000 then unitEscape code
  else
    unitEscape (0xd800 + (code - 0x10000) / 0x400)
      ++ unitEscape (0xdc00 + (code - 0x10000) % 0x400)

/-- A string with these code points. -/
def stringText (codes : List Nat) : List Char :=
  '"' :: codes.flatMap stringCode ++ ['"']

/-- A line end and the indentation of a level. -/
def newLine (level : Nat) : List Char :=
  '\n' :: List.replicate (2 * level) ' '

/-- Parts on lines of their own, between brackets. -/
def block (level : Nat) (opening closing : Char) (parts : List (List Char)) : List Char :=
  match parts with
  | [] => [opening, closing]
  | first :: rest =>
    opening :: newLine (level + 1) ++ first
      ++ rest.flatMap (fun part => ',' :: newLine (level + 1) ++ part)
      ++ newLine level ++ [closing]

/-- The text of a key, which is a string whatever the key is. -/
def keyText (key : Value) : List Char :=
  stringText key.plain.codes

mutual

/-- The text of a value that stands at an indentation level. What JSON has no
form for is written as `null`. -/
def write (level : Nat) : Value → List Char
  | .bool true => ['t', 'r', 'u', 'e']
  | .bool false => ['f', 'a', 'l', 's', 'e']
  | .int i => (Decimal.intText i).toList
  | .float x => (Decimal.floatText .json x).toList
  | .str t => stringText t.codes
  | .list vs => block level '[' ']' (writeItems (level + 1) vs)
  | .map entries => block level '\x7b' '\x7d' (writeMembers (level + 1) entries)
  | .null | .bytes _ | .date _ | .moment _ | .set _ => ['n', 'u', 'l', 'l']

def writeItems (level : Nat) : List Value → List (List Char)
  | [] => []
  | v :: vs => write level v :: writeItems level vs

def writeMembers (level : Nat) : List (Value × Value) → List (List Char)
  | [] => []
  | (k, v) :: rest => (keyText k ++ ':' :: ' ' :: write level v) :: writeMembers level rest

end

/-- The text of a value on its own. -/
def text (v : Value) : String :=
  String.ofList (write 0 v)

end Workspace.Json
