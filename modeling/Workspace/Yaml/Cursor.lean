/-
Workspace.Yaml.Cursor — a place in a YAML text.

A cursor holds the text that is left, and where in the whole text that is:
the offset, and the line and column, which decide about indentation and
about how far a key may stretch. It also knows the length of the whole text,
since no reader takes more rounds than there are characters, and what waits
at the end of a text that is cut off.
-/
import Workspace.Yaml.Source

namespace Workspace.Yaml

/-- A character that ends a line. -/
def isBreak (c : Char) : Bool :=
  c = '\n' || c = '\r' || c = '\x85' || c = '\u2028' || c = '\u2029'

/-- The end of the text, a line end or a blank other than a tab. -/
def endsWord : Option Char → Bool
  | none => true
  | some c => c = ' ' || isBreak c

/-- The end of the text, a line end, a blank or a tab. -/
def isGap (c? : Option Char) : Bool :=
  endsWord c? || c? = some '\t'

/-- The end of the text or of a line. -/
def endsLine : Option Char → Bool
  | none => true
  | some c => isBreak c

/-- A place in a text. -/
structure Cursor where
  rest : List Char
  /-- The length of the whole text. -/
  size : Nat
  offset : Nat
  line : Nat
  column : Nat
  /-- What comes instead of the end of the text, if it is cut off. -/
  stop : Option Stop

namespace Cursor

/-- The start of a text. -/
def start (source : Source) : Cursor :=
  ⟨source.text, source.text.length, 0, 0, 0, source.stop⟩

/-- Why the text cannot be looked at here, if it is cut off here. -/
def cutOff? (c : Cursor) : Option Stop :=
  if c.rest = [] then c.stop else none

/-- Why nothing can be read here: there is no more of the text, or what comes
does not fit. -/
def fail (c : Cursor) : Stop :=
  c.cutOff?.getD .malformed

/-- Enough rounds for a reader that uses up a character in each. -/
def rounds (c : Cursor) : Nat := c.size + 1

/-- The character here. -/
def peek (c : Cursor) : Option Char := c.rest.head?

/-- The character `n` places further on. -/
def peekAt (c : Cursor) (n : Nat) : Option Char := c.rest[n]?

/-- The place after the next character; the end stays where it is. A byte
order mark takes no column. -/
def next (c : Cursor) : Cursor :=
  match c.rest with
  | [] => c
  | x :: rest =>
    let ends := isBreak x && !(x = '\r' && rest.head? = some '\n')
    if ends then { c with rest, offset := c.offset + 1, line := c.line + 1, column := 0 }
    else if x = '\ufeff' then { c with rest, offset := c.offset + 1 }
    else { c with rest, offset := c.offset + 1, column := c.column + 1 }

/-- The place `n` characters further on. -/
def skip : (n : Nat) → Cursor → Cursor
  | 0, c => c
  | n + 1, c => skip n c.next

/-- The characters from here on that satisfy `p`. -/
def run (c : Cursor) (p : Char → Bool) : List Char :=
  c.rest.takeWhile p

/-- The place after the characters that satisfy `p`. -/
def skipWhile (c : Cursor) (p : Char → Bool) : Cursor :=
  c.skip (c.run p).length

def skipBlanks (c : Cursor) : Cursor :=
  c.skipWhile (· = ' ')

/-- The place at the end of this line. -/
def skipToBreak (c : Cursor) : Cursor :=
  c.skipWhile (!isBreak ·)

/-- The place at the end of this line if a comment comes next. -/
def skipComment (c : Cursor) : Cursor :=
  if c.peek = some '#' then c.skipToBreak else c

/-- What a line end contributes to a text, and the place after it; nothing
where no line ends. -/
def lineBreak (c : Cursor) : List Char × Cursor :=
  match c.rest with
  | '\r' :: '\n' :: _ => (['\n'], c.skip 2)
  | x :: _ =>
    if x = '\u2028' ∨ x = '\u2029' then ([x], c.next)
    else if isBreak x then (['\n'], c.next)
    else ([], c)
  | [] => ([], c)

/-- A line of three characters `x` that separates documents starts here. -/
def hasMarker (c : Cursor) (x : Char) : Bool :=
  match c.rest with
  | a :: b :: d :: more => a = x && b = x && d = x && isGap more.head?
  | _ => false

/-- A line that separates documents starts here. -/
def hasSeparator (c : Cursor) : Bool :=
  c.hasMarker '-' || c.hasMarker '.'

end Cursor

end Workspace.Yaml
