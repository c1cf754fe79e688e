/-
Workspace.Yaml.Source — a YAML text as its reader gets it.

A file is read, decoded and checked for characters that may not stand in YAML
block by block, and only as far as the text is looked at. So a defect of its
bytes shows when the reader comes to it, not before: a `Source` is what the
reader gets to see, and why it is cut off there if the file goes on.
-/
import Workspace.ContentFault

namespace Workspace.Yaml

/-- Why a text cannot be taken apart: it breaks the grammar, or it spells
something that does not exist. -/
inductive Stop where
  | malformed
  | content (fault : ContentFault)
  deriving DecidableEq, Repr

/-- The most decimal digits of an integer that are read. -/
def digitLimit : Nat := 4300

/-- A character that a text may hold. -/
def isAllowed (c : Char) : Bool :=
  let n := c.toNat
  n = 9 || n = 10 || n = 13 || (0x20 ≤ n && n ≤ 0x7e) || n = 0x85 || (0xa0 ≤ n && n ≤ 0xd7ff)
    || (0xe000 ≤ n && n ≤ 0xfffd) || 0x10000 ≤ n

/-- The characters of a text, and what comes instead of its end if it is cut
off there. -/
structure Source where
  text : List Char
  stop : Option Stop
  deriving DecidableEq, Repr

namespace Source

/-- A text with nothing wrong behind it. -/
def whole (text : List Char) : Source := ⟨text, none⟩

/-- A text whose characters are checked. One that may not stand there cuts the
text off, at most `seen` characters from its start. -/
def checked (seen : Nat) (s : Source) : Source :=
  if s.text.all isAllowed then s
  else ⟨(s.text.takeWhile isAllowed).take seen, some .malformed⟩

end Source

end Workspace.Yaml
