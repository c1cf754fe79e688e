/-
Workspace.Text.Blank — the characters that count as white space.

The set is that of the white-space property together with the four
information separators U+001C to U+001F. It decides when a project root is
blank and what may surround a number.
-/
import Workspace.Text.Basic

namespace Workspace.Text

/-- The character is white space. -/
def isBlankChar (c : Char) : Bool :=
  let n := c.toNat
  (9 ≤ n && n ≤ 13) || (0x1c ≤ n && n ≤ 0x20) || n = 0x85 || n = 0xa0 || n = 0x1680
    || (0x2000 ≤ n && n ≤ 0x200a) || n = 0x2028 || n = 0x2029 || n = 0x202f || n = 0x205f
    || n = 0x3000

/-- The character has the white-space property, so the information separators
are left out. -/
def isSpaceChar (c : Char) : Bool :=
  isBlankChar c && !(0x1c ≤ c.toNat && c.toNat ≤ 0x1f)

/-- The code point is white space. -/
def isBlankPoint (p : CodePoint) : Bool :=
  p.satisfies isBlankChar

/-- Nothing but white space, or nothing at all. -/
def isBlank (t : Text) : Bool :=
  t.all isBlankPoint

/-- The text without the characters at either end that satisfy `p`. -/
def trimBoth {α : Type} (p : α → Bool) (cs : List α) : List α :=
  ((cs.dropWhile p).reverse.dropWhile p).reverse

end Workspace.Text
