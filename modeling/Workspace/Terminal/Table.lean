/-
Workspace.Terminal.Table — a titled table drawn with lines.

Every column is as wide as its widest cell, with a blank on either side, as
long as the console has room for the table; if not, the widest columns are made
narrower until it has (`fitted`). The head is set off by heavy lines, and the
title stands in the middle above the table. A cell of several lines makes its
row as high as it is.

Tabs take no column when the widest cell is looked for, and more characters
than the line feed end a line there; what turns out to be too long for its
column is wrapped. A console that has no room for one character in every column
is beyond all this.
-/
import Workspace.Terminal.Wrap

namespace Workspace.Terminal

/-- A title, the heads of the columns, and rows with a cell for each. -/
structure Table where
  title : Text
  heads : List Text
  rows : List (List Text)

namespace Table

/-- The lines of a cell in a column. -/
def cellLines (width : Nat) (cell : Text) : List Text :=
  wrapText .ellipsis width cell

/-- A character that ends a line when a cell is measured. -/
def endsLine (c : Char) : Bool :=
  let n := c.toNat
  (10 ≤ n && n ≤ 13) || (0x1c ≤ n && n ≤ 0x1e) || n = 0x85 || n = 0x2028 || n = 0x2029

/-- The columns of the terminal that a cell asks for. -/
def cellWidth (cell : Text) : Nat :=
  let lines := cell.map fun p => if p.satisfies endsLine then .char '\n' else p
  (Text.pieces (.char '\n') lines).foldl (fun w line => max w (Text.width line)) 0

/-- The widths that the cells of the columns ask for. -/
def naturalWidths (t : Table) : List Nat :=
  t.rows.foldl (fun ws row => List.zipWith (fun w cell => max w (cellWidth cell)) ws row)
    (t.heads.map cellWidth)

/-! ## Widths -/

/-- The columns of the terminal that a table with columns of these widths takes:
each has a blank at either side and a bar before it, and the last a bar behind
it. -/
def frameWidth (widths : List Nat) : Nat :=
  widths.foldr (fun w total => w + 3 + total) 1

/-- The nearest number to a quotient, of two the even one. -/
def roundedShare (total parts : Nat) : Nat :=
  let share := total / parts
  let rest := 2 * (total % parts)
  if rest < parts ∨ (rest = parts ∧ share % 2 = 0) then share else share + 1

/-- Takes `excess` from the `parts` widths that are `widest`, as evenly as whole
numbers allow, and from none of them more than `most`. -/
def reduceWidest (widest most : Nat) : (excess parts : Nat) → List Nat → List Nat
  | _, _, [] => []
  | excess, parts, w :: ws =>
    if w = widest then
      let taken := min most (roundedShare excess parts)
      (w - taken) :: reduceWidest widest most (excess - taken) (parts - 1) ws
    else w :: reduceWidest widest most excess parts ws

/-- Makes the widest columns narrower, at most down to the next widest ones, and
again, until all of them take no more than `room`. Every round takes something. -/
def collapse (room : Nat) : (rounds : Nat) → List Nat → List Nat
  | 0, ws => ws
  | rounds + 1, ws =>
    let excess := ws.foldr (· + ·) 0 - room
    if excess = 0 then ws
    else
      let widest := ws.foldl max 0
      let next := (ws.filter (· ≠ widest)).foldl max 0
      collapse room rounds
        (reduceWidest widest (min excess (widest - next)) excess (ws.count widest) ws)

/-- The widths of columns that ask for `widths`, on a console of `columns`. -/
def fitted (columns : Nat) (widths : List Nat) : List Nat :=
  if frameWidth widths ≤ columns then widths
  else
    -- with the blanks at their sides, no column takes more than there is room for
    let room := columns - (widths.length + 1)
    let outer := widths.map fun w => min (w + 2) room
    (collapse room (outer.foldr (· + ·) 0) outer).map (· - 2)

/-- The widths of the columns, without the blanks at their sides. -/
def widths (t : Table) (columns : Nat) : List Nat :=
  fitted columns t.naturalWidths

/-! ## Drawing -/

/-- A number of blanks. -/
def blanks (count : Nat) : Text :=
  List.replicate count (.char ' ')

/-- A text filled up with blanks. -/
def padded (width : Nat) (t : Text) : Text :=
  t ++ blanks (width - Text.width t)

/-- A line of a row between bars. -/
def rowLine (bar : Char) (widths : List Nat) (cells : List Text) : Text :=
  let cell (w : Nat) (t : Text) : Text := .char ' ' :: padded w t ++ [.char ' ', .char bar]
  .char bar :: (List.zipWith cell widths cells).flatten

/-- The lines of a row; cells with fewer lines end in blank ones. -/
def rowLines (bar : Char) (widths : List Nat) (cells : List Text) : List Text :=
  let lines := List.zipWith cellLines widths cells
  let height := lines.foldl (fun h ls => max h ls.length) 1
  (List.range height).map fun i => rowLine bar widths (lines.map fun ls => ls.getD i [])

/-- A line across the table, with a start, a filling, a joint and an end. -/
def rule (start fill joint finish : Char) (widths : List Nat) : Text :=
  let segments := widths.map fun w => List.replicate (w + 2) (.char fill)
  .char start :: Text.joinWith (.char joint) segments ++ [.char finish]

/-- A line in the middle, without the white space at its end; of two middles it
takes the left one. -/
def centred (width : Nat) (line : Text) : Text :=
  let t := (line.reverse.dropWhile Text.isBlankPoint).reverse
  padded width (blanks ((width - Text.width t) / 2) ++ t)

/-- The lines of the title of a table that takes `width` columns. -/
def titleLines (t : Table) (width : Nat) : List Text :=
  (wrapText .fold width t.title).map (centred width)

/-- The lines of a table on a console of `columns`. -/
def lines (t : Table) (columns : Nat) : List Text :=
  let ws := t.widths columns
  t.titleLines (frameWidth ws) ++ rule '┏' '━' '┳' '┓' ws :: rowLines '┃' ws t.heads
    ++ rule '┡' '━' '╇' '┩' ws :: t.rows.flatMap (rowLines '│' ws)
    ++ [rule '└' '─' '┴' '┘' ws]

/-- The table as it is drawn; every line ends with a line feed. -/
def render (t : Table) (columns : Nat) : Text :=
  (t.lines columns).flatMap (· ++ [.char '\n'])

end Table

end Workspace.Terminal
