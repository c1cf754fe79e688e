/-
Workspace.Terminal.Wrap — lines broken to fit a number of columns.

A line is taken apart into words, each with the white space behind it; the
first one also has the white space before it. Words go on one line as long
as they fit without the white space behind them, and a word that does not
fit begins a new line. What becomes of a word that no line has room for is a
matter of `Overflow`: on the console it is cut into pieces, in a cell it makes
a line that is too long, which is cut and ends in an ellipsis.
-/
import Workspace.Terminal.Line
import Workspace.Text.Blank
import Workspace.Text.Pieces

namespace Workspace.Terminal

/-- What is done with what is too long for a line. -/
inductive Overflow where
  | fold
  | ellipsis
  deriving DecidableEq, Repr

/-- The words of a line; `lead` comes before the first one. Every round takes
one word. -/
def wordsFrom : (rounds : Nat) → (lead : Text) → Text → List Text
  | 0, _, _ => []
  | rounds + 1, lead, t =>
    let word := t.takeWhile (!Text.isBlankPoint ·)
    if word = [] then []
    else
      let rest := t.drop word.length
      (lead ++ word ++ rest.takeWhile Text.isBlankPoint)
        :: wordsFrom rounds [] (rest.dropWhile Text.isBlankPoint)

/-- The words of a line, white space included. -/
def lineWords (line : Text) : List Text :=
  wordsFrom line.length (line.takeWhile Text.isBlankPoint) (line.dropWhile Text.isBlankPoint)

/-- The columns that a word needs at the end of a line. -/
def wordWidth (word : Text) : Nat :=
  Text.width (word.reverse.dropWhile Text.isBlankPoint)

/-- A word cut into pieces that have room on a line; `piece` is the one that is
being filled. Gives the pieces before the last one, and that. -/
def chop (width : Nat) (piece : Text) : Text → List Text × Text
  | [] => ([], piece)
  | p :: rest =>
    if Text.width piece + Text.pointWidth p ≤ width then chop width (piece ++ [p]) rest
    else
      let (pieces, last) := chop width [p] rest
      (piece :: pieces, last)

/-- A line that is done with; one with nothing on it is no line. -/
def lineDone (line : Text) : List Text :=
  if line = [] then [] else [line]

/-- Puts words on lines; `line` is the one that is being filled. -/
def fillLines (overflow : Overflow) (width : Nat) (line : Text) : List Text → List Text
  | [] => [line]
  | word :: rest =>
    if Text.width line + wordWidth word ≤ width then
      fillLines overflow width (line ++ word) rest
    else if overflow = .fold ∧ width < wordWidth word then
      let (pieces, last) := chop width [] word
      -- a first character without room leaves an empty piece, which begins no text
      lineDone line ++ (if line = [] then pieces.filter (· ≠ []) else pieces)
        ++ fillLines overflow width last rest
    else lineDone line ++ fillLines overflow width word rest

@[simp] theorem flatten_lineDone (line : Text) : (lineDone line).flatten = line := by
  by_cases hline : line = [] <;> simp [lineDone, hline]

theorem flatten_chop (width : Nat) (piece word : Text) :
    (chop width piece word).1.flatten ++ (chop width piece word).2 = piece ++ word := by
  induction word generalizing piece with
  | nil => simp [chop]
  | cons p rest ih =>
    rw [chop]
    split
    · simp [ih]
    · simp [ih]

/-- No word is lost or moved. -/
theorem flatten_fillLines (overflow : Overflow) (width : Nat) (line : Text) (words : List Text) :
    (fillLines overflow width line words).flatten = line ++ words.flatten := by
  induction words generalizing line with
  | nil => simp [fillLines]
  | cons word rest ih =>
    rw [fillLines]
    split
    · simp [ih]
    · split
      · have hpieces : (if line = [] then (chop width [] word).1.filter (· ≠ [])
            else (chop width [] word).1).flatten = (chop width [] word).1.flatten := by
          split
          · exact List.flatten_filter_ne_nil
          · rfl
        have hchop := flatten_chop width [] word
        simp only [List.flatten_append, flatten_lineDone, ih, List.flatten_cons, hpieces,
          List.append_assoc]
        rw [← List.append_assoc (chop width [] word).1.flatten, hchop]
        simp
      · simp [ih]

/-- The line without as much of the white space at its end as it has code
points too many. -/
def withoutExcess (width : Nat) (line : Text) : Text :=
  let blanks := (line.reverse.takeWhile Text.isBlankPoint).length
  line.take (line.length - min blanks (line.length - width))

/-- The start of a line that takes `width` columns, searched for by halving; a
wide character that is cut in two leaves a blank. -/
def startOfWidth (width : Nat) (line : Text) : (rounds first last : Nat) → Text
  | 0, first, _ => line.take first
  | rounds + 1, first, last =>
    let middle := (first + last) / 2
    let start := line.take (middle + 1)
    let found := Text.width start
    if found = width + 1 ∧ start.getLast?.map Text.pointWidth = some 2 then
      start.dropLast ++ " "
    else if found = width then start
    else if width < found then startOfWidth width line rounds first middle
    else startOfWidth width line rounds middle last

/-- The line, cut down to a number of columns if it takes more. -/
def cutLine (overflow : Overflow) (width : Nat) (line : Text) : Text :=
  let start (width : Nat) : Text := startOfWidth width line (line.length + 1) 0 line.length
  if Text.width line ≤ width then line
  else
    match overflow with
    | .fold => start width
    | .ellipsis => start (width - 1) ++ "…"

/-- The lines that a line becomes. -/
def wrapLine (overflow : Overflow) (width : Nat) (line : Text) : List Text :=
  let expanded := expandTabs line
  let lines :=
    match lineWords expanded with
    | [] => [expanded]
    | words => fillLines overflow width [] words
  lines.map fun l => cutLine overflow width (withoutExcess width l)

/-- The lines that a text becomes. -/
def wrapText (overflow : Overflow) (width : Nat) (t : Text) : List Text :=
  (Text.pieces (.char '\n') t).flatMap (wrapLine overflow width)

/-- The lines that a text takes on a console. One without columns shows nothing. -/
def consoleLines (columns : Nat) (t : Text) : List Text :=
  if columns = 0 then [] else wrapText .fold columns t

/-- A text as it is printed on a console, with every line ended. -/
def printed (columns : Nat) (t : Text) : Text :=
  (consoleLines columns t).flatMap (· ++ [.char '\n'])

end Workspace.Terminal
