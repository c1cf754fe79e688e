/-
Workspace.Yaml.ScalarText — the four ways to write a scalar.

A scalar is written plain, between single or double quotes, or as a block
under `|` or `>`. Each reader starts at a cursor and gives the text of the
scalar, as code points because a double-quoted one may spell surrogates, and
the place after it.

Inside a flow or plain scalar, a single line end becomes a blank and further
ones stay; in a block the header decides.
-/
import Workspace.Yaml.Cursor

namespace Workspace.Yaml

/-- What a reader gives: the code points and the place after them. -/
abbrev ScalarRead := Except Stop (List Nat × Cursor)

private def codes (cs : List Char) : List Nat :=
  cs.map Char.toNat

/-- A line end followed by the line ends `breaks`, folded: one plain line feed
becomes a blank. -/
def foldBreak (first breaks : List Char) : List Char :=
  (if first ≠ ['\n'] then first else if breaks = [] then [' '] else []) ++ breaks

/-! ## Quoted scalars -/

/-- The line ends that follow, with the blanks and tabs around them passed
over; a separator line among them is an error. -/
def quotedBreaks : (rounds : Nat) → Cursor → Except Stop (List Char × Cursor)
  | 0, _ => .error .malformed
  | rounds + 1, c =>
    if c.hasSeparator then .error (c.skip 3).fail
    else
      let c := c.skipWhile fun x => x = ' ' || x = '\t'
      match c.peek with
      | some x =>
        if isBreak x then
          let (b, c) := c.lineBreak
          (quotedBreaks rounds c).map fun (bs, c) => (b ++ bs, c)
        else .ok ([], c)
      | none => .ok ([], c)

/-- The blanks, tabs and line ends inside a quoted scalar. -/
def quotedSpaces (c : Cursor) : Except Stop (List Char × Cursor) :=
  let blanks := c.run fun x => x = ' ' || x = '\t'
  let c := c.skip blanks.length
  match c.peek with
  | none => .error c.fail
  | some x =>
    if isBreak x then
      let (b, c) := c.lineBreak
      (quotedBreaks c.rounds c).map fun (bs, c) => (foldBreak b bs, c)
    else .ok (blanks, c)

/-- The characters that one letter after a backslash stands for. -/
def letterEscape? : Char → Option Nat
  | '0' => some 0
  | 'a' => some 7
  | 'b' => some 8
  | 't' | '\t' => some 9
  | 'n' => some 10
  | 'v' => some 11
  | 'f' => some 12
  | 'r' => some 13
  | 'e' => some 0x1b
  | ' ' => some 0x20
  | '"' => some 34
  | '\\' => some 92
  | '/' => some 47
  | 'N' => some 0x85
  | '_' => some 0xa0
  | 'L' => some 0x2028
  | 'P' => some 0x2029
  | _ => none

/-- How many hexadecimal digits follow the letter of a numeric escape. -/
def escapeWidth? : Char → Option Nat
  | 'x' => some 2
  | 'u' => some 4
  | 'U' => some 8
  | _ => none

/-- The number that exactly `count` hexadecimal digits spell. -/
def hexNumber? (count : Nat) (cs : List Char) : Option Nat :=
  let digits := (cs.take count).filterMap Text.hexDigit?
  if digits.length = count then some (Decimal.valueOf 16 digits) else none

/-- A code point as far as there is one. -/
def checkCode (n : Nat) : Except Stop Nat :=
  if n < 0x110000 then .ok n
  else if n < Nat.pow 2 31 then .error (.content .codePointOutOfRange)
  else .error (.content .codePointTooLarge)

/-- The escape after a backslash in a double-quoted scalar. -/
def escape (c : Cursor) : ScalarRead :=
  match c.peek with
  | none => .error c.fail
  | some x =>
    match letterEscape? x, escapeWidth? x with
    | some n, _ => .ok ([n], c.next)
    | none, some width =>
      match hexNumber? width c.next.rest with
      | none => .error (c.next.skipWhile fun x => (Text.hexDigit? x).isSome).fail
      | some n => (checkCode n).map fun n => ([n], c.next.skip width)
    | none, none =>
      if isBreak x then
        let (_, c) := c.lineBreak
        (quotedBreaks c.rounds c).map fun (bs, c) => (codes bs, c)
      else .error .malformed

/-- The rest of a quoted scalar after its opening quote. -/
def quotedBody (double : Bool) : (rounds : Nat) → Cursor → ScalarRead
  | 0, _ => .error .malformed
  | rounds + 1, c =>
    let continueWith (read : ScalarRead) : ScalarRead :=
      match read with
      | .error stop => .error stop
      | .ok (first, c) => (quotedBody double rounds c).map fun (more, c) => (first ++ more, c)
    match c.peek with
    | none => .error c.fail
    | some x =>
      if x = ' ' ∨ x = '\t' ∨ isBreak x then
        continueWith ((quotedSpaces c).map fun (cs, c) => (codes cs, c))
      else if double then
        if x = '"' then .ok ([], c.next)
        else if x = '\\' then continueWith (escape c.next)
        else continueWith (.ok ([x.toNat], c.next))
      else if x = '\'' then
        if c.peekAt 1 = some '\'' then continueWith (.ok ([x.toNat], c.skip 2))
        else .ok ([], c.next)
      else continueWith (.ok ([x.toNat], c.next))

/-- A quoted scalar; the cursor is at its opening quote. -/
def quotedScalar (double : Bool) (c : Cursor) : ScalarRead :=
  quotedBody double c.rounds c.next

/-! ## Plain scalars -/

/-- A character that separates entries inside brackets. -/
def isFlowIndicator (c : Char) : Bool :=
  c = ',' || c = '[' || c = ']' || c = '\x7b' || c = '\x7d'

/-- How many characters a plain scalar goes on for before white space or an
indicator that ends it. -/
def plainRun (inFlow : Bool) : List Char → Nat
  | [] => 0
  | x :: rest =>
    if isGap (some x) then 0
    else if x = ':' ∧ (isGap rest.head? ∨ (inFlow ∧ rest.head?.any isFlowIndicator)) then 0
    else if inFlow ∧ (isFlowIndicator x ∨ x = '?') then 0
    else plainRun inFlow rest + 1

/-- Blanks and further line ends after the first line end of a plain scalar;
nothing when a separator line comes. -/
def plainBreaks : (rounds : Nat) → Cursor → Option (List Char) × Cursor
  | 0, c => (none, c)
  | rounds + 1, c =>
    match c.peek with
    | some ' ' => plainBreaks rounds c.next
    | some x =>
      if isBreak x then
        let (b, c) := c.lineBreak
        if c.hasSeparator then (none, c)
        else
          let (bs, c) := plainBreaks rounds c
          (bs.map (b ++ ·), c)
      else (some [], c)
    | none => (some [], c)

/-- What may stand between two runs of a plain scalar. -/
structure PlainGap where
  /-- What the gap contributes if the scalar goes on after it. -/
  text : List Char
  /-- A line ended in the gap. -/
  lineEnded : Bool
  cursor : Cursor

def plainGap (c : Cursor) : PlainGap :=
  let blanks := c.run (· = ' ')
  let c := c.skip blanks.length
  match c.peek with
  | some x =>
    if isBreak x then
      let (b, c) := c.lineBreak
      if c.hasSeparator then ⟨[], true, c⟩
      else
        match plainBreaks c.rounds c with
        | (none, c) => ⟨[], true, c⟩
        | (some bs, c) => ⟨foldBreak b bs, true, c⟩
    else ⟨blanks, false, c⟩
  | none => ⟨blanks, false, c⟩

/-- A plain scalar and whether a line ended after its last character. -/
structure PlainRead where
  text : List Char
  lineEnded : Bool
  cursor : Cursor

/-- The runs of a plain scalar from here on. `gap` is what goes before the
next run, and `indent` the least column of a further line. -/
def plainRuns (inFlow : Bool) (indent : Int) :
    (rounds : Nat) → (gap : List Char) → (lineEnded : Bool) → Cursor → PlainRead
  | 0, _, lineEnded, c => ⟨[], lineEnded, c⟩
  | rounds + 1, gap, lineEnded, c =>
    let length := if c.peek = some '#' then 0 else plainRun inFlow c.rest
    if length = 0 then ⟨[], lineEnded, c⟩
    else
      let text := gap ++ c.rest.take length
      let g := plainGap (c.skip length)
      if g.text = [] ∨ g.cursor.peek = some '#' ∨ (!inFlow ∧ (g.cursor.column : Int) < indent) then
        ⟨text, g.lineEnded, g.cursor⟩
      else
        let more := plainRuns inFlow indent rounds g.text g.lineEnded g.cursor
        ⟨text ++ more.text, more.lineEnded, more.cursor⟩

/-- A plain scalar inside a node indented by `indent`. -/
def plainScalar (inFlow : Bool) (indent : Int) (c : Cursor) : PlainRead :=
  plainRuns inFlow (indent + 1) c.rounds [] false c

/-! ## Block scalars -/

/-- What happens to the line ends at the end of a block. -/
inductive Chomping where
  | strip
  | clip
  | keep
  deriving DecidableEq, Repr

structure BlockHeader where
  chomping : Chomping
  /-- How much deeper than its parent the block is, if the header says so. -/
  increment : Option Nat

/-- A chomping indicator. -/
def chomping? : Option Char → Option Chomping
  | some '+' => some .keep
  | some '-' => some .strip
  | _ => none

/-- An indentation indicator, from 1 to 9. -/
def increment? (c? : Option Char) : Except Stop (Option Nat) :=
  match c?.bind Text.asciiDigit? with
  | some 0 => .error .malformed
  | other => .ok other

/-- The indicators after `|` or `>`, in either order. -/
def blockHeader (c : Cursor) : Except Stop (BlockHeader × Cursor) := do
  let (header, c) ←
    match chomping? c.peek with
    | some chomping => do
      let c := c.next
      match ← increment? c.peek with
      | some n => pure (BlockHeader.mk chomping (some n), c.next)
      | none => pure (BlockHeader.mk chomping none, c)
    | none => do
      match ← increment? c.peek with
      | some n =>
        let c := c.next
        match chomping? c.peek with
        | some chomping => pure (BlockHeader.mk chomping (some n), c.next)
        | none => pure (BlockHeader.mk .clip (some n), c)
      | none => pure (BlockHeader.mk .clip none, c)
  if !endsWord c.peek then throw .malformed
  let c := c.skipBlanks.skipComment
  if !endsLine c.peek then throw .malformed
  return (header, c.lineBreak.2)

/-- The empty lines at the start of a block whose indentation is open, the
deepest column among their blanks, and the place after them. -/
def blockIndentation : (rounds : Nat) → (deepest : Nat) → Cursor → List Char × Nat × Cursor
  | 0, deepest, c => ([], deepest, c)
  | rounds + 1, deepest, c =>
    match c.peek with
    | some ' ' => blockIndentation rounds (max deepest c.next.column) c.next
    | some x =>
      if isBreak x then
        let (b, c) := c.lineBreak
        let (bs, deepest, c) := blockIndentation rounds deepest c
        (b ++ bs, deepest, c)
      else ([], deepest, c)
    | none => ([], deepest, c)

/-- The place after the blanks before column `indent`. -/
def skipIndent (indent : Nat) (c : Cursor) : Cursor :=
  c.skip (min (indent - c.column) (c.run (· = ' ')).length)

/-- The empty lines from here on, and the place at the start of the text of
the next line. -/
def blockBreaks (indent : Nat) : (rounds : Nat) → Cursor → List Char × Cursor
  | 0, c => ([], c)
  | rounds + 1, c =>
    let c := skipIndent indent c
    match c.peek with
    | some x =>
      if isBreak x then
        let (b, c) := c.lineBreak
        let (bs, c) := blockBreaks indent rounds c
        (b ++ bs, c)
      else ([], c)
    | none => ([], c)

private def startsWithBlank (c : Cursor) : Bool :=
  c.peek = some ' ' || c.peek = some '\t'

/-- The lines of a block from here on: `breaks` are the empty lines before
this one. Gives the text without the trailing line ends, the last line end
and the empty lines after it. -/
def blockLines (folded : Bool) (indent : Nat) : (rounds : Nat) → (breaks : List Char) → Cursor →
    (List Char × List Char × List Char) × Cursor
  | 0, breaks, c => (([], [], breaks), c)
  | rounds + 1, breaks, c =>
    let line := c.run (!isBreak ·)
    let (b, after) := (c.skip line.length).lineBreak
    let (bs, after) := blockBreaks indent after.rounds after
    if after.column = indent ∧ after.peek.isSome then
      let folds := folded && b = ['\n'] && !startsWithBlank c && !startsWithBlank after
      let glue := if folds then (if bs = [] then [' '] else []) else b
      let ((text, last, trailing), c) := blockLines folded indent rounds bs after
      ((breaks ++ line ++ glue ++ text, last, trailing), c)
    else ((breaks ++ line, b, bs), after)

/-- A block scalar in a node indented by `indent`; the cursor is at its
indicator. -/
def blockScalar (folded : Bool) (indent : Int) (c : Cursor) : ScalarRead := do
  let (header, c) ← blockHeader c.next
  let least := max (indent + 1) 1
  let (breaks, column, c) :=
    match header.increment with
    | none =>
      let (bs, deepest, c) := blockIndentation c.rounds 0 c
      (bs, (max least deepest).toNat, c)
    | some n =>
      let column := (least + n - 1).toNat
      let (bs, c) := blockBreaks column c.rounds c
      (bs, column, c)
  let ((text, last, trailing), c) :=
    if c.column = column ∧ c.peek.isSome then
      blockLines folded column c.rounds breaks c
    else (([], [], breaks), c)
  let ending :=
    match header.chomping with
    | .strip => []
    | .clip => last
    | .keep => last ++ trailing
  return (codes (text ++ ending), c)

end Workspace.Yaml
