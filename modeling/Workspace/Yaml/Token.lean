/-
Workspace.Yaml.Token — the tokens of a YAML text.

Tokens show the structure that indentation and indicators give to a text:
where collections begin and end, where keys, values and entries start, and
the scalars, anchors, aliases and tags among them. This module has the
tokens and the readers of those that are spelled out in one piece;
`Workspace.Yaml.Token.Stream` finds out which one comes next.
-/
import Workspace.Yaml.ScalarText

namespace Workspace.Yaml

/-- A tag as it is written: a handle, unless the tag is written out in full,
and what follows it. -/
structure TagSpelling where
  handle : Option (List Char)
  suffix : List Char
  deriving DecidableEq, Repr

inductive Directive where
  /-- The version of the language; only the major number matters. -/
  | version (major : Nat)
  /-- What a tag handle stands for. -/
  | handle (handle meaning : List Char)
  | other
  deriving DecidableEq, Repr

inductive Token where
  | directive (d : Directive)
  | documentStart
  | documentEnd
  | blockSequenceStart
  | blockMappingStart
  | blockEnd
  | flowSequenceStart
  | flowSequenceEnd
  | flowMappingStart
  | flowMappingEnd
  | entry
  | flowEntry
  | key
  | value
  | alias (name : List Char)
  | anchor (name : List Char)
  | tag (t : TagSpelling)
  | scalar (text : List Nat) (plain : Bool)
  deriving DecidableEq, Repr

/-- A letter or digit of ASCII, a hyphen or an underscore. -/
def isWordChar (c : Char) : Bool :=
  ('0' ≤ c && c ≤ '9') || ('A' ≤ c && c ≤ 'Z') || ('a' ≤ c && c ≤ 'z') || c = '-' || c = '_'

/-! ## Anchors and aliases -/

/-- The name of an anchor or alias; the cursor is at its indicator. -/
def anchorName (c : Cursor) : Except Stop (List Char × Cursor) :=
  let c := c.next
  let name := c.run isWordChar
  let after := c.skip name.length
  let ends (x : Char) : Bool :=
    isGap (some x) || ['?', ':', ',', ']', '\x7d', '%', '@', '\x60'].contains x
  if name = [] ∨ !(after.peek.all ends) then .error after.fail
  else .ok (name, after)

/-! ## Tags -/

/-- A tag handle: `!!`, `!word!`, or `!` before a blank; the cursor is at its
start. -/
def tagHandle (c : Cursor) : Except Stop (List Char × Cursor) :=
  match c.rest with
  | '!' :: ' ' :: _ => .ok (['!'], c.next)
  | '!' :: rest =>
    let word := rest.takeWhile isWordChar
    let c := c.skip (word.length + 1)
    if c.peek = some '!' then .ok ('!' :: word ++ ['!'], c.next)
    else .error c.fail
  | _ => .error c.fail

/-- A character that a tag may contain as it is. -/
def isTagChar (c : Char) : Bool :=
  isWordChar c || ";/?:@&=+$,.!~*'()[]".contains c

/-- The bytes of the `%xx` escapes from here on. -/
def escapedBytes : (rounds : Nat) → List Char → Option (List UInt8)
  | 0, _ => some []
  | rounds + 1, cs =>
    match cs with
    | '%' :: rest =>
      match hexNumber? 2 rest with
      | some n => (escapedBytes rounds (rest.drop 2)).map (UInt8.ofNat n :: ·)
      | none => none
    | _ => some []

/-- The text of a tag from here on; the escapes in a row make up characters
together. -/
def tagText : (rounds : Nat) → Cursor → Except Stop (List Char × Cursor)
  | 0, c => .ok ([], c)
  | rounds + 1, c =>
    match c.peek with
    | some '%' =>
      match escapedBytes c.size c.rest with
      | none => .error (c.skipWhile fun x => x = '%' || (Text.hexDigit? x).isSome).fail
      | some bytes =>
        match String.fromUTF8? ⟨bytes.toArray⟩ with
        | none => .error (c.skip (3 * bytes.length)).fail
        | some s =>
          (tagText rounds (c.skip (3 * bytes.length))).map fun (more, c) => (s.toList ++ more, c)
    | some x =>
      if isTagChar x then (tagText rounds c.next).map fun (more, c) => (x :: more, c)
      else .ok ([], c)
    | none => .ok ([], c)

/-- The text of a tag, which may not be empty. -/
def tagTextNonEmpty (c : Cursor) : Except Stop (List Char × Cursor) :=
  if c.peek.any fun x => x = '%' || isTagChar x then tagText c.rounds c
  else .error c.fail

/-- A tag; the cursor is at its `!`. -/
def tagSpelling (c : Cursor) : Except Stop (TagSpelling × Cursor) := do
  let (t, c) ←
    match c.peekAt 1 with
    | some '<' => do
      let (text, c) ← tagTextNonEmpty (c.skip 2)
      if c.peek ≠ some '>' then throw c.fail
      pure (TagSpelling.mk none text, c.next)
    | second =>
      if isGap second then pure (TagSpelling.mk none ['!'], c.next)
      else do
        let word := c.next.run fun x => !endsWord (some x)
        let (handle, c) ← if word.contains '!' then tagHandle c else pure (['!'], c.next)
        let (text, c) ← tagTextNonEmpty c
        pure (TagSpelling.mk (some handle) text, c)
  if !endsWord c.peek then throw .malformed
  return (t, c)

/-! ## Directives -/

/-- A number in a directive. -/
def directiveNumber (c : Cursor) : Except Stop (Nat × Cursor) :=
  let digits := c.run fun x => (Text.asciiDigit? x).isSome
  if digits = [] then .error c.fail
  else if digitLimit < digits.length then .error (.content (.longInteger digits.length))
  else .ok (Decimal.valueOf 10 (digits.filterMap Text.asciiDigit?), c.skip digits.length)

/-- A directive; the cursor is at its `%`. -/
def directive (c : Cursor) : Except Stop (Directive × Cursor) := do
  let c := c.next
  let name := c.run isWordChar
  let c := c.skip name.length
  if name = [] ∨ !endsWord c.peek then throw c.fail
  let (d, c) ←
    if name = ['Y', 'A', 'M', 'L'] then do
      let (major, c) ← directiveNumber c.skipBlanks
      if c.peek ≠ some '.' then throw c.fail
      let (_, c) ← directiveNumber c.next
      if !endsWord c.peek then throw .malformed
      pure (Directive.version major, c)
    else if name = ['T', 'A', 'G'] then do
      let (handle, c) ← tagHandle c.skipBlanks
      if c.peek ≠ some ' ' then throw c.fail
      let (meaning, c) ← tagTextNonEmpty c.skipBlanks
      if !endsWord c.peek then throw .malformed
      pure (Directive.handle handle meaning, c)
    else pure (Directive.other, c.skipToBreak)
  let c := c.skipBlanks.skipComment
  if !endsLine c.peek then throw .malformed
  return (d, c.lineBreak.2)

end Workspace.Yaml
