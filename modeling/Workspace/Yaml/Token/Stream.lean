/-
Workspace.Yaml.Token.Stream — a YAML text taken apart into tokens.

The text is gone through once from the front. Two things make the order of
the tokens differ from the order in the text. A block collection begins at
the column of its first entry and ends where a line starts further left, so
that beginnings and ends come from a stack of columns. And a simple key, one
without `?`, is known as a key only at the `:` behind it: until then its
place among the tokens is remembered, one place for each flow level, and the
key token goes in there later.

`tokens` gives all tokens or, with the reason, those that are known before the
first thing that cannot be read. What may be a simple key has to wait until
that is found out, and so have the tokens behind it (`Scan.ready`).
-/
import Workspace.Yaml.Token

namespace Workspace.Yaml

/-- A place where a simple key may have started. -/
structure SimpleKey where
  /-- How many tokens were there before. -/
  place : Nat
  /-- Nothing but a key can stand here. -/
  required : Bool
  offset : Nat
  line : Nat
  column : Nat
  deriving DecidableEq, Repr

/-- The state between two tokens. -/
structure Scan where
  cursor : Cursor
  /-- The tokens so far, the latest first. -/
  tokens : List Token
  /-- How many tokens there are. -/
  count : Nat
  /-- How many brackets are open. -/
  depth : Nat
  /-- The column of the innermost block collection, -1 outside of any. -/
  indent : Int
  outerIndents : List Int
  /-- A simple key may start at the next token. -/
  keyAllowed : Bool
  /-- The possible simple keys by flow level. -/
  keys : List (Nat × SimpleKey)
  /-- No token behind these will be asked for. -/
  finished : Bool

namespace Scan

def start (source : Source) : Scan where
  cursor := Cursor.start source
  tokens := []
  count := 0
  depth := 0
  indent := -1
  outerIndents := []
  keyAllowed := true
  keys := []
  finished := false

def push (s : Scan) (t : Token) : Scan :=
  { s with tokens := t :: s.tokens, count := s.count + 1 }

/-- Puts a token where `place` tokens are before it. -/
def insertAt (s : Scan) (place : Nat) (t : Token) : Scan :=
  let later := s.count - place
  { s with
    tokens := s.tokens.take later ++ t :: s.tokens.drop later
    count := s.count + 1 }

/-- Moves on to the next token: blanks, comments and line ends are passed
over. A line end outside brackets allows a simple key again. -/
def toNextToken : (rounds : Nat) → Scan → Scan
  | 0, s => s
  | rounds + 1, s =>
    let c := s.cursor.skipBlanks.skipComment
    match c.peek with
    | some x =>
      if isBreak x then
        toNextToken rounds { s with
          cursor := c.lineBreak.2
          keyAllowed := s.keyAllowed || s.depth = 0 }
      else { s with cursor := c }
    | none => { s with cursor := c }

/-- A possible key is too far back to become one: keys stay on one line and
within 1024 characters. -/
def isStale (s : Scan) (k : SimpleKey) : Bool :=
  k.line ≠ s.cursor.line || k.offset + 1024 < s.cursor.offset

/-- Gives up the possible keys that are too far back. -/
def dropStaleKeys (s : Scan) : Except Stop Scan :=
  if s.keys.any fun k => s.isStale k.2 && k.2.required then .error .malformed
  else .ok { s with keys := s.keys.filter fun k => !s.isStale k.2 }

/-- Gives up the possible key of this level. -/
def dropKey (s : Scan) : Except Stop Scan :=
  match s.keys.lookup s.depth with
  | some k =>
    if k.required then .error .malformed
    else .ok { s with keys := s.keys.filter (·.1 ≠ s.depth) }
  | none => .ok s

/-- Remembers that a simple key may start here. -/
def saveKey (s : Scan) : Except Stop Scan :=
  if s.keyAllowed then do
    let required := s.depth = 0 && s.indent = s.cursor.column
    let s ← s.dropKey
    let c := s.cursor
    return { s with
      keys := (s.depth, ⟨s.count, required, c.offset, c.line, c.column⟩) :: s.keys }
  else .ok s

/-- Ends the block collections that begin to the right of a column. -/
def unwindFrom (column : Int) : List Int → Scan → Scan
  | [], s => s
  | outer :: rest, s =>
    if column < s.indent then
      unwindFrom column rest { s.push .blockEnd with indent := outer, outerIndents := rest }
    else s

def unwind (s : Scan) (column : Int) : Scan :=
  if s.depth = 0 then unwindFrom column s.outerIndents s else s

/-- A block collection begins at a column, unless one is open there. -/
def indentTo (s : Scan) (column : Int) : Option Scan :=
  if s.indent < column then
    some { s with outerIndents := s.indent :: s.outerIndents, indent := column }
  else none

/-- Takes the next character as a token. -/
def take (s : Scan) (t : Token) : Scan :=
  { s with cursor := s.cursor.next }.push t

/-- A token that only stands between documents. -/
def betweenDocuments (s : Scan) : Except Stop Scan := do
  let s ← (s.unwind (-1)).dropKey
  return { s with keyAllowed := false }

def fetchEnd (s : Scan) : Except Stop Scan := do
  let s ← s.betweenDocuments
  return { s with keys := [], finished := true }

def fetchDirective (s : Scan) : Except Stop Scan := do
  let s ← s.betweenDocuments
  let (d, c) ← directive s.cursor
  return { s with cursor := c }.push (.directive d)

def fetchDocumentMarker (s : Scan) (t : Token) : Except Stop Scan := do
  let s ← s.betweenDocuments
  return { s with cursor := s.cursor.skip 3 }.push t

def fetchFlowStart (s : Scan) (t : Token) : Except Stop Scan := do
  let s ← s.saveKey
  return { s with depth := s.depth + 1, keyAllowed := true }.take t

/-- A closing bracket. Without an open one it breaks the grammar wherever it
stands, so that nothing behind it is looked at. -/
def fetchFlowEnd (s : Scan) (t : Token) : Except Stop Scan := do
  let s ← s.dropKey
  return { s with
    depth := s.depth - 1, keyAllowed := false, finished := s.depth = 0 }.take t

def fetchFlowEntry (s : Scan) : Except Stop Scan := do
  let s ← { s with keyAllowed := true }.dropKey
  return s.take .flowEntry

/-- Begins a block collection for an indicator here, outside brackets. -/
def beginBlock (s : Scan) (t : Token) : Except Stop Scan :=
  if 0 < s.depth then .ok s
  else if !s.keyAllowed then .error .malformed
  else
    match s.indentTo s.cursor.column with
    | some s => .ok (s.push t)
    | none => .ok s

def fetchBlockEntry (s : Scan) : Except Stop Scan := do
  let s ← s.beginBlock .blockSequenceStart
  let s ← { s with keyAllowed := true }.dropKey
  return s.take .entry

def fetchKey (s : Scan) : Except Stop Scan := do
  let s ← s.beginBlock .blockMappingStart
  let s ← { s with keyAllowed := s.depth = 0 }.dropKey
  return s.take .key

/-- A `:`. If a simple key may have started on this level it did, and its
tokens go in before it. -/
def fetchValue (s : Scan) : Except Stop Scan := do
  match s.keys.lookup s.depth with
  | some k =>
    let s := { s with keys := s.keys.filter (·.1 ≠ s.depth) }.insertAt k.place .key
    let s :=
      if s.depth = 0 then
        match s.indentTo k.column with
        | some s => s.insertAt k.place .blockMappingStart
        | none => s
      else s
    return { s with keyAllowed := false }.take .value
  | none =>
    let s ← s.beginBlock .blockMappingStart
    let s ← { s with keyAllowed := s.depth = 0 }.dropKey
    return s.take .value

/-- A token that may begin a simple key, read by `read`. -/
def fetchNodePart (s : Scan) (read : Cursor → Except Stop (Token × Cursor)) :
    Except Stop Scan := do
  let s ← s.saveKey
  let (t, c) ← read s.cursor
  return { s with keyAllowed := false, cursor := c }.push t

def fetchBlockScalar (s : Scan) (folded : Bool) : Except Stop Scan := do
  let s ← { s with keyAllowed := true }.dropKey
  let (text, c) ← blockScalar folded s.indent s.cursor
  return { s with cursor := c }.push (.scalar text false)

def fetchPlain (s : Scan) : Except Stop Scan := do
  let s ← s.saveKey
  let r := plainScalar (0 < s.depth) s.indent s.cursor
  return { s with keyAllowed := r.lineEnded, cursor := r.cursor }.push
    (.scalar (r.text.map Char.toNat) true)

/-- A character that never begins a plain scalar by itself. -/
def isIndicator (c : Char) : Bool :=
  "-?:,[]\x7b\x7d#&*!|>'\"%@\x60".contains c

/-- A plain scalar begins here. -/
def startsPlain (s : Scan) (x : Char) : Bool :=
  let next := s.cursor.peekAt 1
  (!isGap (some x) && !isIndicator x)
    || (!isGap next && (x = '-' || (s.depth = 0 && (x = '?' || x = ':'))))

/-- The token that begins with the character `x`, which is next. -/
def fetchAt (s : Scan) (x : Char) : Except Stop Scan :=
  let gapFollows := isGap (s.cursor.peekAt 1)
  let inFlow : Bool := 0 < s.depth
  let lineStart : Bool := s.cursor.column = 0
  if x = '%' ∧ lineStart then s.fetchDirective
  else if lineStart ∧ s.cursor.hasMarker '-' then s.fetchDocumentMarker .documentStart
  else if lineStart ∧ s.cursor.hasMarker '.' then s.fetchDocumentMarker .documentEnd
  else if x = '[' then s.fetchFlowStart .flowSequenceStart
  else if x = '\x7b' then s.fetchFlowStart .flowMappingStart
  else if x = ']' then s.fetchFlowEnd .flowSequenceEnd
  else if x = '\x7d' then s.fetchFlowEnd .flowMappingEnd
  else if x = ',' then s.fetchFlowEntry
  else if x = '-' ∧ gapFollows then s.fetchBlockEntry
  else if x = '?' ∧ (inFlow ∨ gapFollows) then s.fetchKey
  else if x = ':' ∧ (inFlow ∨ gapFollows) then s.fetchValue
  else if x = '*' then
    s.fetchNodePart fun c => (anchorName c).map fun (n, c) => (.alias n, c)
  else if x = '&' then
    s.fetchNodePart fun c => (anchorName c).map fun (n, c) => (.anchor n, c)
  else if x = '!' then
    s.fetchNodePart fun c => (tagSpelling c).map fun (t, c) => (.tag t, c)
  else if x = '|' ∧ !inFlow then s.fetchBlockScalar false
  else if x = '>' ∧ !inFlow then s.fetchBlockScalar true
  else if x = '\'' then
    s.fetchNodePart fun c => (quotedScalar false c).map fun (t, c) => (.scalar t false, c)
  else if x = '"' then
    s.fetchNodePart fun c => (quotedScalar true c).map fun (t, c) => (.scalar t false, c)
  else if s.startsPlain x then s.fetchPlain
  else .error .malformed

/-- The state after the next token. -/
def next (s : Scan) : Except Stop Scan := do
  let s := toNextToken s.cursor.rounds s
  if let some stop := s.cursor.cutOff? then throw stop
  let s ← s.dropStaleKeys
  let s := s.unwind s.cursor.column
  match s.cursor.peek with
  | none => s.fetchEnd
  | some x => s.fetchAt x

/-- All states up to the end of the text or the first error; every round uses
up at least one character. -/
def finish : (rounds : Nat) → Scan → Scan × Option Stop
  | 0, s => (s, some .malformed)
  | rounds + 1, s =>
    match s.next with
    | .error stop => (s, some stop)
    | .ok s' =>
      match s'.cursor.cutOff? with
      | some stop => (s, some stop)
      | none => if s'.finished then (s', none) else finish rounds s'

/-- How many tokens are known to come next, whatever follows: those before the
first one that may still become a simple key. -/
def ready (s : Scan) : Nat :=
  (s.keys.filter fun k => !s.isStale k.2).foldl (fun n k => min n k.2.place) s.count

end Scan

/-- The tokens of a text that are known, and why there are no more if the text
does not end there. -/
structure TokenStream where
  tokens : List Token
  stop : Option Stop

/-- A text taken apart; a byte order mark at its start is passed over. -/
def tokens (source : Source) : TokenStream :=
  let s := Scan.start source
  let s := if s.cursor.peek = some '\ufeff' then { s with cursor := s.cursor.next } else s
  match s.finish (source.text.length + 2) with
  | (s, none) => ⟨s.tokens.reverse, none⟩
  | (s, some stop) => ⟨s.tokens.reverse.take s.ready, some stop⟩

end Workspace.Yaml
