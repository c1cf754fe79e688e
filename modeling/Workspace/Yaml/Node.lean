/-
Workspace.Yaml.Node — the nodes that a text describes, as a graph.

An alias stands for the very node that was anchored, not for a copy of it,
and it may stand inside that node. So a document is a graph: nodes lie in an
array, and collections refer to their parts by place. `Graph.ofTokens?`
builds the graph of a text that holds a single document.
-/
import Workspace.Yaml.Tag
import Workspace.Yaml.Token.Stream

namespace Workspace.Yaml

/-- The content of a node; parts are given by their places in the graph. -/
inductive Content where
  | scalar (text : List Nat)
  | sequence (items : List Nat)
  | mapping (entries : List (Nat × Nat))
  deriving DecidableEq, Repr

structure Node where
  tag : Tag
  content : Content
  deriving DecidableEq, Repr

abbrev Graph := Array Node

/-- The state of building a graph from tokens. -/
structure Builder where
  tokens : List Token
  /-- Why the text cannot be read beyond these tokens, if it cannot. -/
  stop : Option Stop
  graph : Graph
  anchors : List (List Char × Nat)
  /-- What the tag handles of the document stand for. -/
  handles : List (List Char × List Char)

namespace Builder

/-- The next token; none at the end of the text. -/
def peek (b : Builder) : Except Stop (Option Token) :=
  match b.tokens, b.stop with
  | t :: _, _ => .ok (some t)
  | [], none => .ok none
  | [], some stop => .error stop

def drop (b : Builder) : Builder :=
  { b with tokens := b.tokens.tail }

/-- A further node. -/
def add (b : Builder) (node : Node) : Nat × Builder :=
  (b.graph.size, { b with graph := b.graph.push node })

def fill (b : Builder) (place : Nat) (node : Node) : Builder :=
  { b with graph := b.graph.setIfInBounds place node }

/-- The node that stands where nothing is written. -/
def addEmpty (b : Builder) : Nat × Builder :=
  b.add ⟨.null, .scalar []⟩

/-- What is written before a node: an anchor, and a tag with its handle
replaced. -/
structure Properties where
  anchor : Option (List Char)
  tag : Option (List Char)

/-- The text of a tag with its handle replaced. -/
def tagText (b : Builder) (t : TagSpelling) : Except Stop (List Char) :=
  match t.handle with
  | none => .ok t.suffix
  | some handle =>
    match b.handles.lookup handle with
    | some meaning => .ok (meaning ++ t.suffix)
    | none => .error .malformed

/-- An anchor and a tag, in either order. -/
def properties (b : Builder) : Except Stop (Properties × Builder) := do
  match ← b.peek with
  | some (.anchor name) =>
    let b := b.drop
    match ← b.peek with
    | some (.tag t) => return (⟨some name, some (← b.tagText t)⟩, b.drop)
    | _ => return (⟨some name, none⟩, b)
  | some (.tag t) =>
    let b := b.drop
    match ← b.peek with
    | some (.anchor name) => return (⟨some name, some (← b.tagText t)⟩, b.drop)
    | _ => return (⟨none, some (← b.tagText t)⟩, b)
  | _ => return (⟨none, none⟩, b)

/-- The tag of a node: the one that is written, or else the one that its form
gives. The tag `!` asks for the form. -/
def tagOr (t : Option (List Char)) (byForm : (bare : Bool) → Tag) : Tag :=
  match t with
  | none => byForm false
  | some text => if text = ['!'] then byForm true else Tag.ofText text

/-- Gives a node its anchor; an anchor is given once in a document. -/
def setAnchor (b : Builder) (anchor : Option (List Char)) (place : Nat) :
    Except Stop Builder :=
  match anchor with
  | none => .ok b
  | some name =>
    match b.anchors.lookup name with
    | some _ => .error .malformed
    | none => .ok { b with anchors := (name, place) :: b.anchors }

/-- A scalar with its properties. -/
def addScalar (b : Builder) (p : Properties) (text : List Nat) (plain : Bool) :
    Except Stop (Nat × Builder) := do
  let form := Tag.ofPlain (text.map Char.ofNat)
  let tag := tagOr p.tag fun bare => if plain || bare then form else .str
  let (place, b) := b.add ⟨tag, .scalar text⟩
  return (place, ← b.setAnchor p.anchor place)

/-- A collection whose parts are still to come. -/
def openCollection (b : Builder) (p : Properties) (usual : Tag) (content : Content) :
    Except Stop (Nat × Builder) := do
  let tag := tagOr p.tag fun _ => usual
  let (place, b) := b.add ⟨tag, content⟩
  return (place, ← b.setAnchor p.anchor place)

/-- The collection at a place gets its parts. -/
def close (b : Builder) (place : Nat) (content : Content) : Builder :=
  match b.graph[place]? with
  | some node => b.fill place { node with content }
  | none => b

/-- The kinds of place where a node may stand. -/
inductive Place where
  /-- Inside brackets. -/
  | flow
  /-- After the indicator of a block collection, or at the top. -/
  | block
  /-- In a block mapping, where a sequence need not be indented. -/
  | blockOrIndentless
  deriving DecidableEq

/-- A token that ends a key or value of a block mapping. -/
def endsBlockPart (t : Token) : Bool :=
  t = .key || t = .value || t = .blockEnd

/-- A token that ends an entry of a flow collection with this closing bracket. -/
def endsFlowPart (closing : Token) (t : Token) : Bool :=
  t = .flowEntry || t = closing

mutual

/-- The node that comes next. `rounds` bounds the number of nested calls and
`depth` the nesting of collections. -/
def node : (rounds depth : Nat) → Place → Builder → Except Stop (Nat × Builder)
  | 0, _, _, _ => .error (.content .tooDeep)
  | _, 0, _, _ => .error (.content .tooDeep)
  | rounds + 1, depth + 1, place, b => do
    match ← b.peek with
    | some (.alias name) =>
      match b.anchors.lookup name with
      | some n => return (n, b.drop)
      | none => throw .malformed
    | _ =>
    let (p, b) ← b.properties
    match ← b.peek with
    | some (.scalar text plain) => b.drop.addScalar p text (plain && p.tag.isNone)
    | some .flowSequenceStart =>
      let (n, b) ← b.drop.openCollection p .seq (.sequence [])
      let (items, b) ← flowSequence rounds depth true b
      return (n, b.close n (.sequence items))
    | some .flowMappingStart =>
      let (n, b) ← b.drop.openCollection p .map (.mapping [])
      let (entries, b) ← flowMapping rounds depth true b
      return (n, b.close n (.mapping entries))
    | next =>
      if next = some .entry ∧ place = .blockOrIndentless then
        let (n, b) ← b.openCollection p .seq (.sequence [])
        let (items, b) ← indentlessSequence rounds depth b
        return (n, b.close n (.sequence items))
      else if next = some .blockSequenceStart ∧ place ≠ .flow then
        let (n, b) ← b.drop.openCollection p .seq (.sequence [])
        let (items, b) ← blockSequence rounds depth b
        return (n, b.close n (.sequence items))
      else if next = some .blockMappingStart ∧ place ≠ .flow then
        let (n, b) ← b.drop.openCollection p .map (.mapping [])
        let (entries, b) ← blockMapping rounds depth b
        return (n, b.close n (.mapping entries))
      else if p.anchor.isSome ∨ p.tag.isSome then
        b.addScalar p [] p.tag.isNone
      else throw .malformed

/-- The next node, or an empty one if a token that ends this part is next. -/
def nodeOrEmpty : (rounds depth : Nat) → Place → (ends : Token → Bool) → Builder →
    Except Stop (Nat × Builder)
  | 0, _, _, _, _ => .error (.content .tooDeep)
  | rounds + 1, depth, place, ends, b => do
    match ← b.peek with
    | some t => if ends t then return b.addEmpty else node rounds depth place b
    | none => node rounds depth place b

/-- The entries of a block sequence, up to its end. -/
def blockSequence : (rounds depth : Nat) → Builder → Except Stop (List Nat × Builder)
  | 0, _, _ => .error (.content .tooDeep)
  | rounds + 1, depth, b => do
    match ← b.peek with
    | some .entry =>
      let (n, b) ← nodeOrEmpty rounds depth .block (fun t => t = .entry || t = .blockEnd) b.drop
      let (rest, b) ← blockSequence rounds depth b
      return (n :: rest, b)
    | some .blockEnd => return ([], b.drop)
    | _ => throw .malformed

/-- The entries of a sequence at the indentation of the mapping it is in, up
to whatever else comes. -/
def indentlessSequence : (rounds depth : Nat) → Builder → Except Stop (List Nat × Builder)
  | 0, _, _ => .error (.content .tooDeep)
  | rounds + 1, depth, b => do
    match ← b.peek with
    | some .entry =>
      let (n, b) ← nodeOrEmpty rounds depth .block (fun t => t = .entry || endsBlockPart t) b.drop
      let (rest, b) ← indentlessSequence rounds depth b
      return (n :: rest, b)
    | _ => return ([], b)

/-- The entries of a block mapping, up to its end. -/
def blockMapping : (rounds depth : Nat) → Builder → Except Stop (List (Nat × Nat) × Builder)
  | 0, _, _ => .error (.content .tooDeep)
  | rounds + 1, depth, b => do
    match ← b.peek with
    | some .key =>
      let (k, b) ← nodeOrEmpty rounds depth .blockOrIndentless endsBlockPart b.drop
      let (v, b) ←
        match ← b.peek with
        | some .value => nodeOrEmpty rounds depth .blockOrIndentless endsBlockPart b.drop
        | _ => pure b.addEmpty
      let (rest, b) ← blockMapping rounds depth b
      return ((k, v) :: rest, b)
    | some .blockEnd => return ([], b.drop)
    | _ => throw .malformed

/-- The comma between entries; none before the first of them. -/
def separator (first : Bool) (b : Builder) : Except Stop Builder := do
  if first then return b
  match ← b.peek with
  | some .flowEntry => return b.drop
  | _ => throw .malformed

/-- The entries of a flow sequence, up to its bracket. An entry with a colon
is a mapping of its own. -/
def flowSequence : (rounds depth : Nat) → (first : Bool) → Builder →
    Except Stop (List Nat × Builder)
  | 0, _, _, _ => .error (.content .tooDeep)
  | rounds + 1, depth, first, b => do
    match ← b.peek with
    | some .flowSequenceEnd => return ([], b.drop)
    | _ =>
    let b ← separator first b
    match ← b.peek with
    | some .flowSequenceEnd => return ([], b.drop)
    | some .key =>
      let (n, b) ← b.drop.openCollection ⟨none, none⟩ .map (.mapping [])
      let (k, b) ← nodeOrEmpty rounds (depth - 1) .flow
        (fun t => t = .value || endsFlowPart .flowSequenceEnd t) b
      let (v, b) ←
        match ← b.peek with
        | some .value =>
          nodeOrEmpty rounds (depth - 1) .flow (endsFlowPart .flowSequenceEnd) b.drop
        | _ => pure b.addEmpty
      let (rest, b) ← flowSequence rounds depth false (b.close n (.mapping [(k, v)]))
      return (n :: rest, b)
    | _ =>
      let (n, b) ← node rounds depth .flow b
      let (rest, b) ← flowSequence rounds depth false b
      return (n :: rest, b)

/-- The entries of a flow mapping, up to its brace. -/
def flowMapping : (rounds depth : Nat) → (first : Bool) → Builder →
    Except Stop (List (Nat × Nat) × Builder)
  | 0, _, _, _ => .error (.content .tooDeep)
  | rounds + 1, depth, first, b => do
    match ← b.peek with
    | some .flowMappingEnd => return ([], b.drop)
    | _ =>
    let b ← separator first b
    match ← b.peek with
    | some .flowMappingEnd => return ([], b.drop)
    | some .key =>
      let (k, b) ← nodeOrEmpty rounds depth .flow
        (fun t => t = .value || endsFlowPart .flowMappingEnd t) b.drop
      let (v, b) ←
        match ← b.peek with
        | some .value => nodeOrEmpty rounds depth .flow (endsFlowPart .flowMappingEnd) b.drop
        | _ => pure b.addEmpty
      let (rest, b) ← flowMapping rounds depth false b
      return ((k, v) :: rest, b)
    | _ =>
      let (k, b) ← node rounds depth .flow b
      let (v, b) := b.addEmpty
      let (rest, b) ← flowMapping rounds depth false b
      return ((k, v) :: rest, b)

end

/-- The handles that every document knows. -/
def usualHandles : List (List Char × List Char) :=
  [(['!'], ['!']), (['!', '!'], tagBase)]

/-- The directives before a document: at most one version, which has to be 1,
and handles that differ from each other. -/
def directives : (rounds : Nat) → (versionSeen : Bool) → Builder → Except Stop Builder
  | 0, _, _ => .error .malformed
  | rounds + 1, versionSeen, b => do
    match ← b.peek with
    | some (.directive (.version major)) =>
      if versionSeen ∨ major ≠ 1 then throw .malformed
      directives rounds true b.drop
    | some (.directive (.handle handle meaning)) =>
      if (b.handles.lookup handle).isSome then throw .malformed
      directives rounds versionSeen { b.drop with handles := (handle, meaning) :: b.handles }
    | some (.directive .other) => directives rounds versionSeen b.drop
    | _ => return { b with handles := b.handles ++ usualHandles }

def skipDocumentEnds (b : Builder) : Builder :=
  { b with tokens := b.tokens.dropWhile (· = .documentEnd) }

/-- How deep collections may be nested. The grammar knows no such limit: this is
what the call stack has room for in a process that reads a file at once, and
less where the caller is deep down already. -/
def nestingLimit : Nat := 488

/-- The document that comes next; none at the end of the text. -/
def document (b : Builder) : Except Stop (Option Nat × Builder) := do
  let rounds := 4 * b.tokens.length + 16
  let content (b : Builder) : Except Stop (Option Nat × Builder) := do
    let (n, b) ← node rounds nestingLimit .block b
    return (some n, b)
  match ← b.peek with
  | none => return (none, b)
  | some .documentStart | some (.directive _) =>
    let b ← directives rounds false b
    match ← b.peek with
    | some .documentStart =>
      let b := b.drop
      match ← b.peek with
      | none | some .documentStart | some .documentEnd | some (.directive _) =>
        let (n, b) := b.addEmpty
        return (some n, b)
      | _ => content b
    | _ => throw .malformed
  | _ => content { b with handles := usualHandles }

end Builder

/-- The graph of a text and the place of its only document; no place for a
text without documents. -/
def Graph.ofTokens? (stream : TokenStream) : Except Stop (Graph × Option Nat) := do
  let (root, b) ← Builder.document ⟨stream.tokens, stream.stop, #[], [], []⟩
  let b := b.skipDocumentEnds
  match ← b.peek with
  | none => return (b.graph, root)
  | some _ =>
    -- the head of a second document is read before it is refused
    let b ← Builder.directives (b.tokens.length + 1) false { b with handles := [] }
    let _ ← b.peek
    throw .malformed

end Workspace.Yaml
