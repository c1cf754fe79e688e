/-
Workspace.Yaml.Document — the value of a YAML text.

Before a mapping is read, the mappings under its `<<` keys are merged into
it (`Graph.flatten`); its own entries come last and therefore win. Nodes are
checked one by one from the root, in the order in which they are met, each
collection after everything that was met before it (`Reading.finish`).
What has been checked is then taken off as a `Value`, down to a given depth:
an alias inside its own node has no bottom. A set has its members in the order
of the text, of equal ones the first; where sets have no order, any other may
come out.

`read` is the whole way from the text to the value.
-/
import Workspace.Yaml.Node
import Workspace.Yaml.Scalar

namespace Workspace.Yaml

/-! ## Merging -/

namespace Graph

def entriesAt (g : Graph) (place : Nat) : Option (List (Nat × Nat)) :=
  match g[place]? with
  | some ⟨_, .mapping entries⟩ => some entries
  | _ => none

def tagAt (g : Graph) (place : Nat) : Tag :=
  match g[place]? with
  | some node => node.tag
  | none => .other

def setEntries (g : Graph) (place : Nat) (entries : List (Nat × Nat)) : Graph :=
  match g[place]? with
  | some node => g.setIfInBounds place { node with content := .mapping entries }
  | none => g

/-- A key `=` is a text like any other once its mapping is read as one. -/
def valueKeyToText (g : Graph) (key : Nat) : Graph :=
  match g[key]? with
  | some ⟨.value, content⟩ => g.setIfInBounds key ⟨.str, content⟩
  | _ => g

/-- The value of the first `<<` among the entries, and the other entries. -/
def takeMerge (g : Graph) : List (Nat × Nat) → Option (Nat × List (Nat × Nat))
  | [] => none
  | (key, value) :: rest =>
    if g.tagAt key = .merge then some (value, rest)
    else (takeMerge g rest).map fun (v, others) => (v, (key, value) :: others)

/-- Merges into the mapping at a place; `merged` are the entries that its
earlier `<<` keys brought. Every nested call has taken one `<<` out of the
graph, so that `rounds` can be their number; `depth` is how many mappings may
be merged one into the next. -/
def flatten : (rounds depth : Nat) → (merged : List (Nat × Nat)) → (place : Nat) → Graph →
    Except Stop Graph
  | 0, _, _, _, _ => .error (.content .tooDeep)
  | _, 0, _, _, _ => .error (.content .tooDeep)
  | rounds + 1, depth + 1, merged, place, g =>
    match g.entriesAt place with
    | none => .error .malformed
    | some entries =>
      match g.takeMerge entries with
      | none =>
        .ok ((entries.foldl (fun g e => g.valueKeyToText e.1) g).setEntries place
          (merged ++ entries))
      | some (source, others) => do
        let g := g.setEntries place others
        let sources :=
          match g[source]? with
          | some ⟨_, .sequence items⟩ => items
          | _ => [source]
        let g ← sources.foldlM (fun g s => flatten rounds depth [] s g) g
        let brought := sources.reverse.flatMap fun s => (g.entriesAt s).getD []
        flatten rounds (depth + 1) (merged ++ brought) place g

/-- How many mappings may be merged one into the next. Like the limit on nesting
this is what the call stack of a process has room for. -/
def mergeDepth : Nat := 980

/-- The number of entries of all mappings. -/
def entryCount (g : Graph) : Nat :=
  (g.toList.map fun node =>
    match node.content with
    | .mapping entries => entries.length
    | _ => 0).foldr (· + ·) 0

end Graph

/-! ## Scalars -/

/-- The text that a node stands for where a scalar is wanted: a mapping
stands for what its `=` key holds. -/
def Graph.scalarText (g : Graph) : (rounds : Nat) → (place : Nat) → Except Stop (List Nat)
  | 0, _ => .error (.content .tooDeep)
  | rounds + 1, place =>
    match g[place]? with
    | some ⟨_, .scalar text⟩ => .ok text
    | some ⟨_, .mapping entries⟩ =>
      match entries.find? fun e => g.tagAt e.1 = .value with
      | some e => scalarText g rounds e.2
      | none => .error .malformed
    | _ => .error .malformed

/-- The value of a node with the tag of a scalar. -/
def Graph.scalarValue (g : Graph) (place : Nat) (tag : Tag) : Except Stop Value := do
  let text ← g.scalarText (g.size + 1) place
  match tag, g.entriesAt place with
  | .timestamp, some _ => throw (.content .timestampOfMapping)
  | _, _ => tag.read text

/-! ## Checking the nodes -/

/-- What a checked node is; parts are given by their places. -/
inductive Item where
  | scalar (v : Value)
  | sequence (items : List Nat)
  | pairs (entries : List (Nat × Nat))
  | mapping (entries : List (Value × Nat))
  | set (members : List Value)

/-- The state between two nodes. -/
structure Reading where
  graph : Graph
  /-- A number that is larger than that of the `<<` keys in the graph. -/
  mergeLimit : Nat
  /-- The nodes that were met; a collection that waits has no parts yet. -/
  items : Array (Option Item)
  /-- Collections whose parts have not been looked at, first met first. -/
  waiting : List Nat
  /-- The collections that wait behind those, latest met first. -/
  late : List Nat

namespace Reading

def item? (r : Reading) (place : Nat) : Option Item :=
  (r.items[place]?).join

def setItem (r : Reading) (place : Nat) (item : Item) : Reading :=
  { r with items := r.items.setIfInBounds place (some item) }

def wait (r : Reading) (place : Nat) (item : Item) : Reading :=
  { r.setItem place item with late := place :: r.late }

/-- Meets a node: a scalar is read, a collection has to wait. -/
def meetNode (place : Nat) (r : Reading) : Except Stop Reading :=
  match r.item? place with
  | some _ => .ok r
  | none =>
    match r.graph.tagAt place with
    | .seq => .ok (r.wait place (.sequence []))
    | .omap | .pairs => .ok (r.wait place (.pairs []))
    | .map => .ok (r.wait place (.mapping []))
    | .set => .ok (r.wait place (.set []))
    | .merge | .value | .other => .error .malformed
    | tag => (r.graph.scalarValue place tag).map fun v => r.setItem place (.scalar v)

/-- Meets the keys and values of a mapping; keys are scalars. -/
def meetEntries : List (Nat × Nat) → Reading → Except Stop (List (Value × Nat) × Reading)
  | [], r => .ok ([], r)
  | (key, value) :: rest, r => do
    let r ← r.meetNode key
    match r.item? key with
    | some (.scalar k) =>
      let r ← r.meetNode value
      let (others, r) ← meetEntries rest r
      return ((k, value) :: others, r)
    | _ => throw .malformed

/-- The entries of the mapping at a place, merged and met. -/
def mappingAt (place : Nat) (r : Reading) : Except Stop (List (Value × Nat) × Reading) := do
  let graph ← Graph.flatten r.mergeLimit Graph.mergeDepth [] place r.graph
  match graph.entriesAt place with
  | some entries => meetEntries entries { r with graph }
  | none => throw .malformed

/-- Meets the parts of a list of pairs: mappings with one entry each. -/
def meetPairs : List Nat → Reading → Except Stop (List (Nat × Nat) × Reading)
  | [], r => .ok ([], r)
  | n :: rest, r =>
    match r.graph.entriesAt n with
    | some [(key, value)] => do
      let r ← r.meetNode key
      let r ← r.meetNode value
      let (others, r) ← meetPairs rest r
      return ((key, value) :: others, r)
    | _ => .error .malformed

/-- Looks at the parts of a collection that has waited. -/
def openNode (place : Nat) (r : Reading) : Except Stop Reading := do
  match r.graph[place]? with
  | some ⟨.seq, .sequence parts⟩ =>
    let r ← parts.foldlM (fun r part => r.meetNode part) r
    return r.setItem place (.sequence parts)
  | some ⟨.omap, .sequence parts⟩ | some ⟨.pairs, .sequence parts⟩ =>
    let (entries, r) ← meetPairs parts r
    return r.setItem place (.pairs entries)
  | some ⟨.map, .mapping _⟩ =>
    let (entries, r) ← mappingAt place r
    return r.setItem place (.mapping entries)
  | some ⟨.set, .mapping _⟩ =>
    let (entries, r) ← mappingAt place r
    return r.setItem place (.set (Value.distinct (entries.map (·.1))))
  | _ => throw .malformed

/-- Looks at all collections that wait; each node waits at most once. -/
def finish : (rounds : Nat) → Reading → Except Stop Reading
  | 0, r => .ok r
  | rounds + 1, r =>
    match r.waiting with
    | place :: rest => do finish rounds (← openNode place { r with waiting := rest })
    | [] =>
      match r.late.reverse with
      | place :: rest => do
        finish rounds (← openNode place { r with waiting := rest, late := [] })
      | [] => .ok r

/-- The value of a checked node. Below `depth` levels of collections the
parts are left out. -/
def value (r : Reading) : (depth : Nat) → (place : Nat) → Value
  | 0, place =>
    match r.item? place with
    | some (.scalar v) => v
    | some (.mapping _) => .map []
    | some (.set _) => .set []
    | _ => .list []
  | depth + 1, place =>
    match r.item? place with
    | some (.scalar v) => v
    | some (.sequence parts) => .list (parts.map fun n => r.value depth n)
    | some (.pairs entries) =>
      .list (entries.map fun e => .list [r.value depth e.1, r.value depth e.2])
    | some (.mapping entries) =>
      .mapping (entries.map fun e => (e.1, r.value depth e.2))
    | some (.set members) => .set members
    | none => .null

end Reading

/-- The graph checked from its root on. -/
def Graph.checked (g : Graph) (root : Nat) : Except Stop Reading := do
  let r ← Reading.meetNode root ⟨g, 2 * g.entryCount + 2, Array.replicate g.size none, [], []⟩
  r.finish (g.size + 1)

/-! ## Texts -/

/-- The value of a text down to a depth; a text without a document is null. -/
def read (depth : Nat) (source : Source) : Except Stop Value := do
  let (g, root?) ← Graph.ofTokens? (tokens source)
  match root? with
  | none => return .null
  | some root => return (← g.checked root).value depth root

end Workspace.Yaml
