/-
Workspace.Proofs.YamlFault — which faults reading a YAML text can end with.

What the scanner stops with is known (`isDue_of_tokens`). Behind it, a graph of
nodes is built from the tokens, whose end is met only when no token is left, and
the nodes are checked. That adds what is wrong with scalars under their tags,
and with a depth of nesting or merging that no process has room for.

So a YAML text that is not cut off can have wrong what `IsUnconstructible`
lists, and nothing else; one that is cut off may have wrong, besides, what it is
cut off with (`isDue_of_read`).
-/
import Workspace.Proofs.YamlStop

namespace Workspace.Yaml

/-! ## Scalars -/

/-- The outcome of reading a scalar under its tag. -/
def Constructs {α : Type} : Except ContentFault α → Prop
  | .ok _ => True
  | .error fault => IsUnconstructible fault

section

variable {α β : Type}

theorem Constructs.bind {x : Except ContentFault α} {f : α → Except ContentFault β}
    (hx : Constructs x) (hf : ∀ a, Constructs (f a)) : Constructs (x >>= f) := by
  cases x with
  | ok a => exact hf a
  | error fault => exact hx

theorem Constructs.map {x : Except ContentFault α} {f : α → β} (hx : Constructs x) :
    Constructs (f <$> x) := by
  cases x with
  | ok a => trivial
  | error fault => exact hx

theorem Constructs.mapM {f : α → Except ContentFault β} (hf : ∀ a, Constructs (f a)) :
    ∀ xs : List α, Constructs (xs.mapM f)
  | [] => trivial
  | x :: xs => by
    rw [List.mapM_cons]
    exact (hf x).bind fun _ => (Constructs.mapM hf xs).bind fun _ => trivial

/-- A scalar that is read under its tag is a value, or the fault is due. -/
theorem Constructs.reads {x : Except ContentFault Value} {cut : Option Stop} (hx : Constructs x) :
    Reads cut (fun _ => True) (x.mapError Stop.content) := by
  cases x with
  | ok v => trivial
  | error fault => exact hx.isDue

end

theorem constructs_signed (codes : List Nat) : Constructs (signed codes) := by
  unfold signed
  split
  · exact .emptyNumber
  all_goals trivial

theorem constructs_integerIn {base : Nat} (hbase : base ∈ [2, 8, 10, 16]) (codes : List Nat) :
    Constructs (integerIn base codes) := by
  unfold integerIn
  simp only
  split
  · next hlong => exact .longInteger hlong.2
  · split
    · exact .notInteger hbase
    · trivial

theorem constructs_readInt (codes : List Nat) : Constructs (readInt codes) := by
  have hten : ∀ codes, Constructs (integerIn 10 codes) := constructs_integerIn (by decide)
  refine (constructs_signed _).bind fun ⟨negative, codes⟩ => ?_
  simp only
  split
  · exact IsUnconstructible.emptyNumber
  · trivial
  · exact (constructs_integerIn (by decide) _).bind fun _ => trivial
  · exact (constructs_integerIn (by decide) _).bind fun _ => trivial
  · exact (constructs_integerIn (by decide) _).bind fun _ => trivial
  · split
    · exact (Constructs.mapM hten _).map.bind fun _ => trivial
    · exact (hten _).bind fun _ => trivial

theorem constructs_numberOf (codes : List Nat) : Constructs (numberOf codes) := by
  unfold numberOf
  split
  · trivial
  · exact .notNumber

theorem constructs_floatSixties (unit : Nat) (sum : Float) (groups : List Float) :
    Constructs (floatSixties unit sum groups) := by
  induction groups generalizing unit sum with
  | nil => trivial
  | cons g groups ih =>
    unfold floatSixties
    split
    · exact ih _ _
    · exact .numberTooLarge

theorem constructs_readFloat (codes : List Nat) : Constructs (readFloat codes) := by
  refine (constructs_signed _).bind fun ⟨negative, codes⟩ => ?_
  simp only
  split
  · trivial
  · -- whatever the sign, which comes last
    split
    · split <;> trivial
    · split
      · split
        all_goals
          refine (Constructs.mapM constructs_numberOf _).bind fun groups => ?_
          exact (constructs_floatSixties _ _ _).bind fun _ => trivial
      · split <;> exact (constructs_numberOf _).bind fun _ => trivial

theorem constructs_readBool (codes : List Nat) : Constructs (readBool codes) := by
  unfold readBool
  simp only
  split
  · trivial
  · exact .notBoolean

theorem constructs_readTimestamp (codes : List Nat) : Constructs (readTimestamp codes) := by
  unfold readTimestamp
  split
  · exact .notTimestamp
  · next t _ =>
    cases t.toValue with
    | ok v => trivial
    | error e => exact .notCalendar

theorem reads_readBinary {cut : Option Stop} (codes : List Nat) :
    Reads cut (fun _ => True) (readBinary codes) := by
  unfold readBinary
  repeat' split
  all_goals trivial

theorem reads_tagRead {cut : Option Stop} (tag : Tag) (codes : List Nat) :
    Reads cut (fun _ => True) (tag.read codes) := by
  unfold Tag.read
  split
  · trivial
  · exact (constructs_readBool codes).map.reads
  · exact (constructs_readInt codes).map.reads
  · exact (constructs_readFloat codes).map.reads
  · exact (reads_readBinary codes).map fun _ _ => trivial
  · exact (constructs_readTimestamp codes).reads
  · trivial
  · trivial

/-! ## Nodes -/

namespace Builder

variable {b : Builder} {cut : Option Stop}

/-- The text of the tokens is cut off with something that is due. -/
def StopsDuly (cut : Option Stop) (b : Builder) : Prop :=
  ∀ stop, b.stop = some stop → stop.IsDue cut

theorem reads_peek (hb : b.StopsDuly cut) : Reads cut (fun _ => True) b.peek := by
  unfold peek
  split
  · trivial
  · trivial
  · next hstop => exact hb _ hstop

theorem StopsDuly.drop (hb : b.StopsDuly cut) : b.drop.StopsDuly cut := hb

theorem StopsDuly.addEmpty (hb : b.StopsDuly cut) : b.addEmpty.2.StopsDuly cut := hb

theorem StopsDuly.close (hb : b.StopsDuly cut) (place : Nat) (content : Content) :
    (b.close place content).StopsDuly cut := by
  unfold Builder.close
  split
  · exact hb
  · exact hb

theorem reads_tagText (t : TagSpelling) : Reads cut (fun _ => True) (b.tagText t) := by
  unfold tagText
  repeat' split
  all_goals trivial

theorem reads_properties (hb : b.StopsDuly cut) :
    Reads cut (·.2.StopsDuly cut) b.properties := by
  refine (reads_peek hb).bind fun next _ => ?_
  split
  · refine (reads_peek hb.drop).bind fun next _ => ?_
    split
    · exact (reads_tagText _).bind fun _ _ => hb
    · exact hb
  · refine (reads_peek hb.drop).bind fun next _ => ?_
    split
    · exact (reads_tagText _).bind fun _ _ => hb
    · exact (reads_tagText _).bind fun _ _ => hb
  · exact hb

theorem reads_setAnchor {anchor : Option (List Char)} {place : Nat} (hb : b.StopsDuly cut) :
    Reads cut (StopsDuly cut) (b.setAnchor anchor place) := by
  unfold setAnchor
  repeat' split
  · exact hb
  · trivial
  · exact hb

theorem reads_addScalar {p : Properties} {text : List Nat} {plain : Bool} (hb : b.StopsDuly cut) :
    Reads cut (·.2.StopsDuly cut) (b.addScalar p text plain) :=
  Reads.bind (reads_setAnchor (by exact hb)) fun _ h => h

theorem reads_openCollection {p : Properties} {usual : Tag} {content : Content}
    (hb : b.StopsDuly cut) :
    Reads cut (·.2.StopsDuly cut) (b.openCollection p usual content) :=
  Reads.bind (reads_setAnchor (by exact hb)) fun _ h => h

theorem reads_separator {first : Bool} (hb : b.StopsDuly cut) :
    Reads cut (StopsDuly cut) (separator first b) := by
  unfold separator
  split
  · exact hb
  · refine (reads_peek hb).bind fun next _ => ?_
    split
    · exact hb
    · trivial

/-- A collection is opened, its parts are read, and it is closed. -/
theorem reads_collection {α : Type} {opened : Except Stop (Nat × Builder)}
    {parts : Builder → Except Stop (α × Builder)} {content : α → Content}
    (hopened : Reads cut (·.2.StopsDuly cut) opened)
    (hparts : ∀ b, StopsDuly cut b → Reads cut (·.2.StopsDuly cut) (parts b)) :
    Reads cut (·.2.StopsDuly cut) (do
      let (n, b) ← opened
      let (items, b) ← parts b
      return (n, b.close n (content items))) :=
  hopened.bind fun _ hb => (hparts _ hb).bind fun _ hb => hb.close _ _

/-- With this many nested calls the readers of nodes stop as is due. -/
structure NodesRead (cut : Option Stop) (rounds : Nat) : Prop where
  node : ∀ {depth place b}, StopsDuly cut b →
    Reads cut (·.2.StopsDuly cut) (node rounds depth place b)
  nodeOrEmpty : ∀ {depth place ends b}, StopsDuly cut b →
    Reads cut (·.2.StopsDuly cut) (nodeOrEmpty rounds depth place ends b)
  blockSequence : ∀ {depth b}, StopsDuly cut b →
    Reads cut (·.2.StopsDuly cut) (blockSequence rounds depth b)
  indentlessSequence : ∀ {depth b}, StopsDuly cut b →
    Reads cut (·.2.StopsDuly cut) (indentlessSequence rounds depth b)
  blockMapping : ∀ {depth b}, StopsDuly cut b →
    Reads cut (·.2.StopsDuly cut) (blockMapping rounds depth b)
  flowSequence : ∀ {depth first b}, StopsDuly cut b →
    Reads cut (·.2.StopsDuly cut) (flowSequence rounds depth first b)
  flowMapping : ∀ {depth first b}, StopsDuly cut b →
    Reads cut (·.2.StopsDuly cut) (flowMapping rounds depth first b)

namespace NodesRead

variable {n depth : Nat} (ih : NodesRead cut n)

include ih

theorem succ_node {place : Place} (hb : b.StopsDuly cut) :
    Reads cut (·.2.StopsDuly cut) (Builder.node (n + 1) depth place b) := by
  cases depth with
  | zero =>
    unfold Builder.node
    exact isDue_tooDeep
  | succ depth =>
    unfold Builder.node
    refine (reads_peek hb).bind fun next _ => ?_
    split
    · split
      · exact hb
      · trivial
    · refine (reads_properties hb).bind ?_
      rintro ⟨p, b⟩ hb
      refine (reads_peek hb).bind fun next _ => ?_
      split
      · exact reads_addScalar hb
      · exact reads_collection (reads_openCollection hb) fun _ => ih.flowSequence
      · exact reads_collection (reads_openCollection hb) fun _ => ih.flowMapping
      · refine .ite (reads_collection (reads_openCollection hb) fun _ => ih.indentlessSequence) ?_
        refine .ite (reads_collection (reads_openCollection hb) fun _ => ih.blockSequence) ?_
        refine .ite (reads_collection (reads_openCollection hb) fun _ => ih.blockMapping) ?_
        exact .ite (reads_addScalar hb) trivial

theorem succ_nodeOrEmpty {place : Place} {ends : Token → Bool} (hb : b.StopsDuly cut) :
    Reads cut (·.2.StopsDuly cut) (Builder.nodeOrEmpty (n + 1) depth place ends b) := by
  unfold Builder.nodeOrEmpty
  refine (reads_peek hb).bind fun next _ => ?_
  split
  · exact .ite hb.addEmpty (ih.node hb)
  · exact ih.node hb

theorem succ_blockSequence (hb : b.StopsDuly cut) :
    Reads cut (·.2.StopsDuly cut) (Builder.blockSequence (n + 1) depth b) := by
  unfold Builder.blockSequence
  refine (reads_peek hb).bind fun next _ => ?_
  split
  · refine (ih.nodeOrEmpty hb.drop).bind fun _ hb => ?_
    exact (ih.blockSequence hb).bind fun _ hb => hb
  · exact hb.drop
  · trivial

theorem succ_indentlessSequence (hb : b.StopsDuly cut) :
    Reads cut (·.2.StopsDuly cut) (Builder.indentlessSequence (n + 1) depth b) := by
  unfold Builder.indentlessSequence
  refine (reads_peek hb).bind fun next _ => ?_
  split
  · refine (ih.nodeOrEmpty hb.drop).bind fun _ hb => ?_
    exact (ih.indentlessSequence hb).bind fun _ hb => hb
  · exact hb

theorem succ_blockMapping (hb : b.StopsDuly cut) :
    Reads cut (·.2.StopsDuly cut) (Builder.blockMapping (n + 1) depth b) := by
  unfold Builder.blockMapping
  refine (reads_peek hb).bind fun next _ => ?_
  split
  · refine (ih.nodeOrEmpty hb.drop).bind ?_
    rintro ⟨k, b⟩ hb
    refine (reads_peek hb).bind fun next _ => ?_
    split
    · refine (ih.nodeOrEmpty hb.drop).bind fun _ hb => ?_
      exact (ih.blockMapping hb).bind fun _ hb => hb
    · exact (ih.blockMapping hb.addEmpty).bind fun _ hb => hb
  · exact hb.drop
  · trivial

theorem succ_flowSequence {first : Bool} (hb : b.StopsDuly cut) :
    Reads cut (·.2.StopsDuly cut) (Builder.flowSequence (n + 1) depth first b) := by
  unfold Builder.flowSequence
  refine (reads_peek hb).bind fun next _ => ?_
  split
  · exact hb.drop
  · refine (reads_separator hb).bind fun b hb => ?_
    refine (reads_peek hb).bind fun next _ => ?_
    split
    · exact hb.drop
    · -- a mapping of one entry
      refine (reads_openCollection hb.drop).bind ?_
      rintro ⟨m, b⟩ hb
      refine (ih.nodeOrEmpty hb).bind ?_
      rintro ⟨k, b⟩ hb
      refine (reads_peek hb).bind fun next _ => ?_
      split
      · refine (ih.nodeOrEmpty hb.drop).bind fun _ hb => ?_
        exact (ih.flowSequence (hb.close _ _)).bind fun _ hb => hb
      · exact (ih.flowSequence (hb.addEmpty.close _ _)).bind fun _ hb => hb
    · refine (ih.node hb).bind fun _ hb => ?_
      exact (ih.flowSequence hb).bind fun _ hb => hb

theorem succ_flowMapping {first : Bool} (hb : b.StopsDuly cut) :
    Reads cut (·.2.StopsDuly cut) (Builder.flowMapping (n + 1) depth first b) := by
  unfold Builder.flowMapping
  refine (reads_peek hb).bind fun next _ => ?_
  split
  · exact hb.drop
  · refine (reads_separator hb).bind fun b hb => ?_
    refine (reads_peek hb).bind fun next _ => ?_
    split
    · exact hb.drop
    · refine (ih.nodeOrEmpty hb.drop).bind ?_
      rintro ⟨k, b⟩ hb
      refine (reads_peek hb).bind fun next _ => ?_
      split
      · refine (ih.nodeOrEmpty hb.drop).bind fun _ hb => ?_
        exact (ih.flowMapping hb).bind fun _ hb => hb
      · exact (ih.flowMapping hb.addEmpty).bind fun _ hb => hb
    · refine (ih.node hb).bind fun _ hb => ?_
      exact (ih.flowMapping hb.addEmpty).bind fun _ hb => hb

end NodesRead

theorem nodesRead (cut : Option Stop) (rounds : Nat) : NodesRead cut rounds := by
  induction rounds with
  | zero =>
    constructor
    · intro depth place b _
      unfold Builder.node
      exact isDue_tooDeep
    · intro depth place ends b _
      unfold Builder.nodeOrEmpty
      exact isDue_tooDeep
    · intro depth b _
      unfold Builder.blockSequence
      exact isDue_tooDeep
    · intro depth b _
      unfold Builder.indentlessSequence
      exact isDue_tooDeep
    · intro depth b _
      unfold Builder.blockMapping
      exact isDue_tooDeep
    · intro depth first b _
      unfold Builder.flowSequence
      exact isDue_tooDeep
    · intro depth first b _
      unfold Builder.flowMapping
      exact isDue_tooDeep
  | succ n ih =>
    exact ⟨ih.succ_node, ih.succ_nodeOrEmpty, ih.succ_blockSequence, ih.succ_indentlessSequence,
      ih.succ_blockMapping, ih.succ_flowSequence, ih.succ_flowMapping⟩

theorem reads_directives {rounds : Nat} {versionSeen : Bool} (hb : b.StopsDuly cut) :
    Reads cut (StopsDuly cut) (directives rounds versionSeen b) := by
  induction rounds generalizing versionSeen b with
  | zero => trivial
  | succ rounds ih =>
    unfold directives
    refine (reads_peek hb).bind fun next _ => ?_
    split
    · split
      · trivial
      · exact ih hb.drop
    · split
      · trivial
      · exact ih hb
    · exact ih hb.drop
    · exact hb

theorem reads_document (hb : b.StopsDuly cut) : Reads cut (·.2.StopsDuly cut) b.document := by
  unfold document
  extract_lets rounds content
  have hcontent : ∀ b, StopsDuly cut b → Reads cut (·.2.StopsDuly cut) (content b) :=
    fun b hb => ((nodesRead cut _).node hb).bind fun _ hb => hb
  clear_value content
  refine (reads_peek hb).bind fun next _ => ?_
  split
  case h_1 => exact hb
  case h_4 => exact hcontent _ hb
  -- a marker and a directive begin a document alike
  all_goals
    refine (reads_directives hb).bind fun b hb => ?_
    refine (reads_peek hb).bind fun next _ => ?_
    split
    · refine (reads_peek hb.drop).bind fun next _ => ?_
      split
      all_goals first | exact hb | exact hcontent _ hb
    · trivial

end Builder

theorem reads_ofTokens? {stream : TokenStream} {cut : Option Stop}
    (h : ∀ stop, stream.stop = some stop → stop.IsDue cut) :
    Reads cut (fun _ => True) (Graph.ofTokens? stream) := by
  have hstream : Builder.StopsDuly cut ⟨stream.tokens, stream.stop, #[], [], []⟩ := h
  unfold Graph.ofTokens?
  refine (Builder.reads_document hstream).bind ?_
  rintro ⟨root, b⟩ hb
  refine Reads.bind (Builder.reads_peek (by exact hb)) fun next _ => ?_
  split
  · trivial
  · refine Reads.bind (Builder.reads_directives (by exact hb)) fun b hb => ?_
    exact (Builder.reads_peek hb).bind fun _ _ => trivial

/-! ## Documents -/

theorem Reads.foldlM {α β : Type} {cut : Option Stop} {f : β → α → Except Stop β}
    (hf : ∀ b a, Reads cut (fun _ => True) (f b a)) :
    ∀ (as : List α) (b : β), Reads cut (fun _ => True) (as.foldlM f b)
  | [], _ => trivial
  | a :: as, b => by
    rw [List.foldlM_cons]
    exact (hf b a).bind fun _ _ => Reads.foldlM hf as _

section

variable {g : Graph} {cut : Option Stop}

theorem reads_flatten {rounds depth : Nat} {merged : List (Nat × Nat)} {place : Nat} :
    Reads cut (fun _ => True) (Graph.flatten rounds depth merged place g) := by
  induction rounds generalizing depth merged place g with
  | zero =>
    unfold Graph.flatten
    exact isDue_tooDeep
  | succ rounds ih =>
    cases depth with
    | zero =>
      unfold Graph.flatten
      exact isDue_tooDeep
    | succ depth =>
      unfold Graph.flatten
      split
      · trivial
      · split
        · trivial
        · refine Reads.bind (Reads.foldlM (fun _ _ => ih) _ _) fun _ _ => ?_
          exact ih

theorem reads_scalarText {rounds place : Nat} :
    Reads cut (fun _ => True) (g.scalarText rounds place) := by
  induction rounds generalizing place with
  | zero => exact isDue_tooDeep
  | succ rounds ih =>
    unfold Graph.scalarText
    split
    · trivial
    · split
      · exact ih
      · trivial
    · trivial

theorem reads_scalarValue {place : Nat} {tag : Tag} :
    Reads cut (fun _ => True) (g.scalarValue place tag) := by
  refine reads_scalarText.bind fun text _ => ?_
  split
  · exact IsUnconstructible.timestampOfMapping.isDue
  · exact reads_tagRead _ _

end

namespace Reading

variable {r : Reading} {cut : Option Stop}

theorem reads_meetNode {place : Nat} : Reads cut (fun _ => True) (r.meetNode place) := by
  unfold meetNode
  repeat' split
  all_goals first | trivial | exact reads_scalarValue.map fun _ _ => trivial

theorem reads_meetEntries {entries : List (Nat × Nat)} :
    Reads cut (fun _ => True) (meetEntries entries r) := by
  induction entries generalizing r with
  | nil => trivial
  | cons entry rest ih =>
    unfold meetEntries
    refine reads_meetNode.bind fun r _ => ?_
    split
    · refine reads_meetNode.bind fun r _ => ?_
      exact ih.bind fun _ _ => trivial
    · trivial

theorem reads_mappingAt {place : Nat} : Reads cut (fun _ => True) (r.mappingAt place) := by
  refine reads_flatten.bind fun graph _ => ?_
  split
  · exact reads_meetEntries
  · trivial

theorem reads_meetPairs {parts : List Nat} : Reads cut (fun _ => True) (meetPairs parts r) := by
  induction parts generalizing r with
  | nil => trivial
  | cons n rest ih =>
    unfold meetPairs
    split
    · refine reads_meetNode.bind fun r _ => ?_
      refine reads_meetNode.bind fun r _ => ?_
      exact ih.bind fun _ _ => trivial
    · trivial

theorem reads_openNode {place : Nat} : Reads cut (fun _ => True) (r.openNode place) := by
  unfold openNode
  split
  · exact (Reads.foldlM (fun _ _ => reads_meetNode) _ _).bind fun _ _ => trivial
  · exact reads_meetPairs.bind fun _ _ => trivial
  · exact reads_meetPairs.bind fun _ _ => trivial
  · exact reads_mappingAt.bind fun _ _ => trivial
  · exact reads_mappingAt.bind fun _ _ => trivial
  · trivial

theorem reads_finish {rounds : Nat} : Reads cut (fun _ => True) (r.finish rounds) := by
  induction rounds generalizing r with
  | zero => trivial
  | succ rounds ih =>
    unfold finish
    split
    · exact reads_openNode.bind fun _ _ => ih
    · split
      · exact reads_openNode.bind fun _ _ => ih
      · trivial

end Reading

theorem reads_checked {g : Graph} {cut : Option Stop} {root : Nat} :
    Reads cut (fun _ => True) (g.checked root) :=
  Reading.reads_meetNode.bind fun _ _ => Reading.reads_finish

/-- **Besides its grammar, a YAML text can only have something unconstructible
wrong, and what it is cut off with.** -/
theorem isDue_of_read {depth : Nat} {source : Source} {stop : Stop}
    (h : read depth source = .error stop) : stop.IsDue source.stop := by
  have hread : Reads source.stop (fun _ => True) (read depth source) := by
    refine (reads_ofTokens? fun _ => isDue_of_tokens).bind ?_
    rintro ⟨g, root?⟩ _
    cases root? with
    | none => trivial
    | some root => exact reads_checked.bind fun _ _ => trivial
  rwa [h] at hread

end Workspace.Yaml
