/-
Workspace.Proofs.YamlStop — why a YAML text cannot be taken apart into tokens.

A text that breaks the grammar is refused as such. Besides, it may spell
something that does not exist (`IsUnconstructible`), and where it is cut off the
reader meets what comes there instead of its end. Nothing else stops a reader
(`Stop.IsDue`).

Every reader hands on how the readers of its parts stopped, and its cursor knows
all the time what the text is cut off with. `Reads` says both of the outcome of
a reader, for a property that its result has; it composes along `bind`, so each
reader has one lemma that follows its definition.
-/
import Workspace.Yaml.Document

namespace Workspace.Yaml

/-- What a YAML text can have wrong besides its grammar: a scalar under a tag
spells no value, an escape no code point, or something is nested too deep. -/
inductive IsUnconstructible : ContentFault → Prop
  | notInteger {base : Nat} {codes : List Nat} : base ∈ [2, 8, 10, 16] →
      IsUnconstructible (.notInteger base codes)
  | longInteger {digits : Nat} : digitLimit < digits → IsUnconstructible (.longInteger digits)
  | notNumber {codes : List Nat} : IsUnconstructible (.notNumber codes)
  | emptyNumber : IsUnconstructible .emptyNumber
  | numberTooLarge : IsUnconstructible .numberTooLarge
  | notBoolean {codes : List Nat} : IsUnconstructible (.notBoolean codes)
  | notCalendar {error : CalendarError} : IsUnconstructible (.notCalendar error)
  | notTimestamp : IsUnconstructible .notTimestamp
  | timestampOfMapping : IsUnconstructible .timestampOfMapping
  | codePointOutOfRange : IsUnconstructible .codePointOutOfRange
  | codePointTooLarge : IsUnconstructible .codePointTooLarge
  | tooDeep : IsUnconstructible .tooDeep

/-- A reader of a text that is cut off with `cut` may stop so. -/
def Stop.IsDue (cut : Option Stop) : Stop → Prop
  | .malformed => True
  | .content fault => IsUnconstructible fault ∨ cut = some (.content fault)

/-- The outcome of a reader of a text that is cut off with `cut`: a result with
a property, or a stop that is due. -/
def Reads {α : Type} (cut : Option Stop) (good : α → Prop) : Except Stop α → Prop
  | .ok a => good a
  | .error stop => stop.IsDue cut

section

variable {α β : Type} {cut : Option Stop} {good : α → Prop} {good' : β → Prop}

@[simp] theorem isDue_malformed : Stop.malformed.IsDue cut := trivial

theorem IsUnconstructible.isDue {fault : ContentFault} (h : IsUnconstructible fault) :
    (Stop.content fault).IsDue cut :=
  Or.inl h

theorem isDue_tooDeep : (Stop.content .tooDeep).IsDue cut := IsUnconstructible.tooDeep.isDue

@[simp] theorem reads_ok {a : α} : Reads cut good (.ok a) ↔ good a := Iff.rfl

@[simp] theorem reads_pure {a : α} : Reads cut good (pure a) ↔ good a := Iff.rfl

@[simp] theorem reads_error {stop : Stop} : Reads cut good (.error stop) ↔ stop.IsDue cut := Iff.rfl

@[simp] theorem reads_throw {stop : Stop} : Reads cut good (throw stop) ↔ stop.IsDue cut := Iff.rfl

/-- A check that fails ends everything behind it. -/
@[simp] theorem reads_throw_bind {stop : Stop} {f : α → Except Stop β} :
    Reads cut good' (throw stop >>= f) ↔ stop.IsDue cut :=
  Iff.rfl

theorem Reads.bind {x : Except Stop α} {f : α → Except Stop β} (h : Reads cut good x)
    (hf : ∀ a, good a → Reads cut good' (f a)) : Reads cut good' (x >>= f) := by
  cases x with
  | ok a => exact hf a h
  | error stop => exact h

theorem Reads.map {x : Except Stop α} {f : α → β} (h : Reads cut good x)
    (hf : ∀ a, good a → good' (f a)) : Reads cut good' (x.map f) := by
  cases x with
  | ok a => exact hf a h
  | error stop => exact h

theorem Reads.ite {p : Prop} [Decidable p] {x y : Except Stop α} (hx : Reads cut good x)
    (hy : Reads cut good y) : Reads cut good (if p then x else y) := by
  split
  · exact hx
  · exact hy

end

/-! ## Cursors -/

namespace Cursor

variable {c : Cursor} {cut : Option Stop}

@[simp] theorem stop_next : c.next.stop = c.stop := by
  unfold next
  split
  · rfl
  · simp only
    repeat' split
    all_goals rfl

@[simp] theorem stop_skip (n : Nat) : (c.skip n).stop = c.stop := by
  induction n generalizing c with
  | zero => rfl
  | succ n ih => rw [skip, ih, stop_next]

@[simp] theorem stop_skipWhile (p : Char → Bool) : (c.skipWhile p).stop = c.stop := stop_skip _

@[simp] theorem stop_skipBlanks : c.skipBlanks.stop = c.stop := stop_skipWhile _

@[simp] theorem stop_skipToBreak : c.skipToBreak.stop = c.stop := stop_skipWhile _

@[simp] theorem stop_skipComment : c.skipComment.stop = c.stop := by
  unfold skipComment
  split <;> simp

@[simp] theorem stop_lineBreak : c.lineBreak.2.stop = c.stop := by
  unfold lineBreak
  repeat' split
  all_goals simp

theorem isDue_of_cutOff? {stop : Stop} (hc : c.stop = cut) (h : c.cutOff? = some stop) :
    stop.IsDue cut := by
  unfold cutOff? at h
  split at h
  · cases stop with
    | malformed => trivial
    | content fault => exact Or.inr (hc ▸ h)
  · simp at h

theorem isDue_fail (hc : c.stop = cut) : c.fail.IsDue cut := by
  unfold fail
  cases h : c.cutOff? with
  | none => trivial
  | some stop => exact isDue_of_cutOff? hc h

end Cursor

/-! ## Quoted scalars -/

section

variable {c : Cursor} {cut : Option Stop}

theorem reads_quotedBreaks {rounds : Nat} (hc : c.stop = cut) :
    Reads cut (·.2.stop = cut) (quotedBreaks rounds c) := by
  induction rounds generalizing c with
  | zero => trivial
  | succ rounds ih =>
    unfold quotedBreaks
    split
    · exact Cursor.isDue_fail (by simp [hc])
    · simp only
      repeat' split
      · exact (ih (by simp [hc])).map fun _ h => h
      all_goals simp [hc]

theorem reads_quotedSpaces (hc : c.stop = cut) : Reads cut (·.2.stop = cut) (quotedSpaces c) := by
  unfold quotedSpaces
  simp only
  repeat' split
  · exact Cursor.isDue_fail (by simp [hc])
  · exact (reads_quotedBreaks (by simp [hc])).map fun _ h => h
  · simp [hc]

theorem reads_checkCode (n : Nat) : Reads cut (fun _ => True) (checkCode n) := by
  unfold checkCode
  repeat' split
  · trivial
  · exact IsUnconstructible.codePointOutOfRange.isDue
  · exact IsUnconstructible.codePointTooLarge.isDue

theorem reads_escape (hc : c.stop = cut) : Reads cut (·.2.stop = cut) (escape c) := by
  unfold escape
  simp only
  repeat' split
  · exact Cursor.isDue_fail hc
  · simp [hc]
  · exact Cursor.isDue_fail (by simp [hc])
  · exact (reads_checkCode _).map fun _ _ => by simp [hc]
  · exact (reads_quotedBreaks (by simp [hc])).map fun _ h => h
  · trivial

theorem reads_quotedBody {double : Bool} {rounds : Nat} (hc : c.stop = cut) :
    Reads cut (·.2.stop = cut) (quotedBody double rounds c) := by
  induction rounds generalizing c with
  | zero => trivial
  | succ rounds ih =>
    unfold quotedBody
    extract_lets continueWith
    have hgoOn : ∀ read, Reads cut (·.2.stop = cut) read →
        Reads cut (·.2.stop = cut) (continueWith read) := by
      rintro (stop | ⟨first, c⟩) hread
      · exact hread
      · exact (ih hread).map fun _ h => h
    clear_value continueWith
    split
    · exact Cursor.isDue_fail hc
    · repeat' split
      · exact hgoOn _ ((reads_quotedSpaces hc).map fun _ h => h)
      · simp [hc]
      · exact hgoOn _ (reads_escape (by simp [hc]))
      · refine hgoOn _ ?_
        simp [hc]
      · refine hgoOn _ ?_
        simp [hc]
      · simp [hc]
      · refine hgoOn _ ?_
        simp [hc]

theorem reads_quotedScalar (double : Bool) (hc : c.stop = cut) :
    Reads cut (·.2.stop = cut) (quotedScalar double c) :=
  reads_quotedBody (by simp [hc])

/-! ## Plain and block scalars -/

theorem stop_plainBreaks {rounds : Nat} : (plainBreaks rounds c).2.stop = c.stop := by
  induction rounds generalizing c with
  | zero => rfl
  | succ rounds ih =>
    unfold plainBreaks
    simp only
    repeat' split
    all_goals simp [ih]

theorem stop_plainGap : (plainGap c).cursor.stop = c.stop := by
  unfold plainGap
  simp only
  repeat' split
  · simp
  · next heq => simpa [stop_plainBreaks] using (congrArg (·.2.stop) heq).symm
  · next heq => simpa [stop_plainBreaks] using (congrArg (·.2.stop) heq).symm
  · simp
  · simp

theorem stop_plainRuns {inFlow : Bool} {indent : Int} {rounds : Nat} {gap : List Char}
    {lineEnded : Bool} :
    (plainRuns inFlow indent rounds gap lineEnded c).cursor.stop = c.stop := by
  induction rounds generalizing gap lineEnded c with
  | zero => rfl
  | succ rounds ih =>
    unfold plainRuns
    simp only
    repeat' split
    all_goals simp [ih, stop_plainGap]

theorem stop_plainScalar {inFlow : Bool} {indent : Int} :
    (plainScalar inFlow indent c).cursor.stop = c.stop :=
  stop_plainRuns

theorem reads_increment? (c? : Option Char) : Reads cut (fun _ => True) (increment? c?) := by
  unfold increment?
  split <;> trivial

theorem reads_blockHeader (hc : c.stop = cut) : Reads cut (·.2.stop = cut) (blockHeader c) := by
  have hnext : c.next.stop = cut := by simp [hc]
  have hthird : c.next.next.stop = cut := by simp [hc]
  unfold blockHeader
  extract_lets goOn
  have hgoOn : ∀ header c, c.stop = cut → Reads cut (·.2.stop = cut) (goOn (header, c)) := by
    intro header c hc
    simp only [goOn]
    repeat' split
    all_goals simp [hc, -bind_pure_comp]
  clear_value goOn
  split
  · refine (reads_increment? _).bind fun n _ => ?_
    cases n with
    | none => exact hgoOn _ _ hnext
    | some n => exact hgoOn _ _ hthird
  · refine (reads_increment? _).bind fun n _ => ?_
    cases n with
    | none => exact hgoOn _ _ hc
    | some n =>
      simp only
      split
      · exact hgoOn _ _ hthird
      · exact hgoOn _ _ hnext

theorem stop_blockIndentation {rounds deepest : Nat} :
    (blockIndentation rounds deepest c).2.2.stop = c.stop := by
  induction rounds generalizing deepest c with
  | zero => rfl
  | succ rounds ih =>
    unfold blockIndentation
    simp only
    repeat' split
    all_goals simp [ih]

@[simp] theorem stop_skipIndent {indent : Nat} : (skipIndent indent c).stop = c.stop :=
  Cursor.stop_skip _

theorem stop_blockBreaks {indent rounds : Nat} : (blockBreaks indent rounds c).2.stop = c.stop := by
  induction rounds generalizing c with
  | zero => rfl
  | succ rounds ih =>
    unfold blockBreaks
    simp only
    repeat' split
    all_goals simp [ih]

theorem stop_blockLines {folded : Bool} {indent rounds : Nat} {breaks : List Char} :
    (blockLines folded indent rounds breaks c).2.stop = c.stop := by
  induction rounds generalizing breaks c with
  | zero => rfl
  | succ rounds ih =>
    unfold blockLines
    simp only
    split <;> simp [ih, stop_blockBreaks]

theorem reads_blockScalar {folded : Bool} {indent : Int} (hc : c.stop = cut) :
    Reads cut (·.2.stop = cut) (blockScalar folded indent c) := by
  unfold blockScalar
  refine (reads_blockHeader (by simp [hc])).bind fun ⟨header, c⟩ hc => ?_
  simp only
  repeat' split
  all_goals simp_all [stop_blockIndentation, stop_blockBreaks, stop_blockLines]

/-! ## Tokens that are spelled out -/

theorem reads_anchorName (hc : c.stop = cut) : Reads cut (·.2.stop = cut) (anchorName c) := by
  unfold anchorName
  simp only
  split
  · exact Cursor.isDue_fail (by simp [hc])
  · simp [hc]

theorem reads_tagHandle (hc : c.stop = cut) : Reads cut (·.2.stop = cut) (tagHandle c) := by
  unfold tagHandle
  simp only
  repeat' split
  · simp [hc]
  · simp [hc]
  · exact Cursor.isDue_fail (by simp [hc])
  · exact Cursor.isDue_fail hc

theorem reads_tagText {rounds : Nat} (hc : c.stop = cut) :
    Reads cut (·.2.stop = cut) (tagText rounds c) := by
  induction rounds generalizing c with
  | zero => simpa [tagText] using hc
  | succ rounds ih =>
    unfold tagText
    repeat' split
    · exact Cursor.isDue_fail (by simp [hc])
    · exact Cursor.isDue_fail (by simp [hc])
    · exact (ih (by simp [hc])).map fun _ h => h
    · exact (ih (by simp [hc])).map fun _ h => h
    · exact hc
    · exact hc

theorem reads_tagTextNonEmpty (hc : c.stop = cut) :
    Reads cut (·.2.stop = cut) (tagTextNonEmpty c) := by
  unfold tagTextNonEmpty
  split
  · exact reads_tagText hc
  · exact Cursor.isDue_fail hc

theorem reads_tagSpelling (hc : c.stop = cut) : Reads cut (·.2.stop = cut) (tagSpelling c) := by
  have hnext : c.next.stop = cut := by simp [hc]
  unfold tagSpelling
  extract_lets goOn word goOnAfterHandle
  have hgoOn : ∀ t c, c.stop = cut → Reads cut (·.2.stop = cut) (goOn (t, c)) := by
    intro t c hc
    simp only [goOn]
    split <;> simp [hc, -bind_pure_comp]
  have hafterHandle : ∀ handle c, c.stop = cut →
      Reads cut (·.2.stop = cut) (goOnAfterHandle (handle, c)) := fun handle c hc =>
    (reads_tagTextNonEmpty hc).bind fun ⟨_, _⟩ hc => hgoOn _ _ hc
  clear_value goOn goOnAfterHandle
  split
  · refine (reads_tagTextNonEmpty (by simp [hc])).bind fun ⟨text, c⟩ hc => ?_
    simp only
    split
    · simp [Cursor.isDue_fail hc, -bind_pure_comp]
    · exact hgoOn _ _ (by simpa using hc)
  · split
    · exact hgoOn _ _ hnext
    · split
      · exact (reads_tagHandle hc).bind fun ⟨_, _⟩ hc => hafterHandle _ _ hc
      · exact hafterHandle _ _ hnext

theorem reads_directiveNumber (hc : c.stop = cut) :
    Reads cut (·.2.stop = cut) (directiveNumber c) := by
  unfold directiveNumber
  simp only
  repeat' split
  · exact Cursor.isDue_fail hc
  · next hlong => exact (IsUnconstructible.longInteger hlong).isDue
  · simp [hc]

theorem reads_directive (hc : c.stop = cut) : Reads cut (·.2.stop = cut) (directive c) := by
  unfold directive
  extract_lets afterMark name afterName goOn goOnAfterName
  have hname : afterName.stop = cut := by simp [afterName, afterMark, hc]
  have hgoOn : ∀ d c, c.stop = cut → Reads cut (·.2.stop = cut) (goOn (d, c)) := by
    intro d c hc
    simp only [goOn]
    split <;> simp [hc, -bind_pure_comp]
  have hafterName : Reads cut (·.2.stop = cut) (goOnAfterName ()) := by
    simp only [goOnAfterName]
    clear_value goOn
    repeat' split
    · -- a version, which is two numbers
      refine (reads_directiveNumber (by simp [hname])).bind fun ⟨major, c⟩ hc => ?_
      simp only
      split
      · exact Cursor.isDue_fail hc
      · refine (reads_directiveNumber (by simpa using hc)).bind fun ⟨_, c⟩ hc => ?_
        simp only
        split
        · trivial
        · exact hgoOn _ _ hc
    · refine (reads_tagHandle (by simp [hname])).bind fun ⟨handle, c⟩ hc => ?_
      simp only
      split
      · exact Cursor.isDue_fail hc
      · refine (reads_tagTextNonEmpty (by simpa using hc)).bind fun ⟨_, c⟩ hc => ?_
        simp only
        split
        · trivial
        · exact hgoOn _ _ hc
    · exact hgoOn _ _ (by simp [hname])
  clear_value goOnAfterName
  split
  · exact Cursor.isDue_fail hname
  · exact hafterName

end

/-! ## The scanner -/

namespace Scan

variable {s : Scan} {cut : Option Stop}

@[simp] theorem stop_push (t : Token) : (s.push t).cursor.stop = s.cursor.stop := rfl

@[simp] theorem stop_insertAt (place : Nat) (t : Token) :
    (s.insertAt place t).cursor.stop = s.cursor.stop :=
  rfl

@[simp] theorem stop_take (t : Token) : (s.take t).cursor.stop = s.cursor.stop := by
  simp [take]

theorem stop_toNextToken {rounds : Nat} : (toNextToken rounds s).cursor.stop = s.cursor.stop := by
  induction rounds generalizing s with
  | zero => rfl
  | succ rounds ih =>
    unfold toNextToken
    simp only
    repeat' split
    all_goals simp [ih]

theorem stop_unwindFrom {column : Int} {outer : List Int} :
    (unwindFrom column outer s).cursor.stop = s.cursor.stop := by
  induction outer generalizing s with
  | nil => rfl
  | cons _ _ ih =>
    unfold unwindFrom
    split
    · rw [ih]
      rfl
    · rfl

@[simp] theorem stop_unwind (column : Int) : (s.unwind column).cursor.stop = s.cursor.stop := by
  unfold unwind
  split
  · exact stop_unwindFrom
  · rfl

theorem stop_indentTo {column : Int} {s' : Scan} (h : s.indentTo column = some s') :
    s'.cursor.stop = s.cursor.stop := by
  unfold indentTo at h
  split at h
  · cases h
    rfl
  · simp at h

theorem reads_dropStaleKeys (hs : s.cursor.stop = cut) :
    Reads cut (·.cursor.stop = cut) s.dropStaleKeys := by
  unfold dropStaleKeys
  split <;> simp [hs]

theorem reads_dropKey (hs : s.cursor.stop = cut) : Reads cut (·.cursor.stop = cut) s.dropKey := by
  unfold dropKey
  repeat' split
  all_goals simp [hs]

theorem reads_saveKey (hs : s.cursor.stop = cut) : Reads cut (·.cursor.stop = cut) s.saveKey := by
  unfold saveKey
  split
  · exact (reads_dropKey hs).bind fun _ h => h
  · exact hs

theorem reads_betweenDocuments (hs : s.cursor.stop = cut) :
    Reads cut (·.cursor.stop = cut) s.betweenDocuments :=
  (reads_dropKey (by simp [hs])).bind fun _ h => h

theorem reads_beginBlock {t : Token} (hs : s.cursor.stop = cut) :
    Reads cut (·.cursor.stop = cut) (s.beginBlock t) := by
  unfold beginBlock
  repeat' split
  · exact hs
  · trivial
  · next h => exact (stop_indentTo h).trans hs
  · exact hs

theorem reads_fetchValue (hs : s.cursor.stop = cut) :
    Reads cut (·.cursor.stop = cut) s.fetchValue := by
  unfold fetchValue
  split
  · simp only [reads_pure, stop_take]
    repeat' split
    · next h => exact (stop_indentTo h).trans hs
    · exact hs
    · exact hs
  · refine (reads_beginBlock hs).bind fun s hs => ?_
    exact Reads.bind (reads_dropKey (by exact hs)) fun s hs => by simpa using hs

theorem reads_fetchNodePart {read : Cursor → Except Stop (Token × Cursor)}
    (hread : ∀ c, c.stop = cut → Reads cut (·.2.stop = cut) (read c)) (hs : s.cursor.stop = cut) :
    Reads cut (·.cursor.stop = cut) (s.fetchNodePart read) :=
  (reads_saveKey hs).bind fun _ hs => (hread _ hs).bind fun _ hc => hc

/-- The readers of the tokens that can be simple keys, with the token added. -/
theorem reads_token {α : Type} (cut : Option Stop) {read : Cursor → Except Stop (α × Cursor)}
    (token : α → Token) (hread : ∀ c, c.stop = cut → Reads cut (·.2.stop = cut) (read c)) :
    ∀ c, c.stop = cut →
      Reads cut (·.2.stop = cut) ((read c).map fun (a, c) => (token a, c)) :=
  fun c hc => (hread c hc).map fun _ h => h

theorem reads_fetchDirective (hs : s.cursor.stop = cut) :
    Reads cut (·.cursor.stop = cut) s.fetchDirective :=
  (reads_betweenDocuments hs).bind fun _ hs => (reads_directive hs).bind fun _ hc => hc

theorem reads_fetchDocumentMarker {t : Token} (hs : s.cursor.stop = cut) :
    Reads cut (·.cursor.stop = cut) (s.fetchDocumentMarker t) :=
  (reads_betweenDocuments hs).bind fun _ hs => by simpa using hs

theorem reads_fetchFlowStart {t : Token} (hs : s.cursor.stop = cut) :
    Reads cut (·.cursor.stop = cut) (s.fetchFlowStart t) :=
  (reads_saveKey hs).bind fun _ hs => by simpa using hs

theorem reads_fetchFlowEnd {t : Token} (hs : s.cursor.stop = cut) :
    Reads cut (·.cursor.stop = cut) (s.fetchFlowEnd t) :=
  (reads_dropKey hs).bind fun _ hs => by simpa using hs

theorem reads_fetchFlowEntry (hs : s.cursor.stop = cut) :
    Reads cut (·.cursor.stop = cut) s.fetchFlowEntry :=
  Reads.bind (reads_dropKey (by exact hs)) fun _ hs => by simpa using hs

theorem reads_fetchBlockEntry (hs : s.cursor.stop = cut) :
    Reads cut (·.cursor.stop = cut) s.fetchBlockEntry :=
  (reads_beginBlock hs).bind fun _ hs =>
    Reads.bind (reads_dropKey (by exact hs)) fun _ hs => by simpa using hs

theorem reads_fetchKey (hs : s.cursor.stop = cut) : Reads cut (·.cursor.stop = cut) s.fetchKey :=
  (reads_beginBlock hs).bind fun _ hs =>
    Reads.bind (reads_dropKey (by exact hs)) fun _ hs => by simpa using hs

theorem reads_fetchBlockScalar {folded : Bool} (hs : s.cursor.stop = cut) :
    Reads cut (·.cursor.stop = cut) (s.fetchBlockScalar folded) :=
  Reads.bind (reads_dropKey (by exact hs)) fun _ hs => (reads_blockScalar hs).bind fun _ hc => hc

theorem reads_fetchPlain (hs : s.cursor.stop = cut) :
    Reads cut (·.cursor.stop = cut) s.fetchPlain :=
  (reads_saveKey hs).bind fun _ hs => stop_plainScalar.trans hs

theorem reads_fetchAt {x : Char} (hs : s.cursor.stop = cut) :
    Reads cut (·.cursor.stop = cut) (s.fetchAt x) := by
  have halias := reads_token cut Token.alias fun _ => reads_anchorName
  have hanchor := reads_token cut Token.anchor fun _ => reads_anchorName
  have htag := reads_token cut Token.tag fun _ => reads_tagSpelling
  have hquoted (double : Bool) :=
    reads_token cut (Token.scalar · false) fun _ => reads_quotedScalar double
  unfold fetchAt
  extract_lets gapFollows inFlow lineStart
  refine .ite (reads_fetchDirective hs) ?_
  refine .ite (reads_fetchDocumentMarker hs) <| .ite (reads_fetchDocumentMarker hs) ?_
  refine .ite (reads_fetchFlowStart hs) <| .ite (reads_fetchFlowStart hs) ?_
  refine .ite (reads_fetchFlowEnd hs) <| .ite (reads_fetchFlowEnd hs) ?_
  refine .ite (reads_fetchFlowEntry hs) <| .ite (reads_fetchBlockEntry hs) ?_
  refine .ite (reads_fetchKey hs) <| .ite (reads_fetchValue hs) ?_
  refine .ite (reads_fetchNodePart halias hs) <| .ite (reads_fetchNodePart hanchor hs) ?_
  refine .ite (reads_fetchNodePart htag hs) ?_
  refine .ite (reads_fetchBlockScalar hs) <| .ite (reads_fetchBlockScalar hs) ?_
  refine .ite (reads_fetchNodePart (hquoted false) hs) ?_
  refine .ite (reads_fetchNodePart (hquoted true) hs) ?_
  exact .ite (reads_fetchPlain hs) trivial

theorem reads_next (hs : s.cursor.stop = cut) : Reads cut (·.cursor.stop = cut) s.next := by
  unfold next
  extract_lets here goOn
  have hhere : here.cursor.stop = cut := stop_toNextToken.trans hs
  have hgoOn : Reads cut (·.cursor.stop = cut) (goOn ()) := by
    simp only [goOn]
    refine (reads_dropStaleKeys hhere).bind fun s hs => ?_
    split
    · exact (reads_betweenDocuments (by simpa using hs)).bind fun _ h => h
    · exact reads_fetchAt (by simpa using hs)
  clear_value goOn
  split
  · next hcut => exact Cursor.isDue_of_cutOff? hhere hcut
  · exact hgoOn

/-- The scanner stops with what is due, if it does not come to the end. -/
theorem isDue_of_finish {rounds : Nat} {last : Scan} {stop : Stop} (hs : s.cursor.stop = cut)
    (h : s.finish rounds = (last, some stop)) : stop.IsDue cut := by
  induction rounds generalizing s with
  | zero =>
    cases h
    trivial
  | succ rounds ih =>
    have hnext := reads_next hs
    unfold finish at h
    split at h
    · next heq =>
      rw [heq] at hnext
      cases h
      exact hnext
    · next s' heq =>
      rw [heq] at hnext
      split at h
      · next hcut =>
        cases h
        exact Cursor.isDue_of_cutOff? hnext hcut
      · split at h
        · simp at h
        · exact ih hnext h

end Scan

/-- **Tokens end with the text, or with a stop that is due.** -/
theorem isDue_of_tokens {source : Source} {stop : Stop} (h : (tokens source).stop = some stop) :
    stop.IsDue source.stop := by
  unfold tokens at h
  extract_lets first s at h
  have hs : s.cursor.stop = source.stop := by
    simp only [s]
    split
    · exact Cursor.stop_next
    · rfl
  split at h
  · simp at h
  · next hfinish =>
    cases h
    exact Scan.isDue_of_finish hs hfinish

end Workspace.Yaml
