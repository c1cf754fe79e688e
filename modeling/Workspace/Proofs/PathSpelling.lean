/-
Workspace.Proofs.PathSpelling — reading a path text undoes writing it.

`pieces_joinWith`: cutting a joined text gives its pieces back, as long as
none of them holds the separator. From it follow, for a path whose segments
are segments indeed (`Path.WellSpelled`),

* `parse_render` — the text of a path is read as that path, and
* `pathDepth_render` — the depth of the text is the number of segments.

The second needs a path that is absolute or has a segment: the empty
relative path is written `.`, which is a segment as far as depth goes.
-/
import Workspace.Path

namespace Workspace

/-! ## Cutting and joining -/

namespace Text

variable {α : Type} {sep : α}

theorem joinWith_cons {p : List α} {ps : List (List α)} (h : ps ≠ []) :
    joinWith sep (p :: ps) = p ++ sep :: joinWith sep ps := by
  cases ps with
  | nil => exact absurd rfl h
  | cons q qs => rfl

theorem joinWith_concat {ps : List (List α)} (h : ps ≠ []) (p : List α) :
    joinWith sep (ps ++ [p]) = joinWith sep ps ++ sep :: p := by
  induction ps with
  | nil => exact absurd rfl h
  | cons q ps ih =>
    by_cases hps : ps = []
    · subst hps
      rfl
    · rw [List.cons_append, joinWith_cons (by simp), joinWith_cons hps, ih hps, List.append_assoc,
        List.cons_append]

variable [DecidableEq α]

/-- A text without the separator is a single piece. -/
theorem pieces_of_not_mem {cs : List α} (h : sep ∉ cs) : pieces sep cs = [cs] := by
  induction cs with
  | nil => rfl
  | cons c cs ih =>
    simp only [List.mem_cons, not_or] at h
    rw [pieces, if_neg (Ne.symm h.1), ih h.2]

/-- A separator cuts whatever stands around it. -/
theorem pieces_append_sep (as bs : List α) :
    pieces sep (as ++ sep :: bs) = pieces sep as ++ pieces sep bs := by
  induction as with
  | nil => simp [pieces]
  | cons a as ih =>
    rw [List.cons_append, pieces, pieces]
    by_cases ha : a = sep
    · rw [if_pos ha, if_pos ha, ih, List.cons_append]
    · rw [if_neg ha, if_neg ha, ih]
      cases hp : pieces sep as with
      | nil => exact absurd hp (pieces_ne_nil sep as)
      | cons p ps => rfl

/-- Cutting a joined text gives its pieces back. -/
theorem pieces_joinWith {ps : List (List α)} (hne : ps ≠ []) (h : ∀ p ∈ ps, sep ∉ p) :
    pieces sep (joinWith sep ps) = ps := by
  induction ps with
  | nil => exact absurd rfl hne
  | cons p ps ih =>
    have hp : pieces sep p = [p] := pieces_of_not_mem (h p (by simp))
    by_cases hps : ps = []
    · subst hps
      exact hp
    · rw [joinWith_cons hps, pieces_append_sep, hp, ih hps fun q hq => h q (by simp [hq])]
      rfl

end Text

namespace Path

open Text (pieces joinWith)

/-! ## Segments -/

/-- A text that one segment of a path can have. -/
structure IsSegment (s : Text) : Prop where
  isStep : isStep s = true
  noSlash : .char '/' ∉ s

instance (s : Text) : Decidable (IsSegment s) :=
  decidable_of_iff (isStep s = true ∧ .char '/' ∉ s)
    ⟨fun h => ⟨h.1, h.2⟩, fun h => ⟨h.isStep, h.noSlash⟩⟩

/-- Every segment of the path can be told from its neighbours in a text. -/
def WellSpelled (p : Path) : Prop :=
  ∀ s ∈ p.segments, IsSegment s

theorem isStep_iff {s : Text} : isStep s = true ↔ s ≠ [] ∧ s ≠ [.char '.'] := by
  simp [isStep]

theorem IsSegment.ne_nil {s : Text} (h : IsSegment s) : s ≠ [] :=
  (isStep_iff.mp h.isStep).1

/-- Whatever a text spells is well spelled. -/
theorem wellSpelled_parse (t : Text) : (parse t).WellSpelled := by
  intro s hs
  obtain ⟨hpiece, hstep⟩ := List.mem_filter.mp hs
  exact ⟨hstep, Text.not_mem_of_mem_pieces hpiece⟩

theorem WellSpelled.under {base p : Path} (hb : base.WellSpelled) (hp : p.WellSpelled) :
    (base.under p).WellSpelled := by
  unfold Path.under
  split
  · exact hp
  · intro s hs
    rcases List.mem_append.mp hs with h | h
    · exact hb s h
    · exact hp s h

/-! ## Reading what was written -/

/-- Joined segments do not start with a slash. -/
theorem head?_joinWith {ss : List Text} (h : ∀ s ∈ ss, IsSegment s) :
    (joinWith (.char '/') ss).head? ≠ some (.char '/') := by
  cases ss with
  | nil => simp [joinWith]
  | cons s ss =>
    have hs : IsSegment s := h s (by simp)
    cases s with
    | nil => exact absurd rfl hs.ne_nil
    | cons c cs =>
      have hc : c ≠ .char '/' := fun e => hs.noSlash (by simp [e])
      cases ss with
      | nil => simpa [joinWith] using hc
      | cons r rs => simpa [joinWith] using hc

/-- The slashes at the start of a text show its anchor. -/
theorem ofText_append {t : Text} (h : t.head? ≠ some (.char '/')) (a : Anchor) :
    Anchor.ofText (a.text ++ t) = a := by
  cases t with
  | nil => cases a <;> rfl
  | cons c cs =>
    have hc : c ≠ .char '/' := by simpa using h
    cases a <;> simp [Anchor.text, Anchor.ofText, hc]

/-- The slashes at the start of a text add nothing but empty pieces. -/
theorem filter_pieces_append (a : Anchor) (t : Text) (keep : Text → Bool)
    (hkeep : keep [] = false) :
    (pieces (.char '/') (a.text ++ t)).filter keep = (pieces (.char '/') t).filter keep := by
  cases a <;> simp [Anchor.text, pieces, hkeep]

theorem filter_pieces_joinWith {ss : List Text} (h : ∀ s ∈ ss, IsSegment s)
    {keep : Text → Bool} (hkeep : keep [] = false) (hss : ∀ s ∈ ss, keep s = true) :
    (pieces (.char '/') (joinWith (.char '/') ss)).filter keep = ss := by
  by_cases hne : ss = []
  · subst hne
    simp [joinWith, pieces, hkeep]
  · rw [Text.pieces_joinWith hne fun s hs => (h s hs).noSlash]
    exact List.filter_eq_self.mpr hss

/-- **Reading undoes writing.** -/
theorem parse_render {p : Path} (h : p.WellSpelled) : parse p.render = p := by
  obtain ⟨anchor, segments⟩ := p
  unfold render
  split
  · next hempty =>
    obtain ⟨rfl, rfl⟩ := hempty
    rfl
  · have hsteps : ∀ s ∈ segments, isStep s = true := fun s hs => (h s hs).isStep
    rw [parse, ofText_append (head?_joinWith h), filter_pieces_append _ _ _ (by rfl),
      filter_pieces_joinWith h (by rfl) hsteps]

/-! ## Depth -/

/-- **The depth of a path text is its number of segments.** -/
theorem pathDepth_render {p : Path} (h : p.WellSpelled)
    (hvisible : p.isAbsolute = true ∨ p.segments ≠ []) :
    pathDepth p.render = p.segments.length := by
  have hshown : ¬(p.anchor = .relative ∧ p.segments = []) := by
    rintro ⟨ha, hs⟩
    rcases hvisible with hv | hv
    · simp [isAbsolute, ha, Anchor.isAbsolute] at hv
    · exact hv hs
  have hne : ∀ s ∈ p.segments, decide (s ≠ []) = true := fun s hs => by
    simpa using (h s hs).ne_nil
  rw [render, if_neg hshown, pathDepth, filter_pieces_append _ _ _ (by simp),
    filter_pieces_joinWith h (by simp) hne]

end Path

end Workspace
