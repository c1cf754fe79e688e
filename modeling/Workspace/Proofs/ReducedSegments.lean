/-
Workspace.Proofs.ReducedSegments — the canonical text of an absolute path, said
of its text alone.

`reducedSegments` goes once over the pieces between the slashes of a text, from
the left: an empty piece and `.` are dropped, and `..` takes away the piece kept
before it, or nothing when none is kept. Behind one slash, or behind two when
the text starts with exactly two, the pieces that are left make up
`canonicalText`.

The program reads a text as a `Path` first, which drops some of the pieces, and
cancels `..` in what was read. At a root both come to the same
(`Path.normalize_parse`), so normal forms are equal just when the reduced
segments and the kind of start are (`normalizePath_eq_iff`). A relative text is
taken from a root by joining the two texts (`spelledUnder`); whether the joined
text is normalized, or the path that was read from both and written again, makes
no difference (`normalizePath_canonicalText`).
-/
import Workspace.Proofs.SpelledOut

namespace Workspace

open Text (pieces joinWith)

/-! ## Reducing the pieces of a text -/

/-- What is left of a list of pieces, behind those kept so far, which are listed
last first. -/
def reduceOnto (kept : List Text) : List Text → List Text
  | [] => kept.reverse
  | s :: rest =>
    if s = [] ∨ s = [.char '.'] then reduceOnto kept rest
    else if s = [.char '.', .char '.'] then reduceOnto kept.tail rest
    else reduceOnto (s :: kept) rest

/-- The segments of an absolute path text, reduced. -/
def reducedSegments (t : Text) : List Text :=
  reduceOnto [] (pieces (.char '/') t)

/-- The text starts with two slashes and no third. -/
def StartsDouble (t : Text) : Prop :=
  (t.takeWhile (· = .char '/')).length = 2

instance (t : Text) : Decidable (StartsDouble t) :=
  inferInstanceAs (Decidable (_ = _))

/-- The canonical form of an absolute path text. -/
def canonicalText (t : Text) : Text :=
  (if StartsDouble t then [.char '/', .char '/'] else [.char '/'])
    ++ joinWith (.char '/') (reducedSegments t)

/-! ## Reading and cancelling reduces -/

namespace Path

/-- Below a root `..` takes the last kept segment away, if there is one. The
kept ones hold no `..`, since there it always cancels something or vanishes. -/
theorem cancelStep_parentStep {kept : List Text} (h : parentStep ∉ kept) :
    cancelStep true kept parentStep = kept.tail := by
  cases kept with
  | nil => rfl
  | cons last before =>
    have hlast : last ≠ parentStep := fun heq => h (by simp [heq])
    simp [cancelStep, hlast]

/-- **Cancelling among the steps reduces the pieces**, below a root. -/
theorem foldl_cancelStep_filter_isStep :
    ∀ (ps kept : List Text), parentStep ∉ kept →
      ((ps.filter isStep).foldl (cancelStep true) kept).reverse = reduceOnto kept ps
  | [], kept, _ => rfl
  | s :: rest, kept, hkept => by
    by_cases hdropped : s = [] ∨ s = [.char '.']
    · have hstep : isStep s = false := by
        rcases hdropped with rfl | rfl <;> rfl
      rw [List.filter_cons_of_neg (by simp [hstep]), reduceOnto, if_pos hdropped]
      exact foldl_cancelStep_filter_isStep rest kept hkept
    · have hstep : isStep s = true := isStep_iff.mpr (not_or.mp hdropped)
      rw [List.filter_cons_of_pos hstep, List.foldl_cons, reduceOnto, if_neg hdropped]
      by_cases hparent : s = parentStep
      · have htail : parentStep ∉ kept.tail := fun h => hkept (List.mem_of_mem_tail h)
        rw [hparent, cancelStep_parentStep hkept, foldl_cancelStep_filter_isStep rest _ htail]
        rfl
      · have hkeep : cancelStep true kept s = s :: kept := if_neg hparent
        have hcons : parentStep ∉ s :: kept := by
          rw [List.mem_cons, not_or]
          exact ⟨Ne.symm hparent, hkept⟩
        rw [hkeep, foldl_cancelStep_filter_isStep rest _ hcons]
        exact (if_neg hparent).symm

end Path

/-- The slashes at the start of an absolute text tell the two roots apart. -/
theorem ofText_of_isAbsolute {t : Text} (h : IsAbsolutePath t) :
    Anchor.ofText t = if StartsDouble t then .doubleRoot else .root := by
  rw [isAbsolutePath_iff_head?] at h
  -- the first three characters decide
  match t with
  | [] => simp at h
  | [c] =>
    obtain rfl : c = .char '/' := by simpa using h
    rfl
  | [c, d] =>
    obtain rfl : c = .char '/' := by simpa using h
    by_cases hd : d = .char '/' <;> simp [Anchor.ofText, StartsDouble, hd]
  | c :: d :: e :: rest =>
    obtain rfl : c = .char '/' := by simpa using h
    by_cases hd : d = .char '/' <;> by_cases he : e = .char '/' <;>
      simp [Anchor.ofText, StartsDouble, hd, he]

/-- **The normal form of an absolute path** has the reduced segments. -/
theorem Path.normalize_parse {t : Text} (h : IsAbsolutePath t) :
    (Path.parse t).normalize
      = ⟨if StartsDouble t then .doubleRoot else .root, reducedSegments t⟩ := by
  have habs : (Path.parse t).isAbsolute = true := h
  have hsegments : Path.cancel true (Path.parse t).segments = reducedSegments t :=
    Path.foldl_cancelStep_filter_isStep (pieces (.char '/') t) [] (by simp)
  rw [Path.normalize, habs, hsegments, ← ofText_of_isAbsolute h]
  rfl

/-! ## Canonical texts -/

theorem normalizePath_eq_canonicalText {t : Text} (h : IsAbsolutePath t) :
    normalizePath t = canonicalText t := by
  rw [normalizePath, Path.normalize_parse h, canonicalText]
  by_cases hdouble : StartsDouble t
  · rw [if_pos hdouble, if_pos hdouble]
    rfl
  · rw [if_neg hdouble, if_neg hdouble]
    rfl

/-- **Two absolute texts have one normal form** if and only if they reduce to
the same segments below the same root. -/
theorem normalizePath_eq_iff {p q : Text} (hp : IsAbsolutePath p) (hq : IsAbsolutePath q) :
    normalizePath p = normalizePath q
      ↔ reducedSegments p = reducedSegments q ∧ (StartsDouble p ↔ StartsDouble q) := by
  rw [normalizePath_eq_iff_normalize_eq, Path.normalize_parse hp, Path.normalize_parse hq,
    Path.mk.injEq, and_comm]
  refine and_congr Iff.rfl ?_
  by_cases hdp : StartsDouble p <;> by_cases hdq : StartsDouble q <;> simp [hdp, hdq]

/-- A path that was read from a text may be written again before normalizing. -/
theorem normalizePath_render_parse (t : Text) :
    normalizePath (Path.parse t).render = normalizePath t := by
  rw [normalizePath, Path.parse_render (Path.wellSpelled_parse t)]
  rfl

/-- **Normalization is a canonical form.** An absolute text is normalized to its
reduced segments, joined behind two slashes if it starts with exactly two and
behind one otherwise; a second time changes nothing; and two texts become the
same exactly if they have the same reduced segments and both or neither start
with exactly two slashes. A text taken from an absolute root becomes the
canonical form of the text itself when it is absolute, and of both texts joined
otherwise. Reading the texts as paths and writing these, before anything is
normalized, never changes the outcome. -/
theorem normalizePath_canonicalText {p q root : Text} (hp : IsAbsolutePath p)
    (hq : IsAbsolutePath q) (hroot : IsAbsolutePath root) (path : Text) :
    normalizePath p = canonicalText p
      ∧ normalizePath (normalizePath p) = normalizePath p
      ∧ (normalizePath p = normalizePath q
          ↔ reducedSegments p = reducedSegments q ∧ (StartsDouble p ↔ StartsDouble q))
      ∧ absolutizePath path root
          = canonicalText (if IsAbsolutePath path then path else joinText root path)
      ∧ normalizePath (Path.parse path).render = normalizePath path
      ∧ normalizePath ((Path.parse root).under (Path.parse path)).render
          = absolutizePath path root := by
  have hjoined : absolutizePath path root = normalizePath (spelledUnder root path) := by
    rw [normalizePath, parse_spelledUnder hroot]
    rfl
  have hwritten : normalizePath ((Path.parse root).under (Path.parse path)).render
      = absolutizePath path root := by
    rw [normalizePath,
      Path.parse_render ((Path.wellSpelled_parse root).under (Path.wellSpelled_parse path))]
    rfl
  refine ⟨normalizePath_eq_canonicalText hp, normalizePath_idem p, normalizePath_eq_iff hp hq,
    ?_, normalizePath_render_parse path, hwritten⟩
  rw [hjoined, normalizePath_eq_canonicalText (isAbsolutePath_spelledUnder hroot path)]
  rfl

/-- Two spellings of one path below the root that is written with two slashes,
and a path that climbs beyond the root that it is taken from. -/
theorem normalizePath_canonicalText_climbing :
    IsAbsolutePath "//a/..//../b/./c/" ∧ IsAbsolutePath "//b//c" ∧ IsAbsolutePath "/w/../r"
      ∧ normalizePath "//a/..//../b/./c/" = Text.ofString "//b/c"
      ∧ normalizePath "//a/..//../b/./c/" = normalizePath "//b//c"
      ∧ absolutizePath "x/..//../../y" "/w/../r" = Text.ofString "/y" := by
  have hp : IsAbsolutePath "//a/..//../b/./c/" := by decide
  have hq : IsAbsolutePath "//b//c" := by decide
  have hroot : IsAbsolutePath "/w/../r" := by decide
  obtain ⟨hform, -, hsame, htaken, -⟩ := normalizePath_canonicalText hp hq hroot "x/..//../../y"
  refine ⟨hp, hq, hroot, ?_, ?_, ?_⟩
  · rw [hform]
    decide
  · exact hsame.mpr ⟨by decide, by decide⟩
  · rw [htaken]
    decide

end Workspace
