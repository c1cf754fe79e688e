/-
Workspace.Proofs.NestingDepth — depth measures how far a path is nested.

The depth of a text counts what stands between its slashes, and containment
compares segments. Between normal forms the two agree: what lies strictly
inside a directory is deeper than it, and a path lies within at most one
directory of each depth (`Path.Holds.eq_of_length`).

A text may be deeper than its normal form, never less deep. Each step of the
reduction keeps at most the piece that it goes over, and no `.` and no `..`,
which the depth counts: so the segments that are kept, together with these, are
no more than the pieces that count (`length_reduceOnto_add_le`). Without them
nothing but empty pieces is dropped (`reduceOnto_of_forall`), so the depths are
equal just when there are none (`pathDepth_normalizePath_eq_iff`).
-/
import Workspace.Proofs.ContainmentOrder
import Workspace.Proofs.ReducedSegments

namespace Workspace

open Text (pieces)

/-! ## Depth of nested directories -/

/-- What lies strictly inside a directory is deeper than it. -/
theorem pathDepth_lt_of_isPathWithin {p q : Text} (hp : IsAbsolutePath p)
    (hwithin : isPathWithin p q = true) (hne : normalizePath p ≠ normalizePath q) :
    pathDepth (normalizePath q) < pathDepth (normalizePath p) := by
  have hq := isAbsolutePath_of_isPathWithin hp hwithin
  rw [pathDepth_normalizePath hp, pathDepth_normalizePath hq]
  refine Path.IsAbove.length_lt ⟨isPathWithin_iff_holds.mp hwithin, fun heq => ?_⟩
  exact hne (normalizePath_eq_iff_normalize_eq.mpr heq.symm)

/-- A path lies within at most one directory of each depth. -/
theorem normalizePath_eq_of_pathDepth_eq {p q r : Text} (hp : IsAbsolutePath p)
    (hq : isPathWithin p q = true) (hr : isPathWithin p r = true)
    (hdepth : pathDepth (normalizePath q) = pathDepth (normalizePath r)) :
    normalizePath q = normalizePath r := by
  rw [pathDepth_normalizePath (isAbsolutePath_of_isPathWithin hp hq),
    pathDepth_normalizePath (isAbsolutePath_of_isPathWithin hp hr)] at hdepth
  rw [isPathWithin_iff_holds] at hq hr
  have hholds := hq.of_length_le hr (Nat.le_of_eq hdepth)
  exact normalizePath_eq_iff_normalize_eq.mpr (hholds.eq_of_length (Nat.le_of_eq hdepth.symm))

/-! ## Depth before and after normalizing -/

/-- The piece is `.` or `..`. -/
def isDots (s : Text) : Bool :=
  s = [.char '.'] || s = [.char '.', .char '.']

/-- Somewhere between the slashes of the text stands `.` or `..`. -/
def HasDots (t : Text) : Prop :=
  ∃ s ∈ pieces (.char '/') t, isDots s = true

instance (t : Text) : Decidable (HasDots t) :=
  inferInstanceAs (Decidable (∃ s ∈ _, _ = true))

/-- **The reduction keeps at most one segment for each piece that counts**, and
none for `.` and `..`. -/
theorem length_reduceOnto_add_le :
    ∀ ps kept : List Text, (reduceOnto kept ps).length + ps.countP isDots
      ≤ kept.length + (ps.filter (· ≠ [])).length
  | [], kept => by simp [reduceOnto]
  | s :: rest, kept => by
    by_cases hnil : s = []
    · have ih := length_reduceOnto_add_le rest kept
      simpa [reduceOnto, hnil, isDots] using ih
    · rw [reduceOnto, List.filter_cons_of_pos (by simpa using hnil), List.length_cons]
      by_cases hdot : s = [.char '.']
      · have ih := length_reduceOnto_add_le rest kept
        rw [if_pos (Or.inr hdot), List.countP_cons_of_pos (by simp [isDots, hdot])]
        omega
      · rw [if_neg (not_or.mpr ⟨hnil, hdot⟩)]
        by_cases hparent : s = [.char '.', .char '.']
        · -- at the root there is nothing to take away
          have ih := length_reduceOnto_add_le rest kept.tail
          have htail : kept.tail.length ≤ kept.length := by simp
          rw [if_pos hparent, List.countP_cons_of_pos (by simp [isDots, hparent])]
          omega
        · have ih := length_reduceOnto_add_le rest (s :: kept)
          rw [if_neg hparent, List.countP_cons_of_neg (by simp [isDots, hdot, hparent])]
          rw [List.length_cons] at ih
          omega

/-- Where there is no `.` and no `..`, the reduction drops the empty pieces only. -/
theorem reduceOnto_of_forall :
    ∀ ps kept : List Text, (∀ s ∈ ps, isDots s = false) →
      reduceOnto kept ps = kept.reverse ++ ps.filter (· ≠ [])
  | [], kept, _ => by simp [reduceOnto]
  | s :: rest, kept, h => by
    obtain ⟨hs, hrest⟩ := List.forall_mem_cons.mp h
    by_cases hnil : s = []
    · rw [reduceOnto, if_pos (Or.inl hnil), reduceOnto_of_forall rest kept hrest,
        List.filter_cons_of_neg (by simp [hnil])]
    · obtain ⟨hdot, hparent⟩ : s ≠ [.char '.'] ∧ s ≠ [.char '.', .char '.'] := by
        simpa [isDots] using hs
      rw [reduceOnto, if_neg (not_or.mpr ⟨hnil, hdot⟩), if_neg hparent,
        reduceOnto_of_forall rest (s :: kept) hrest, List.filter_cons_of_pos (by simpa using hnil),
        List.reverse_cons, List.append_assoc, List.singleton_append]

/-- The depth of a normal form is the number of reduced segments. -/
theorem pathDepth_normalizePath_eq_length {t : Text} (h : IsAbsolutePath t) :
    pathDepth (normalizePath t) = (reducedSegments t).length := by
  rw [pathDepth_normalizePath h, Path.normalize_parse h]

/-- Normalizing takes at least the `.` and `..` away from the depth. -/
theorem pathDepth_normalizePath_add_le {t : Text} (h : IsAbsolutePath t) :
    pathDepth (normalizePath t) + (pieces (.char '/') t).countP isDots ≤ pathDepth t := by
  have hle := length_reduceOnto_add_le (pieces (.char '/') t) []
  rw [List.length_nil, Nat.zero_add] at hle
  rw [pathDepth_normalizePath_eq_length h]
  exact hle

/-- **Normalizing leaves the depth alone** just when there is no `.` and no `..`. -/
theorem pathDepth_normalizePath_eq_iff {t : Text} (h : IsAbsolutePath t) :
    pathDepth (normalizePath t) = pathDepth t ↔ ¬HasDots t := by
  constructor
  · rintro heq ⟨s, hs, hdots⟩
    have hle := pathDepth_normalizePath_add_le h
    have hpos : 0 < (pieces (.char '/') t).countP isDots :=
      List.countP_pos_iff.mpr ⟨s, hs, hdots⟩
    omega
  · intro hnone
    have hall : ∀ s ∈ pieces (.char '/') t, isDots s = false := fun s hs =>
      Bool.eq_false_iff.mpr fun hdots => hnone ⟨s, hs, hdots⟩
    rw [pathDepth_normalizePath_eq_length h, reducedSegments, reduceOnto_of_forall _ _ hall,
      List.reverse_nil, List.nil_append, pathDepth]

/-- **Depth measures nesting.** What an absolute path lies strictly within is less
deep than it, and of the directories that it lies within no two have the same
depth, all taken as normal forms. The normal form itself is at most as deep as the
path was spelled, and equally deep just when no `.` and no `..` was spelled. -/
theorem pathDepth_of_isPathWithin {p : Text} (hp : IsAbsolutePath p) :
    (∀ q : Text, isPathWithin p q = true → normalizePath p ≠ normalizePath q →
        pathDepth (normalizePath q) < pathDepth (normalizePath p))
      ∧ (∀ q r : Text, isPathWithin p q = true → isPathWithin p r = true →
          pathDepth (normalizePath q) = pathDepth (normalizePath r) →
          normalizePath q = normalizePath r)
      ∧ pathDepth (normalizePath p) ≤ pathDepth p
      ∧ (pathDepth (normalizePath p) = pathDepth p ↔ ¬HasDots p) := by
  refine ⟨fun q => pathDepth_lt_of_isPathWithin hp, fun q r => normalizePath_eq_of_pathDepth_eq hp,
    ?_, pathDepth_normalizePath_eq_iff hp⟩
  have hle := pathDepth_normalizePath_add_le hp
  omega

/-- A path that climbs past the root and goes down again, and two spellings of a
directory that it lies within. One of them is spelled deeper than the path is, so
depth measures nesting between normal forms only. -/
theorem pathDepth_of_isPathWithin_climbing :
    IsAbsolutePath "/../a/./..//w/x"
      ∧ isPathWithin "/../a/./..//w/x" "/w/." = true
      ∧ isPathWithin "/../a/./..//w/x" "/x/../w" = true
      ∧ pathDepth (normalizePath "/w/.") < pathDepth (normalizePath "/../a/./..//w/x")
      ∧ normalizePath "/w/." = normalizePath "/x/../w"
      ∧ pathDepth (normalizePath "/../a/./..//w/x") < pathDepth "/x/../w"
      ∧ pathDepth (normalizePath "/../a/./..//w/x") ≤ pathDepth "/../a/./..//w/x"
      ∧ pathDepth (normalizePath "/../a/./..//w/x") ≠ pathDepth "/../a/./..//w/x" := by
  have hp : IsAbsolutePath "/../a/./..//w/x" := by decide
  have hq : isPathWithin "/../a/./..//w/x" "/w/." = true := by decide
  have hr : isPathWithin "/../a/./..//w/x" "/x/../w" = true := by decide
  obtain ⟨hdeeper, hunique, hle, hequal⟩ := pathDepth_of_isPathWithin hp
  refine ⟨hp, hq, hr, hdeeper _ hq (by decide), hunique _ _ hq hr (by decide), by decide,
    hle, ?_⟩
  exact fun heq => hequal.mp heq (by decide)

end Workspace
