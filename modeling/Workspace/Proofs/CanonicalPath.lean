/-
Workspace.Proofs.CanonicalPath — normalization yields canonical paths and
leaves them alone.

A list of kept segments is `Settled` when `..` stands in it only where
nothing is left to cancel: nowhere below a root, and only at the start of a
relative path. Every step of the cancellation keeps that
(`settled_cancelStep`), and a settled list is not changed by cancelling
(`cancel_of_settled`). So `Path.Canonical` — well spelled and settled — is
at once what `Path.normalize` produces and what it fixes.

On texts this reads `normalizePath_idem` and, for absolute paths,
`IsCanonical`: an absolute text that is its own normal form. The two ways in
which a path enters a resolved configuration both end there
(`isCanonical_normalizePath`, `isCanonical_absolutizePath`).
-/
import Workspace.Proofs.PathSpelling

namespace Workspace

namespace Path

/-! ## Settled lists of kept segments -/

/-- In a list of kept segments, last one first, `..` stands at the far end of
a relative path or not at all. -/
def Settled (absolute : Bool) : List Text → Prop
  | [] => True
  | s :: before =>
    (s = parentStep → absolute = false ∧ ∀ k ∈ before, k = parentStep) ∧ Settled absolute before

/-- What was kept before is settled on its own. -/
theorem Settled.of_append {absolute : Bool} {kept : List Text} :
    ∀ (later : List Text), Settled absolute (later ++ kept) → Settled absolute kept
  | [], h => h
  | _ :: later, h => Settled.of_append later h.2

/-- One more segment leaves the kept ones settled. -/
theorem settled_cancelStep {absolute : Bool} {kept : List Text} (h : Settled absolute kept)
    (s : Text) : Settled absolute (cancelStep absolute kept s) := by
  unfold cancelStep
  split
  · cases kept with
    | nil => cases absolute <;> simp [Settled]
    | cons last before =>
      by_cases hlast : last = parentStep
      · obtain ⟨hrel, hall⟩ := h.1 hlast
        simp only [if_pos hlast]
        refine ⟨fun _ => ⟨hrel, ?_⟩, h⟩
        intro k hk
        rcases List.mem_cons.mp hk with rfl | hk
        · exact hlast
        · exact hall k hk
      · simp only [if_neg hlast]
        exact h.2
  · next hs => exact ⟨fun e => absurd e hs, h⟩

theorem settled_foldl_cancelStep (absolute : Bool) :
    ∀ (segments kept : List Text), Settled absolute kept →
      Settled absolute (segments.foldl (cancelStep absolute) kept)
  | [], _, h => h
  | s :: rest, kept, h => by
    rw [List.foldl_cons]
    exact settled_foldl_cancelStep absolute rest _ (settled_cancelStep h s)

/-- A segment that may stand on top of the kept ones is put there. -/
theorem cancelStep_of_settled {absolute : Bool} {kept : List Text} {s : Text}
    (h : Settled absolute (s :: kept)) : cancelStep absolute kept s = s :: kept := by
  unfold cancelStep
  split
  · next hs =>
    subst hs
    obtain ⟨hrel, hall⟩ := h.1 rfl
    cases kept with
    | nil => simp [hrel]
    | cons last before => simp [hall last (by simp)]
  · rfl

theorem foldl_cancelStep_of_settled {absolute : Bool} :
    ∀ {segments kept : List Text}, Settled absolute (segments.reverse ++ kept) →
      segments.foldl (cancelStep absolute) kept = segments.reverse ++ kept
  | [], _, _ => rfl
  | s :: rest, kept, h => by
    have hsplit : (s :: rest).reverse ++ kept = rest.reverse ++ (s :: kept) := by simp
    rw [hsplit] at h ⊢
    rw [List.foldl_cons, cancelStep_of_settled (Settled.of_append _ h),
      foldl_cancelStep_of_settled h]

theorem cancel_of_settled {absolute : Bool} {segments : List Text}
    (h : Settled absolute segments.reverse) : cancel absolute segments = segments := by
  rw [cancel, foldl_cancelStep_of_settled (by simpa using h)]
  simp

/-- A kept segment is one of those that were gone through, or `..` itself. -/
theorem mem_cancelStep {absolute : Bool} {kept : List Text} {s x : Text}
    (h : x ∈ cancelStep absolute kept s) : x ∈ s :: kept := by
  unfold cancelStep at h
  split at h
  · next hs =>
    subst hs
    split at h
    · split at h <;> simp_all
    · split at h <;> simp_all
  · exact h

theorem mem_foldl_cancelStep {absolute : Bool} {x : Text} :
    ∀ {segments kept : List Text}, x ∈ segments.foldl (cancelStep absolute) kept →
      x ∈ segments ∨ x ∈ kept
  | [], _, h => Or.inr h
  | s :: rest, kept, h => by
    rw [List.foldl_cons] at h
    rcases mem_foldl_cancelStep h with h | h
    · exact Or.inl (List.mem_cons_of_mem _ h)
    · rcases List.mem_cons.mp (mem_cancelStep h) with rfl | h
      · exact Or.inl (by simp)
      · exact Or.inr h

/-- Cancelling brings in no segment. -/
theorem mem_of_mem_cancel {absolute : Bool} {segments : List Text} {x : Text}
    (h : x ∈ cancel absolute segments) : x ∈ segments := by
  rw [cancel, List.mem_reverse] at h
  simpa using mem_foldl_cancelStep h

/-! ## Canonical paths -/

/-- A path that normalization has nothing to do with. -/
structure Canonical (p : Path) : Prop where
  wellSpelled : p.WellSpelled
  settled : Settled p.isAbsolute p.segments.reverse

theorem settled_normalize (p : Path) : Settled p.isAbsolute p.normalize.segments.reverse := by
  rw [normalize, cancel, List.reverse_reverse]
  exact settled_foldl_cancelStep _ _ _ trivial

theorem normalize_normalize (p : Path) : p.normalize.normalize = p.normalize := by
  show ({ p with segments := cancel p.isAbsolute p.normalize.segments } : Path) = _
  rw [cancel_of_settled p.settled_normalize]
  rfl

theorem canonical_normalize {p : Path} (h : p.WellSpelled) : p.normalize.Canonical where
  wellSpelled := fun s hs => h s (mem_of_mem_cancel hs)
  settled := p.settled_normalize

theorem Canonical.normalize_eq {p : Path} (h : p.Canonical) : p.normalize = p := by
  rw [normalize, cancel_of_settled h.settled]

/-- The parent of a canonical path is canonical. -/
theorem Canonical.dropLast {p : Path} (h : p.Canonical) :
    ({ p with segments := p.segments.dropLast } : Path).Canonical where
  wellSpelled := fun s hs => h.wellSpelled s ((List.dropLast_sublist _).subset hs)
  settled := by
    show Settled p.isAbsolute p.segments.dropLast.reverse
    rw [← List.tail_reverse]
    cases hr : p.segments.reverse with
    | nil => trivial
    | cons last before =>
      have hs := h.settled
      rw [hr] at hs
      exact hs.2

end Path

/-! ## Path texts -/

/-- The path does not depend on the current directory. -/
def IsAbsolutePath (t : Text) : Prop :=
  (Path.parse t).isAbsolute = true

instance (t : Text) : Decidable (IsAbsolutePath t) :=
  inferInstanceAs (Decidable (_ = true))

/-- An absolute path text that is its own normal form. -/
structure IsCanonical (t : Text) : Prop where
  isAbsolute : IsAbsolutePath t
  normalizePath_eq : normalizePath t = t

/-- The path that an absolutized text spells. -/
theorem parse_absolutizePath (path root : Text) :
    Path.parse (absolutizePath path root)
      = ((Path.parse root).under (Path.parse path)).normalize :=
  Path.parse_render (Path.canonical_normalize
    ((Path.wellSpelled_parse root).under (Path.wellSpelled_parse path))).wellSpelled

/-- An absolutized text is the text of the path that it spells. -/
theorem render_parse_absolutizePath (path root : Text) :
    (Path.parse (absolutizePath path root)).render = absolutizePath path root := by
  rw [parse_absolutizePath]
  rfl

theorem parse_normalizePath (t : Text) :
    Path.parse (normalizePath t) = (Path.parse t).normalize :=
  Path.parse_render (Path.canonical_normalize (Path.wellSpelled_parse t)).wellSpelled

/-- Texts have one normal form when the paths that they spell have one. -/
theorem normalizePath_eq_iff_normalize_eq {s t : Text} :
    normalizePath s = normalizePath t ↔ (Path.parse s).normalize = (Path.parse t).normalize := by
  constructor
  · intro h
    rw [← parse_normalizePath, ← parse_normalizePath, h]
  · intro h
    rw [normalizePath, normalizePath, h]

/-- The text of a canonical path is its own normal form. -/
theorem normalizePath_render {p : Path} (h : p.Canonical) : normalizePath p.render = p.render := by
  rw [normalizePath, Path.parse_render h.wellSpelled, h.normalize_eq]

/-- **Normalizing a second time changes nothing.** -/
theorem normalizePath_idem (t : Text) : normalizePath (normalizePath t) = normalizePath t :=
  normalizePath_render (Path.canonical_normalize (Path.wellSpelled_parse t))

/-- An absolute path stands for itself wherever it is seen from. -/
theorem absolutizePath_of_isAbsolute {path : Text} (h : IsAbsolutePath path) (root : Text) :
    absolutizePath path root = normalizePath path := by
  have hpath : (Path.parse path).isAbsolute = true := h
  rw [absolutizePath, Path.under, if_pos hpath]
  rfl

theorem isAbsolutePath_normalizePath {t : Text} :
    IsAbsolutePath (normalizePath t) ↔ IsAbsolutePath t := by
  rw [IsAbsolutePath, parse_normalizePath]
  rfl

theorem isAbsolutePath_absolutizePath {root : Text} (h : IsAbsolutePath root) (path : Text) :
    IsAbsolutePath (absolutizePath path root) := by
  rw [IsAbsolutePath, parse_absolutizePath]
  show ((Path.parse root).under (Path.parse path)).isAbsolute = true
  unfold Path.under
  split
  · assumption
  · exact h

theorem isCanonical_render {p : Path} (h : p.Canonical) (habs : p.isAbsolute = true) :
    IsCanonical p.render where
  isAbsolute := by rw [IsAbsolutePath, Path.parse_render h.wellSpelled, habs]
  normalizePath_eq := normalizePath_render h

theorem isCanonical_normalizePath {t : Text} (h : IsAbsolutePath t) :
    IsCanonical (normalizePath t) :=
  ⟨isAbsolutePath_normalizePath.mpr h, normalizePath_idem t⟩

theorem isCanonical_absolutizePath {root : Text} (h : IsAbsolutePath root) (path : Text) :
    IsCanonical (absolutizePath path root) where
  isAbsolute := isAbsolutePath_absolutizePath h path
  normalizePath_eq := normalizePath_render (Path.canonical_normalize
    ((Path.wellSpelled_parse root).under (Path.wellSpelled_parse path)))

/-- A canonical path spells a canonical path. -/
theorem IsCanonical.canonical_parse {t : Text} (h : IsCanonical t) :
    (Path.parse t).Canonical := by
  rw [← h.normalizePath_eq, parse_normalizePath]
  exact Path.canonical_normalize (Path.wellSpelled_parse t)

/-- A canonical text is the text of the path that it spells. -/
theorem IsCanonical.render_parse {t : Text} (h : IsCanonical t) : (Path.parse t).render = t := by
  have hnorm : (Path.parse t).normalize.render = t := h.normalizePath_eq
  rwa [h.canonical_parse.normalize_eq] at hnorm

theorem IsCanonical.absolutizePath_eq {t : Text} (h : IsCanonical t) (root : Text) :
    absolutizePath t root = t := by
  rw [absolutizePath_of_isAbsolute h.isAbsolute, h.normalizePath_eq]

/-- The depth of a canonical path is its number of segments. -/
theorem IsCanonical.pathDepth_eq {t : Text} (h : IsCanonical t) :
    pathDepth t = (Path.parse t).segments.length := by
  have hdepth := Path.pathDepth_render (Path.wellSpelled_parse t) (Or.inl h.isAbsolute)
  rwa [h.render_parse] at hdepth

/-- The depth of a normal form is the number of segments that are left. -/
theorem pathDepth_normalizePath {t : Text} (h : IsAbsolutePath t) :
    pathDepth (normalizePath t) = (Path.parse t).normalize.segments.length := by
  rw [(isCanonical_normalizePath h).pathDepth_eq, parse_normalizePath]

end Workspace
