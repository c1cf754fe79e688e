/-
Workspace.Proofs.Containment — directories, what lies in them, and depth.

`Path.Holds dir p` says that `p` goes on from `dir` by zero or more
segments; it is a partial order (`Holds.refl`, `Holds.trans`,
`Holds.antisymm`), and any two directories that hold the same path are
comparable (`Holds.comparable`). The test that the program runs decides it
(`isBelow_iff`), and the ancestors that a search visits are exactly the
directories that hold its start (`mem_chain_iff`): some that lie between, and
then those of any directory further out (`chain_eq_append`).

On texts, `IsAncestor` is the strict order between canonical paths and
`Covers root file` says that the file is the root itself or lies below it.
Depth is strictly monotone along ancestors (`IsAncestor.pathDepth_lt`), so
of two directories that cover one file the less deep one is the ancestor
(`Covers.eq_or_isAncestor`).
-/
import Workspace.Proofs.CanonicalPath

namespace Workspace

namespace Path

/-! ## The order of containment -/

/-- `p` is `dir` or goes on from it. -/
def Holds (dir p : Path) : Prop :=
  dir.anchor = p.anchor ∧ dir.segments <+: p.segments

/-- `p` goes on from `dir` by at least one segment. -/
def IsAbove (dir p : Path) : Prop :=
  dir.Holds p ∧ dir ≠ p

theorem Holds.refl (p : Path) : p.Holds p :=
  ⟨rfl, List.prefix_refl _⟩

theorem Holds.trans {p q r : Path} (h : p.Holds q) (h' : q.Holds r) : p.Holds r :=
  ⟨h.1.trans h'.1, h.2.trans h'.2⟩

/-- A directory and what it holds start at the same root, or at none. -/
theorem Holds.isAbsolute_eq {dir p : Path} (h : dir.Holds p) : dir.isAbsolute = p.isAbsolute := by
  rw [isAbsolute, isAbsolute, h.1]

/-- Nothing but the path itself holds a path and has as many segments. -/
theorem Holds.eq_of_length {p q : Path} (h : p.Holds q)
    (hlen : q.segments.length ≤ p.segments.length) : p = q := by
  obtain ⟨pa, ps⟩ := p
  obtain ⟨qa, qs⟩ := q
  obtain ⟨ha, hs⟩ := h
  have hseg : ps = qs := List.IsPrefix.eq_of_length_le hs hlen
  have hanchor : pa = qa := ha
  rw [hseg, hanchor]

theorem Holds.antisymm {p q : Path} (h : p.Holds q) (h' : q.Holds p) : p = q :=
  h.eq_of_length h'.2.length_le

/-- Of two directories that hold one path, the one with fewer segments holds
the other. -/
theorem Holds.of_length_le {a b p : Path} (ha : a.Holds p) (hb : b.Holds p)
    (hlen : a.segments.length ≤ b.segments.length) : a.Holds b :=
  ⟨ha.1.trans hb.1.symm, List.prefix_of_prefix_length_le ha.2 hb.2 hlen⟩

theorem Holds.comparable {a b p : Path} (ha : a.Holds p) (hb : b.Holds p) :
    a.Holds b ∨ b.Holds a := by
  rcases Nat.le_total a.segments.length b.segments.length with h | h
  · exact Or.inl (ha.of_length_le hb h)
  · exact Or.inr (hb.of_length_le ha h)

theorem IsAbove.length_lt {p q : Path} (h : p.IsAbove q) :
    p.segments.length < q.segments.length := by
  refine Nat.lt_of_not_le fun hle => ?_
  exact h.2 (h.1.eq_of_length hle)

/-- The program's test of containment decides the order. -/
theorem isBelow_iff {p dir : Path} : p.isBelow dir = true ↔ dir.Holds p := by
  simp only [isBelow, Bool.and_eq_true, decide_eq_true_eq, List.isPrefixOf_iff_prefix]
  exact and_congr eq_comm Iff.rfl

/-! ## The chain of ancestors -/

theorem mem_upward_iff {a : Anchor} {q : Path} :
    ∀ kept : List Text, q ∈ upward a kept ↔ q.Holds ⟨a, kept.reverse⟩
  | [] => by
    obtain ⟨qa, qs⟩ := q
    simp [upward, Holds]
  | s :: rest => by
    obtain ⟨qa, qs⟩ := q
    have ih := mem_upward_iff (a := a) (q := ⟨qa, qs⟩) rest
    simp only [upward, List.mem_cons, ih, Holds, mk.injEq, List.reverse_cons,
      List.prefix_concat_iff]
    exact and_or_left.symm

/-- **The ancestors of a path are the directories that hold it.** -/
theorem mem_chain_iff {p q : Path} : q ∈ p.chain ↔ q.Holds p := by
  rw [chain, mem_upward_iff, List.reverse_reverse]

/-- Going up, the number of segments falls by one at a time to zero. -/
theorem map_length_upward (a : Anchor) :
    ∀ kept : List Text, (upward a kept).map (fun p => p.segments.length)
      = (List.range (kept.length + 1)).reverse
  | [] => rfl
  | s :: rest => by
    rw [List.length_cons, List.range_succ, List.reverse_concat, ← map_length_upward a rest,
      upward, List.map_cons, List.length_reverse, List.length_cons]

theorem map_length_chain (p : Path) :
    p.chain.map (fun d => d.segments.length) = (List.range (p.segments.length + 1)).reverse := by
  rw [chain, map_length_upward, List.length_reverse]

/-- Each ancestor has fewer segments than those before it. -/
theorem pairwise_chain (p : Path) :
    p.chain.Pairwise fun q r => r.segments.length < q.segments.length := by
  have hfalling : (p.chain.map fun d => d.segments.length).Pairwise (· > ·) := by
    rw [map_length_chain, List.pairwise_reverse]
    exact List.pairwise_lt_range
  exact List.pairwise_map.mp hfalling

/-- More segments put more directories in front. -/
theorem upward_append (a : Anchor) (kept : List Text) :
    ∀ later : List Text, ∃ between, upward a (later ++ kept) = between ++ upward a kept
      ∧ ∀ d ∈ between, kept.length < d.segments.length
  | [] => ⟨[], rfl, by simp⟩
  | s :: later => by
    obtain ⟨between, heq, hlonger⟩ := upward_append a kept later
    refine ⟨⟨a, (s :: later ++ kept).reverse⟩ :: between, ?_, ?_⟩
    · rw [List.cons_append, upward, heq]
      rfl
    · simp only [List.forall_mem_cons]
      refine ⟨?_, hlonger⟩
      simp only [List.length_reverse, List.length_append, List.length_cons]
      omega

/-- **The chain of a path is that of any directory that holds it, behind the
directories in between.** -/
theorem chain_eq_append {dir p : Path} (h : dir.Holds p) :
    ∃ between, p.chain = between ++ dir.chain ∧ ∀ d ∈ between, dir.IsAbove d ∧ d.Holds p := by
  obtain ⟨rest, hrest⟩ := h.2
  obtain ⟨between, heq, hlonger⟩ :=
    upward_append p.anchor dir.segments.reverse rest.reverse
  have hchain : p.chain = between ++ dir.chain := by
    rw [chain, chain, ← hrest, List.reverse_append, heq, h.1]
  refine ⟨between, hchain, fun d hd => ?_⟩
  have hholds : d.Holds p := mem_chain_iff.mp (hchain ▸ List.mem_append_left _ hd)
  have hlen : dir.segments.length < d.segments.length := by
    simpa using hlonger d hd
  refine ⟨⟨h.of_length_le hholds (Nat.le_of_lt hlen), ?_⟩, hholds⟩
  rintro rfl
  exact absurd hlen (Nat.lt_irrefl _)

/-- What was kept below a canonical path is canonical. -/
theorem Canonical.of_holds {dir p : Path} (h : p.Canonical) (hd : dir.Holds p) :
    dir.Canonical where
  wellSpelled := fun s hs => h.wellSpelled s (hd.2.subset hs)
  settled := by
    obtain ⟨rest, hrest⟩ := hd.2
    have hs : Settled p.isAbsolute p.segments.reverse := h.settled
    rw [← hrest, List.reverse_append] at hs
    rw [hd.isAbsolute_eq]
    exact Settled.of_append _ hs

end Path

/-! ## Path texts -/

/-- `dir` is a proper ancestor of `p`; both are canonical texts. -/
def IsAncestor (dir p : Text) : Prop :=
  (Path.parse dir).IsAbove (Path.parse p)

/-- The file is the directory `root` or has it among its ancestors. -/
def Covers (root file : Text) : Prop :=
  root = normalizePath file ∨ IsAncestor root (normalizePath file)

/-- Canonical texts are equal when their paths are. -/
theorem IsCanonical.parse_injective {s t : Text} (hs : IsCanonical s) (ht : IsCanonical t)
    (h : Path.parse s = Path.parse t) : s = t := by
  rw [← hs.render_parse, ← ht.render_parse, h]

/-- A proper ancestor is less deep. -/
theorem IsAncestor.pathDepth_lt {s t : Text} (hs : IsCanonical s) (ht : IsCanonical t)
    (h : IsAncestor s t) : pathDepth s < pathDepth t := by
  rw [hs.pathDepth_eq, ht.pathDepth_eq]
  exact Path.IsAbove.length_lt h

theorem IsCanonical.eq_or_isAncestor_of_holds {s t : Text} (hs : IsCanonical s)
    (ht : IsCanonical t) (h : (Path.parse s).Holds (Path.parse t)) : s = t ∨ IsAncestor s t := by
  by_cases heq : Path.parse s = Path.parse t
  · exact Or.inl (hs.parse_injective ht heq)
  · exact Or.inr ⟨h, heq⟩

/-- The file that a canonical root covers goes on from it. -/
theorem IsCanonical.covers_iff {root : Text} (hr : IsCanonical root) (file : Text) :
    Covers root file ↔ (Path.parse root).Holds (Path.parse file).normalize := by
  rw [Covers, IsAncestor, parse_normalizePath]
  constructor
  · rintro (h | h)
    · rw [h, parse_normalizePath]
      exact Path.Holds.refl _
    · exact h.1
  · intro h
    by_cases heq : Path.parse root = (Path.parse file).normalize
    · left
      rw [← hr.render_parse, heq]
      rfl
    · exact Or.inr ⟨h, heq⟩

/-- The program's test of containment compares normal forms. -/
theorem isPathWithin_iff_holds {path root : Text} :
    isPathWithin path root = true
      ↔ (Path.parse root).normalize.Holds (Path.parse path).normalize :=
  Path.isBelow_iff

/-- **The program's test of containment says which files a root covers.** -/
theorem isPathWithin_iff_covers {root : Text} (hr : IsCanonical root) (file : Text) :
    isPathWithin (normalizePath file) root = true ↔ Covers root file := by
  rw [hr.covers_iff, isPathWithin_iff_holds, parse_normalizePath, Path.normalize_normalize,
    hr.canonical_parse.normalize_eq]

/-- Of two roots that cover one file, the one that is not deeper is the other
one or its ancestor. -/
theorem Covers.eq_or_isAncestor {r s file : Text} (hr : IsCanonical r) (hs : IsCanonical s)
    (h : Covers r file) (h' : Covers s file) (hdepth : pathDepth r ≤ pathDepth s) :
    r = s ∨ IsAncestor r s := by
  rw [hr.pathDepth_eq, hs.pathDepth_eq] at hdepth
  rw [hr.covers_iff] at h
  rw [hs.covers_iff] at h'
  exact hr.eq_or_isAncestor_of_holds hs (h.of_length_le h' hdepth)

end Workspace
