/-
Workspace.Proofs.ContainmentOrder — containment is a partial order of path
texts, and what a text lies within is what a search from it visits.

Containment is tested on normal forms, a search lists directories, and depth
counts what stands between slashes. Here the three are tied together.
`searchTexts` is the list that a search goes through, as texts; when the start
is absolute, a text stands in it just when it is canonical and the start lies
within it (`mem_searchTexts_iff`).

The list ascends (`ascendsFrom_searchTexts`): its depths are the numbers from
that of the start down to 0, each once. From any of its directories on, it is
the list of a search that starts there (`searchTexts_eq_dropWhile`), wherever
the program runs.
-/
import Workspace.Proofs.SearchChain

namespace Workspace

/-! ## The order of texts -/

theorem isPathWithin_refl (p : Text) : isPathWithin p p = true :=
  isPathWithin_iff_holds.mpr (Path.Holds.refl _)

theorem isPathWithin_trans {p q r : Text} (hpq : isPathWithin p q = true)
    (hqr : isPathWithin q r = true) : isPathWithin p r = true := by
  rw [isPathWithin_iff_holds] at hpq hqr ⊢
  exact hqr.trans hpq

/-- Two texts lie within each other just when they are spellings of one path. -/
theorem isPathWithin_both_iff {p q : Text} :
    (isPathWithin p q = true ∧ isPathWithin q p = true) ↔ normalizePath p = normalizePath q := by
  rw [isPathWithin_iff_holds, isPathWithin_iff_holds, normalizePath_eq_iff_normalize_eq]
  constructor
  · rintro ⟨hqp, hpq⟩
    exact hpq.antisymm hqp
  · intro h
    rw [h]
    exact ⟨Path.Holds.refl _, Path.Holds.refl _⟩

/-- What an absolute path lies within is absolute. -/
theorem isAbsolutePath_of_isPathWithin {p dir : Text} (hp : IsAbsolutePath p)
    (h : isPathWithin p dir = true) : IsAbsolutePath dir := by
  have hsame : (Path.parse dir).isAbsolute = (Path.parse p).isAbsolute :=
    (isPathWithin_iff_holds.mp h).isAbsolute_eq
  exact hsame.trans hp

/-! ## The texts of a search -/

/-- The directories that a search visits, as texts, nearest first. -/
def searchTexts (currentDirectory start : Text) : List Text :=
  (searchDirs currentDirectory start).map Path.render

/-- The texts go up from `start` to a root, one level at a time. -/
structure AscendsFrom (start : Text) (dirs : List Text) : Prop where
  length_eq : dirs.length = pathDepth (normalizePath start) + 1
  nodup : dirs.Nodup
  canonical : ∀ dir ∈ dirs, IsCanonical dir
  depths : dirs.map pathDepth = (List.range dirs.length).reverse

section

-- an absolute start is searched in the same way wherever the program runs
variable {start : Text} (hstart : IsAbsolutePath start) (currentDirectory : Text)

include hstart

theorem searchTexts_of_isAbsolute :
    searchTexts currentDirectory start = (Path.parse start).normalize.chain.map Path.render := by
  rw [searchTexts, searchDirs_eq, searchStart_of_isAbsolute hstart]

/-- What holds the normal form of the start is a canonical path below a root. -/
theorem canonical_of_mem_chain {dir : Path} (h : dir ∈ (Path.parse start).normalize.chain) :
    dir.Canonical ∧ dir.isAbsolute = true := by
  have hholds : dir.Holds (Path.parse start).normalize := Path.mem_chain_iff.mp h
  exact ⟨(Path.canonical_normalize (Path.wellSpelled_parse start)).of_holds hholds,
    hholds.isAbsolute_eq.trans hstart⟩

/-- **A search visits the canonical directories that the start lies within.** -/
theorem mem_searchTexts_iff {dir : Text} :
    dir ∈ searchTexts currentDirectory start
      ↔ IsCanonical dir ∧ isPathWithin start dir = true := by
  rw [searchTexts_of_isAbsolute hstart, List.mem_map, isPathWithin_iff_holds]
  constructor
  · rintro ⟨d, hd, rfl⟩
    obtain ⟨hcanonical, habs⟩ := canonical_of_mem_chain hstart hd
    rw [Path.parse_render hcanonical.wellSpelled, hcanonical.normalize_eq]
    exact ⟨isCanonical_render hcanonical habs, Path.mem_chain_iff.mp hd⟩
  · rintro ⟨hcanonical, hholds⟩
    rw [hcanonical.canonical_parse.normalize_eq] at hholds
    exact ⟨Path.parse dir, Path.mem_chain_iff.mpr hholds, hcanonical.render_parse⟩

theorem normalizePath_mem_searchTexts_iff {dir : Text} :
    normalizePath dir ∈ searchTexts currentDirectory start ↔ isPathWithin start dir = true := by
  have hsame : isPathWithin start (normalizePath dir) = isPathWithin start dir := by
    rw [isPathWithin, isPathWithin, parse_normalizePath, Path.normalize_normalize]
  rw [mem_searchTexts_iff hstart, hsame, and_iff_right_iff_imp]
  exact fun h => isCanonical_normalizePath (isAbsolutePath_of_isPathWithin hstart h)

/-- The depths of the directories are the numbers of their segments. -/
theorem map_pathDepth_searchTexts :
    (searchTexts currentDirectory start).map pathDepth
      = (List.range (pathDepth (normalizePath start) + 1)).reverse := by
  have hdepth : ∀ dir ∈ (Path.parse start).normalize.chain,
      (pathDepth ∘ Path.render) dir = dir.segments.length := by
    intro dir hdir
    obtain ⟨hcanonical, habs⟩ := canonical_of_mem_chain hstart hdir
    exact Path.pathDepth_render hcanonical.wellSpelled (Or.inl habs)
  rw [searchTexts_of_isAbsolute hstart, List.map_map, List.map_congr_left hdepth,
    Path.map_length_chain, pathDepth_normalizePath hstart]

theorem ascendsFrom_searchTexts : AscendsFrom start (searchTexts currentDirectory start) := by
  have hdepths := map_pathDepth_searchTexts hstart currentDirectory
  have hlength : (searchTexts currentDirectory start).length
      = pathDepth (normalizePath start) + 1 := by
    simpa using congrArg List.length hdepths
  refine ⟨hlength, ?_, fun dir hdir => ((mem_searchTexts_iff hstart _).mp hdir).1, ?_⟩
  · -- a text that stood in two places would spell paths of different lengths
    rw [searchTexts_of_isAbsolute hstart, List.Nodup, List.pairwise_map]
    refine (Path.pairwise_chain _).imp_of_mem ?_
    intro a b ha hb hlt heq
    have hparse := congrArg Path.parse heq
    rw [Path.parse_render (canonical_of_mem_chain hstart ha).1.wellSpelled,
      Path.parse_render (canonical_of_mem_chain hstart hb).1.wellSpelled] at hparse
    subst hparse
    exact Nat.lt_irrefl _ hlt
  · rw [hlength, hdepths]

/-- **A search from a directory that is visited goes on as this one does.** -/
theorem searchTexts_eq_dropWhile (elsewhere : Text) {dir : Text}
    (hdir : dir ∈ searchTexts currentDirectory start) :
    searchTexts elsewhere dir
      = (searchTexts currentDirectory start).dropWhile fun other => other ≠ dir := by
  obtain ⟨hcanonical, hwithin⟩ := (mem_searchTexts_iff hstart _).mp hdir
  have hnormal := hcanonical.canonical_parse.normalize_eq
  rw [isPathWithin_iff_holds, hnormal] at hwithin
  obtain ⟨between, hchain, hbetween⟩ := Path.chain_eq_append hwithin
  -- the directories in between lie strictly inside `dir`
  have hpassed : ∀ other ∈ between.map Path.render, decide (other ≠ dir) = true := by
    intro other hother
    obtain ⟨d, hd, rfl⟩ := List.mem_map.mp hother
    have hmem : d ∈ (Path.parse start).normalize.chain := hchain ▸ List.mem_append_left _ hd
    have hspelled := (canonical_of_mem_chain hstart hmem).1.wellSpelled
    refine decide_eq_true fun heq => (hbetween d hd).1.2 ?_
    rw [← heq, Path.parse_render hspelled]
  obtain ⟨rest, hrest⟩ := Path.chain_eq_cons (Path.parse dir)
  rw [searchTexts_of_isAbsolute hcanonical.isAbsolute, searchTexts_of_isAbsolute hstart, hnormal,
    hchain, List.map_append, List.dropWhile_append_of_pos hpassed, hrest, List.map_cons,
    hcanonical.render_parse, List.dropWhile_cons_of_neg (by simp)]

end

/-- **Containment is a partial order whose up-sets are the search chains.** Every
text lies within itself, containment is transitive, and two texts lie within each
other just when they have one normal form. An absolute text lies within a
directory just when a search from the text visits the normal form of the
directory. The search goes through canonical texts without repetition, one more
than the normal form of the start is deep, and their depths fall by one at a time
to 0; from any of them on, it is the search that starts there. -/
theorem isPathWithin_iff_mem_searchTexts {start : Text} (hstart : IsAbsolutePath start)
    (currentDirectory elsewhere : Text) :
    (∀ p : Text, isPathWithin p p = true)
      ∧ (∀ p q r : Text, isPathWithin p q = true → isPathWithin q r = true →
          isPathWithin p r = true)
      ∧ (∀ p q : Text, (isPathWithin p q = true ∧ isPathWithin q p = true)
          ↔ normalizePath p = normalizePath q)
      ∧ (∀ dir : Text, isPathWithin start dir = true
          ↔ normalizePath dir ∈ searchTexts currentDirectory start)
      ∧ AscendsFrom start (searchTexts currentDirectory start)
      ∧ ∀ dir ∈ searchTexts currentDirectory start,
          searchTexts elsewhere dir
            = (searchTexts currentDirectory start).dropWhile fun other => other ≠ dir :=
  ⟨isPathWithin_refl, fun _ _ _ => isPathWithin_trans, fun _ _ => isPathWithin_both_iff,
    fun _ => (normalizePath_mem_searchTexts_iff hstart currentDirectory).symm,
    ascendsFrom_searchTexts hstart currentDirectory,
    fun _ => searchTexts_eq_dropWhile hstart currentDirectory elsewhere⟩

/-- Below the root that is written with two slashes: a sibling whose name goes on,
a directory spelled with a detour, and the other root, which holds nothing here. -/
theorem isPathWithin_iff_mem_searchTexts_siblings :
    IsAbsolutePath "//ws/./pkg1/../pkg10/a"
      ∧ searchTexts "/home" "//ws/./pkg1/../pkg10/a"
        = [Text.ofString "//ws/pkg10/a", Text.ofString "//ws/pkg10", Text.ofString "//ws",
          Text.ofString "//"]
      ∧ isPathWithin "//ws/./pkg1/../pkg10/a" "//x/../ws/pkg10/" = true
      ∧ isPathWithin "//ws/./pkg1/../pkg10/a" "//ws/pkg1" = false
      ∧ isPathWithin "//ws/./pkg1/../pkg10/a" "/" = false
      ∧ searchTexts "/elsewhere" "//ws" = [Text.ofString "//ws", Text.ofString "//"] := by
  have hstart : IsAbsolutePath "//ws/./pkg1/../pkg10/a" := by decide
  have hdirs : searchTexts "/home" "//ws/./pkg1/../pkg10/a"
      = [Text.ofString "//ws/pkg10/a", Text.ofString "//ws/pkg10", Text.ofString "//ws",
        Text.ofString "//"] := by decide
  obtain ⟨-, -, -, hwithin, -, hsuffix⟩ :=
    isPathWithin_iff_mem_searchTexts hstart "/home" "/elsewhere"
  refine ⟨hstart, hdirs, ?_, ?_, ?_, ?_⟩
  · exact (hwithin _).mpr (by decide)
  · exact Bool.eq_false_iff.mpr fun h => absurd ((hwithin _).mp h) (by decide)
  · exact Bool.eq_false_iff.mpr fun h => absurd ((hwithin _).mp h) (by decide)
  · rw [hsuffix _ (by decide), hdirs]
    decide

end Workspace
