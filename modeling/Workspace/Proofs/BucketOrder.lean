/-
Workspace.Proofs.BucketOrder — in which order the buckets of grouped files
stand.

There is one bucket for every root whose project owns a file
(`mem_roots_groupFiles_iff`). A file belongs to the first project with its
root (`getElem?_firstPlace_of_findOwner`), but the buckets are sorted by the
last one (`pairwise_roots_groupFiles`).

The two orders agree unless one owner stands before another and a later
project with its root stands behind every project of the other
(`IsOvertaken`). For a resolved configuration `roots_groupFiles_resolve` says
when that can be: the two roots are equally deep, and a warning is given that
the first of them is declared repeatedly.
-/
import Mathlib.Data.List.NodupEquivFin
import Workspace.Ownership
import Workspace.Proofs.ResolvedProject

namespace Workspace

/-! ## Which buckets there are -/

/-- The roots that have a bucket, in the order of the buckets. -/
def Grouping.roots (g : Grouping) : List Text :=
  g.owned.map Prod.fst

/-- The root of the project that owns a file. -/
def ownerRoot? (projects : List Project) (file : Text) : Option Text :=
  (findOwner projects file).map Project.root

theorem findOwner_normalizePath (projects : List Project) (file : Text) :
    findOwner projects (normalizePath file) = findOwner projects file := by
  rw [findOwner, findOwner, normalizePath_idem]

/-- A root that has a bucket keeps its place, another one goes to the end. -/
theorem map_fst_addToBucket (root file : Text) :
    ∀ buckets : List (Text × List Text), (addToBucket root file buckets).map Prod.fst
      = if root ∈ buckets.map Prod.fst then buckets.map Prod.fst
        else buckets.map Prod.fst ++ [root]
  | [] => rfl
  | (r, files) :: rest => by
    rw [addToBucket]
    split
    · next h => simp [h]
    · next h =>
      have hne : root ≠ r := fun heq => h heq.symm
      rw [List.map_cons, map_fst_addToBucket root file rest]
      simp only [List.map_cons, List.mem_cons, hne, false_or]
      split <;> rfl

section

variable {projects : List Project} {root : Text}

/-- A file adds a bucket for the root of its owner, unless there is one. -/
theorem roots_add (projects : List Project) (g : Grouping) (file : Text) :
    (g.add projects file).roots =
      match ownerRoot? projects file with
      | none => g.roots
      | some root => if root ∈ g.roots then g.roots else g.roots ++ [root] := by
  rw [ownerRoot?, Grouping.add, findOwner_normalizePath]
  cases findOwner projects file with
  | none => rfl
  | some p => exact map_fst_addToBucket p.root (normalizePath file) g.owned

theorem mem_roots_add_iff {g : Grouping} {file : Text} :
    root ∈ (g.add projects file).roots
      ↔ root ∈ g.roots ∨ ownerRoot? projects file = some root := by
  rw [roots_add]
  cases ownerRoot? projects file with
  | none => simp
  | some r =>
    simp only [Option.some.injEq]
    split
    · next hr => exact ⟨Or.inl, fun h => h.elim id fun heq => heq ▸ hr⟩
    · simp [eq_comm]

theorem nodup_roots_add {g : Grouping} (h : g.roots.Nodup) (file : Text) :
    (g.add projects file).roots.Nodup := by
  rw [roots_add]
  cases ownerRoot? projects file with
  | none => exact h
  | some r =>
    simp only
    split
    · exact h
    · next hr => exact List.nodup_append_comm.mp (List.nodup_cons.mpr ⟨hr, h⟩)

theorem mem_roots_foldl_add_iff :
    ∀ {files : List Text} {g : Grouping}, root ∈ (files.foldl (Grouping.add projects) g).roots
      ↔ root ∈ g.roots ∨ ∃ file ∈ files, ownerRoot? projects file = some root
  | [], g => by simp
  | file :: files, g => by
    rw [List.foldl_cons, mem_roots_foldl_add_iff, mem_roots_add_iff, or_assoc]
    simp

theorem nodup_roots_foldl_add :
    ∀ {files : List Text} {g : Grouping}, g.roots.Nodup →
      (files.foldl (Grouping.add projects) g).roots.Nodup
  | [], _, h => h
  | file :: files, _, h => by
    rw [List.foldl_cons]
    exact nodup_roots_foldl_add (nodup_roots_add h file)

/-- Sorting the buckets keeps them all. -/
theorem roots_groupFiles_perm (projects : List Project) (files : List Text) :
    (groupFiles projects files).roots.Perm
      (files.foldl (Grouping.add projects) ⟨[], []⟩).roots :=
  (List.mergeSort_perm _ _).map Prod.fst

/-- **There is a bucket for every root whose project owns a file**, and for no
other. -/
theorem mem_roots_groupFiles_iff {files : List Text} :
    root ∈ (groupFiles projects files).roots
      ↔ ∃ file ∈ files, ownerRoot? projects file = some root := by
  rw [(roots_groupFiles_perm projects files).mem_iff, mem_roots_foldl_add_iff]
  simp [Grouping.roots]

theorem nodup_roots_groupFiles (projects : List Project) (files : List Text) :
    (groupFiles projects files).roots.Nodup :=
  (roots_groupFiles_perm projects files).nodup_iff.mpr (nodup_roots_foldl_add List.nodup_nil)

/-- A root with a bucket is the root of a project. -/
theorem mem_map_root_of_mem_roots {files : List Text}
    (h : root ∈ (groupFiles projects files).roots) : root ∈ projects.map Project.root := by
  obtain ⟨file, -, howner⟩ := mem_roots_groupFiles_iff.mp h
  obtain ⟨p, hp, rfl⟩ := Option.map_eq_some_iff.mp howner
  exact List.mem_map_of_mem (List.mem_of_find?_eq_some hp)

end

/-! ## The first and the last project with a root -/

/-- The place of the first project with a root. -/
def firstPlace (projects : List Project) (root : Text) : Nat :=
  (projects.map Project.root).idxOf root

section

variable {projects : List Project} {root other : Text}

theorem getElem?_firstPlace (h : root ∈ projects.map Project.root) :
    (projects.map Project.root)[firstPlace projects root]? = some root :=
  List.getElem?_idxOf h

theorem firstPlace_le {i : Nat} (h : (projects.map Project.root)[i]? = some root) :
    firstPlace projects root ≤ i := by
  obtain ⟨hi, hroot⟩ := List.getElem?_eq_some_iff.mp h
  refine Nat.le_of_not_lt fun hlt => ?_
  have hmiss := List.not_of_lt_findIdx hlt
  simp [hroot] at hmiss

/-- The last place is the first one from behind. -/
theorem lastPlace_eq (projects : List Project) (root : Text) :
    lastPlace projects root
      = (projects.map Project.root).length - 1 - firstPlace projects.reverse root := by
  have hfirst : firstPlace projects.reverse root
      = projects.reverse.findIdx fun p => p.root = root := by
    rw [firstPlace, List.idxOf, List.findIdx_map]
    exact congrArg (List.findIdx · _) (funext fun p => beq_eq_decide p.root root)
  rw [lastPlace, hfirst, List.length_map]
  omega

theorem getElem?_lastPlace (h : root ∈ projects.map Project.root) :
    (projects.map Project.root)[lastPlace projects root]? = some root := by
  have hmem : root ∈ projects.reverse.map Project.root := by simpa using h
  have hlt : firstPlace projects.reverse root < (projects.reverse.map Project.root).length :=
    List.idxOf_lt_length_iff.mpr hmem
  have hplace := getElem?_firstPlace hmem
  rw [List.length_map, List.length_reverse] at hlt
  rwa [List.map_reverse, List.getElem?_reverse (by simpa using hlt), ← lastPlace_eq] at hplace

/-- Different roots have different last projects. -/
theorem eq_of_lastPlace_eq (hroot : root ∈ projects.map Project.root)
    (hother : other ∈ projects.map Project.root)
    (h : lastPlace projects root = lastPlace projects other) : root = other := by
  have hplace := getElem?_lastPlace hroot
  rw [h, getElem?_lastPlace hother] at hplace
  exact (Option.some.inj hplace).symm

theorem eq_of_firstPlace_eq (hroot : root ∈ projects.map Project.root)
    (h : firstPlace projects root = firstPlace projects other) : root = other :=
  (List.idxOf_inj hroot).mp h

/-- **The owner of a file is the first project with its root.** -/
theorem getElem?_firstPlace_of_findOwner {file : Text} {p : Project}
    (h : findOwner projects file = some p) : projects[firstPlace projects p.root]? = some p := by
  obtain ⟨hcovers, i, hi, rfl, hbefore⟩ := List.find?_eq_some_iff_getElem.mp h
  have hplace : firstPlace projects projects[i].root = i := by
    have hle : firstPlace projects projects[i].root ≤ i := firstPlace_le (by simp [hi])
    refine Nat.le_antisymm hle (Nat.le_of_not_lt fun hlt => ?_)
    -- an earlier project with the same root would own the file
    have hsame := getElem?_firstPlace (List.mem_map_of_mem (List.getElem_mem hi))
    obtain ⟨hj, hroot⟩ := List.getElem?_eq_some_iff.mp hsame
    have hmiss := hbefore _ hlt
    rw [List.getElem_map] at hroot
    rw [hroot, hcovers] at hmiss
    exact absurd hmiss (by decide)
  rw [hplace, List.getElem?_eq_getElem hi]

/-! ## The order of the buckets -/

/-- **The buckets are in the order of the last projects with their roots.** -/
theorem pairwise_roots_groupFiles (projects : List Project) (files : List Text) :
    (groupFiles projects files).roots.Pairwise
      fun s t => lastPlace projects s < lastPlace projects t := by
  have hsorted : (groupFiles projects files).roots.Pairwise
      fun s t => lastPlace projects s ≤ lastPlace projects t := by
    have horder := @List.pairwise_mergeSort (Text × List Text)
      (fun a b => lastPlace projects a.1 ≤ lastPlace projects b.1)
      (fun a b c hab hbc => by simp only [decide_eq_true_eq] at *; omega)
      (fun a b => by simp only [Bool.or_eq_true, decide_eq_true_eq]; omega)
      (files.foldl (Grouping.add projects) ⟨[], []⟩).owned
    exact List.pairwise_map.mpr (horder.imp of_decide_eq_true)
  refine (hsorted.and (nodup_roots_groupFiles projects files)).imp_of_mem ?_
  intro s t hs ht ⟨hle, hne⟩
  refine Nat.lt_of_le_of_ne hle fun heq => hne ?_
  exact eq_of_lastPlace_eq (mem_map_root_of_mem_roots hs) (mem_map_root_of_mem_roots ht) heq

/-- The roots stand in the order of the projects that own the files in them. -/
def InProjectOrder (projects : List Project) (roots : List Text) : Prop :=
  roots.Pairwise fun s t => firstPlace projects s < firstPlace projects t

/-- A project with the root `s` stands before all those with the root `t`, and
another one behind them all. -/
def IsOvertaken (projects : List Project) (s t : Text) : Prop :=
  firstPlace projects s < firstPlace projects t ∧ lastPlace projects t < lastPlace projects s

/-- The buckets are in the order of the owners when no root among them is
overtaken. -/
theorem inProjectOrder_groupFiles_iff {files : List Text} :
    InProjectOrder projects (groupFiles projects files).roots
      ↔ ∀ s ∈ (groupFiles projects files).roots, ∀ t ∈ (groupFiles projects files).roots,
          ¬IsOvertaken projects s t := by
  have hlast := pairwise_roots_groupFiles projects files
  constructor
  · rintro hfirst s hs t ht ⟨hbefore, hbehind⟩
    obtain ⟨i, hi, rfl⟩ := List.mem_iff_getElem.mp hs
    obtain ⟨j, hj, rfl⟩ := List.mem_iff_getElem.mp ht
    rcases Nat.lt_trichotomy i j with hij | rfl | hji
    · exact Nat.lt_asymm hbehind (List.pairwise_iff_getElem.mp hlast i j hi hj hij)
    · exact Nat.lt_irrefl _ hbefore
    · exact Nat.lt_asymm hbefore (List.pairwise_iff_getElem.mp hfirst j i hj hi hji)
  · intro hnone
    refine hlast.imp_of_mem fun {s t} hs ht hlt => ?_
    rcases Nat.lt_trichotomy (firstPlace projects s) (firstPlace projects t) with h | heq | h
    · exact h
    · obtain rfl := eq_of_firstPlace_eq (mem_map_root_of_mem_roots hs) heq
      exact absurd hlt (Nat.lt_irrefl _)
    · exact absurd ⟨h, hlt⟩ (hnone t ht s hs)

end

/-! ## Buckets of a resolved configuration -/

theorem mem_distinct {s : Text} : ∀ {texts : List Text}, s ∈ distinct texts ↔ s ∈ texts
  | [] => Iff.rfl
  | t :: rest => by
    rw [distinct, List.mem_cons, List.mem_cons, List.mem_filter, mem_distinct]
    by_cases h : s = t <;> simp [h]

/-- The texts that are warned about are those that occur more than once. -/
theorem mem_repeatedTexts_iff {texts : List Text} {s : Text} {n : Nat} :
    (s, n) ∈ repeatedTexts texts ↔ n = texts.count s ∧ 1 < n := by
  simp only [repeatedTexts, List.mem_filter, List.mem_map, Prod.mk.injEq, mem_distinct,
    decide_eq_true_eq]
  constructor
  · rintro ⟨⟨t, -, rfl, rfl⟩, hn⟩
    exact ⟨rfl, hn⟩
  · rintro ⟨rfl, hn⟩
    exact ⟨⟨s, List.count_pos_iff.mp (Nat.lt_trans Nat.zero_lt_one hn), rfl, rfl⟩, hn⟩

theorem one_lt_count_of_getElem? {texts : List Text} {s : Text} {i j : Nat} (hij : i < j)
    (hi : texts[i]? = some s) (hj : texts[j]? = some s) : 1 < texts.count s := by
  obtain ⟨hi, hs⟩ := List.getElem?_eq_some_iff.mp hi
  obtain ⟨hj, ht⟩ := List.getElem?_eq_some_iff.mp hj
  have hduplicate : List.Duplicate s texts :=
    List.duplicate_iff_exists_distinct_get.mpr ⟨⟨i, hi⟩, ⟨j, hj⟩, hij, hs.symm, ht.symm⟩
  exact List.replicate_sublist_iff.mp (List.duplicate_iff_sublist.mp hduplicate)

/-- A root of a list sorted by depth is overtaken by an equally deep one, and
occurs more than once. -/
theorem IsOvertaken.of_pairwise {projects : List Project} (hsorted : projects.Pairwise DepthLe)
    {s t : Text} (hs : s ∈ projects.map Project.root) (ht : t ∈ projects.map Project.root)
    (h : IsOvertaken projects s t) :
    pathDepth s = pathDepth t ∧ 1 < (projects.map Project.root).count s := by
  have hdepth : ∀ {i j : Nat} {r u : Text}, i < j → (projects.map Project.root)[i]? = some r →
      (projects.map Project.root)[j]? = some u → pathDepth u ≤ pathDepth r := by
    intro i j r u hij hi hj
    rw [List.getElem?_map] at hi hj
    obtain ⟨p, hp, rfl⟩ := Option.map_eq_some_iff.mp hi
    obtain ⟨q, hq, rfl⟩ := Option.map_eq_some_iff.mp hj
    obtain ⟨hi', rfl⟩ := List.getElem?_eq_some_iff.mp hp
    obtain ⟨hj', rfl⟩ := List.getElem?_eq_some_iff.mp hq
    exact List.pairwise_iff_getElem.mp hsorted i j hi' hj' hij
  obtain ⟨hfirst, hlast⟩ := h
  have hle : firstPlace projects t ≤ lastPlace projects t :=
    firstPlace_le (getElem?_lastPlace ht)
  refine ⟨Nat.le_antisymm ?_ ?_, ?_⟩
  · exact hdepth hlast (getElem?_lastPlace ht) (getElem?_lastPlace hs)
  · exact hdepth hfirst (getElem?_firstPlace hs) (getElem?_firstPlace ht)
  · exact one_lt_count_of_getElem? (by omega) (getElem?_firstPlace hs) (getElem?_lastPlace hs)

section

variable {find : Finder} {base workspace : Text} {config : UserConfig} {r : Resolution}

/-- The roots that are declared repeatedly are those that occur more than once
among the resolved projects. -/
theorem mem_repeated_iff (h : resolve find base workspace config = .ok r) {s : Text} {n : Nat} :
    (s, n) ∈ r.repeated ↔ n = (r.config.projects.map Project.root).count s ∧ 1 < n := by
  obtain ⟨ps, -, hconfig, hrepeated⟩ := resolve_eq_ok_iff.mp h
  have hcount := ((sortByDepth_perm ps).map Project.root).count_eq s
  rw [hrepeated, mem_repeatedTexts_iff, hconfig, hcount]

/-- **The buckets of a resolved configuration** are those of the owners of the
files, in the order of the last projects with their roots. The owner of a file
is the first project with its root, so the buckets are in the order of the
owners exactly when no root among them is overtaken. That happens only between
equally deep roots, to one that is warned about; without a warning the order is
that of the owners. -/
theorem roots_groupFiles_resolve (h : resolve find base workspace config = .ok r)
    (files : List Text) :
    (∀ root, root ∈ (groupFiles r.config.projects files).roots
        ↔ ∃ file ∈ files, ownerRoot? r.config.projects file = some root)
      ∧ (groupFiles r.config.projects files).roots.Pairwise (fun s t =>
          lastPlace r.config.projects s < lastPlace r.config.projects t)
      ∧ (∀ file p, findOwner r.config.projects file = some p →
          r.config.projects[firstPlace r.config.projects p.root]? = some p)
      ∧ (InProjectOrder r.config.projects (groupFiles r.config.projects files).roots
        ↔ ∀ s ∈ (groupFiles r.config.projects files).roots,
            ∀ t ∈ (groupFiles r.config.projects files).roots,
            ¬IsOvertaken r.config.projects s t)
      ∧ (∀ s ∈ (groupFiles r.config.projects files).roots,
          ∀ t ∈ (groupFiles r.config.projects files).roots,
          IsOvertaken r.config.projects s t →
          pathDepth s = pathDepth t ∧ ∃ n, (s, n) ∈ r.repeated)
      ∧ (r.repeated = [] →
          InProjectOrder r.config.projects (groupFiles r.config.projects files).roots) := by
  have hsorted : r.config.projects.Pairwise DepthLe := by
    obtain ⟨ps, -, hconfig, -⟩ := resolve_eq_ok_iff.mp h
    rw [hconfig]
    exact pairwise_sortByDepth ps
  have hovertaken : ∀ s ∈ (groupFiles r.config.projects files).roots,
      ∀ t ∈ (groupFiles r.config.projects files).roots,
      IsOvertaken r.config.projects s t →
      pathDepth s = pathDepth t ∧ ∃ n, (s, n) ∈ r.repeated := by
    intro s hs t ht hst
    obtain ⟨hdepth, hcount⟩ := hst.of_pairwise hsorted (mem_map_root_of_mem_roots hs)
      (mem_map_root_of_mem_roots ht)
    exact ⟨hdepth, _, (mem_repeated_iff h).mpr ⟨rfl, hcount⟩⟩
  refine ⟨fun root => mem_roots_groupFiles_iff, pairwise_roots_groupFiles _ files,
    fun file p => getElem?_firstPlace_of_findOwner, inProjectOrder_groupFiles_iff, hovertaken,
    fun hnone => inProjectOrder_groupFiles_iff.mpr fun s hs t ht hst => ?_⟩
  obtain ⟨-, n, hn⟩ := hovertaken s hs t ht hst
  simp [hnone] at hn

end

/-- Two equally deep roots, the first one declared again behind the second. -/
def interleavedRoots : UserConfig :=
  ⟨none, some [.path "a", .path "b", .path "b/../a"]⟩

/-- A file of each of the two. -/
def interleavedFiles : List Text :=
  ["/ws/a/x", "/ws/b/y"]

def interleavedProjects : List Project :=
  [⟨"/ws/a", none, none⟩, ⟨"/ws/b", none, none⟩, ⟨"/ws/a", none, none⟩]

theorem resolve_interleavedRoots :
    resolve (fun _ _ => .ok none) "/ws" "/ws" interleavedRoots
      = .ok ⟨⟨[], interleavedProjects⟩, [("/ws/a", 2)]⟩ := by
  have hresolve : resolve (fun _ _ => .ok none) "/ws" "/ws" interleavedRoots
      = .ok ⟨⟨[], sortByDepth interleavedProjects⟩, [("/ws/a", 2)]⟩ := rfl
  have hsorted : interleavedProjects.Pairwise DepthLe := by decide
  rw [hresolve, sortByDepth_of_pairwise hsorted]

/-- The first owner is overtaken, at the same depth and with a warning. -/
theorem roots_groupFiles_resolve_interleavedRoots :
    IsOvertaken interleavedProjects "/ws/a" "/ws/b"
      ∧ pathDepth "/ws/a" = pathDepth "/ws/b"
      ∧ ¬InProjectOrder interleavedProjects
          (groupFiles interleavedProjects interleavedFiles).roots := by
  obtain ⟨hroots, -, -, horder, hovertaken, -⟩ :=
    roots_groupFiles_resolve resolve_interleavedRoots interleavedFiles
  have hst : IsOvertaken interleavedProjects "/ws/a" "/ws/b" := by
    unfold IsOvertaken
    decide
  have hs := (hroots "/ws/a").mpr ⟨"/ws/a/x", by decide, by decide⟩
  have ht := (hroots "/ws/b").mpr ⟨"/ws/b/y", by decide, by decide⟩
  exact ⟨hst, (hovertaken _ hs _ ht hst).1, fun hin => horder.mp hin _ hs _ ht hst⟩

/-- The bucket of the second owner comes before that of the first. -/
theorem not_inProjectOrder_interleavedRoots :
    ∃ r, resolve (fun _ _ => .ok none) "/ws" "/ws" interleavedRoots = .ok r
      ∧ (groupFiles r.config.projects interleavedFiles).roots = ["/ws/b", "/ws/a"]
      ∧ ¬InProjectOrder r.config.projects
          (groupFiles r.config.projects interleavedFiles).roots := by
  have hfold : interleavedFiles.foldl (Grouping.add interleavedProjects) ⟨[], []⟩
      = ⟨[("/ws/a", ["/ws/a/x"]), ("/ws/b", ["/ws/b/y"])], []⟩ := by
    decide
  have ha : lastPlace interleavedProjects "/ws/a" = 2 := by decide
  have hb : lastPlace interleavedProjects "/ws/b" = 1 := by decide
  have hroots : (groupFiles interleavedProjects interleavedFiles).roots = ["/ws/b", "/ws/a"] := by
    simp [groupFiles, hfold, Grouping.roots, List.mergeSort, List.MergeSort.Internal.splitInTwo,
      ha, hb]
  refine ⟨_, resolve_interleavedRoots, hroots, ?_⟩
  rw [hroots]
  unfold InProjectOrder
  decide

end Workspace
