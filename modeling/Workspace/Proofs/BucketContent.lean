/-
Workspace.Proofs.BucketContent — which files stand in the buckets of grouped
files.

A grouping is built file by file. `Grouping.Sorts` says what it has come to
when some files have been taken in: the bucket of a root lists the files of
that owner in the order in which they came, and the files that nobody owns are
listed in the same way. One more file keeps that (`Grouping.Sorts.add`), so it
holds of all of them (`sorts_foldl_add`); putting the buckets in order moves
whole buckets only (`sorts_groupFiles`).

The order of the buckets is read off a table of places (`placeTable`). A root
has a bucket only if some project has that root, so the table has an entry for
it (`lookup_placeTable`) and the grouping cannot fail.
-/
import Mathlib.Data.List.Induction
import Workspace.Proofs.BucketOrder

namespace Workspace

/-! ## The files of an owner -/

/-- The normalized files that have this owner, in their order: the files of a
root, or those that nobody owns. -/
def filesOf (projects : List Project) (owner : Option Text) (files : List Text) : List Text :=
  (files.filter fun file => ownerRoot? projects file = owner).map normalizePath

theorem filesOf_concat (projects : List Project) (owner : Option Text) (files : List Text)
    (file : Text) :
    filesOf projects owner (files ++ [file])
      = if ownerRoot? projects file = owner then filesOf projects owner files ++ [normalizePath file]
        else filesOf projects owner files := by
  rw [filesOf, List.filter_append, List.map_append]
  by_cases h : ownerRoot? projects file = owner
  · rw [if_pos h, List.filter_cons_of_pos (by simpa using h)]
    rfl
  · rw [if_neg h, List.filter_cons_of_neg (by simpa using h)]
    exact List.append_nil _

/-! ## One more file in a bucket -/

/-- The files in the bucket of a root; none where there is no bucket. -/
def Grouping.bucket (g : Grouping) (root : Text) : List Text :=
  (g.owned.lookup root).getD []

/-- A file goes to the end of one bucket, and the other buckets stay. -/
theorem lookup_addToBucket (root file other : Text) (buckets : List (Text × List Text)) :
    (addToBucket root file buckets).lookup other
      = if other = root then some ((buckets.lookup root).getD [] ++ [file])
        else buckets.lookup other := by
  induction buckets with
  | nil =>
    by_cases h : other = root
    · simp [addToBucket, h]
    · simp [addToBucket, h, List.lookup_cons, beq_eq_false_iff_ne.mpr h]
  | cons entry rest ih =>
    obtain ⟨r, files⟩ := entry
    rw [addToBucket]
    by_cases hr : r = root
    · subst hr
      rw [if_pos rfl, List.lookup_cons_self]
      by_cases h : other = r
      · simp [h]
      · simp [h, List.lookup_cons, beq_eq_false_iff_ne.mpr h]
    · -- the bucket of `root` stands further back
      have hroot : (root == r) = false := beq_eq_false_iff_ne.mpr (Ne.symm hr)
      rw [if_neg hr, List.lookup_cons, List.lookup_cons, List.lookup_cons, hroot, ih]
      by_cases h : other = r
      · simp [h, hr]
      · simp [beq_eq_false_iff_ne.mpr h]

theorem ne_nil_of_mem_addToBucket {root file : Text} {buckets : List (Text × List Text)}
    (h : ∀ entry ∈ buckets, entry.2 ≠ []) :
    ∀ entry ∈ addToBucket root file buckets, entry.2 ≠ [] := by
  induction buckets with
  | nil => simp [addToBucket]
  | cons entry rest ih =>
    obtain ⟨r, files⟩ := entry
    obtain ⟨hfiles, hrest⟩ := List.forall_mem_cons.mp h
    rw [addToBucket]
    split
    · exact List.forall_mem_cons.mpr ⟨by simp, hrest⟩
    · exact List.forall_mem_cons.mpr ⟨hfiles, ih hrest⟩

/-- All buckets together have one file more. -/
theorem flatMap_addToBucket_perm (root file : Text) (buckets : List (Text × List Text)) :
    ((addToBucket root file buckets).flatMap Prod.snd).Perm
      (file :: buckets.flatMap Prod.snd) := by
  induction buckets with
  | nil => simp [addToBucket]
  | cons entry rest ih =>
    obtain ⟨r, files⟩ := entry
    rw [addToBucket]
    split
    · simp
    · exact (ih.append_left files).trans List.perm_middle

section

variable {projects : List Project}

theorem bucket_add (g : Grouping) (file root : Text) :
    (g.add projects file).bucket root
      = if ownerRoot? projects file = some root then g.bucket root ++ [normalizePath file]
        else g.bucket root := by
  rw [ownerRoot?, Grouping.add, findOwner_normalizePath, Grouping.bucket]
  cases findOwner projects file with
  | none => rfl
  | some p =>
    simp only [lookup_addToBucket, Option.map_some, Option.some.injEq]
    by_cases h : root = p.root
    · rw [if_pos h, if_pos h.symm, h]
      rfl
    · rw [if_neg h, if_neg (Ne.symm h)]
      rfl

theorem unowned_add (g : Grouping) (file : Text) :
    (g.add projects file).unowned
      = if ownerRoot? projects file = none then g.unowned ++ [normalizePath file]
        else g.unowned := by
  rw [ownerRoot?, Grouping.add, findOwner_normalizePath]
  cases findOwner projects file <;> rfl

theorem ne_nil_of_mem_add {g : Grouping} (h : ∀ entry ∈ g.owned, entry.2 ≠ []) (file : Text) :
    ∀ entry ∈ (g.add projects file).owned, entry.2 ≠ [] := by
  rw [Grouping.add]
  cases findOwner projects (normalizePath file) with
  | none => exact h
  | some p => exact ne_nil_of_mem_addToBucket h

/-- All the files of a grouping, owned or not. -/
def Grouping.files (g : Grouping) : List Text :=
  g.owned.flatMap Prod.snd ++ g.unowned

/-- A file comes in once. -/
theorem files_add_perm (g : Grouping) (file : Text) :
    (g.add projects file).files.Perm (g.files ++ [normalizePath file]) := by
  rw [Grouping.add]
  cases findOwner projects (normalizePath file) with
  | none =>
    show (g.owned.flatMap Prod.snd ++ (g.unowned ++ [normalizePath file])).Perm _
    rw [← List.append_assoc]
    exact List.Perm.refl _
  | some p =>
    have hfront := (flatMap_addToBucket_perm p.root (normalizePath file) g.owned).append_right
      g.unowned
    exact hfront.trans (List.perm_append_singleton (normalizePath file) g.files).symm

/-! ## What a grouping has come to -/

/-- The grouping of the files: one bucket for each owner, with the files of that
owner as they came, the files that nobody owns as they came, and every file in
one place. -/
structure Grouping.Sorts (projects : List Project) (files : List Text) (g : Grouping) : Prop where
  nodup : g.roots.Nodup
  ne_nil : ∀ entry ∈ g.owned, entry.2 ≠ []
  bucket : ∀ root, g.bucket root = filesOf projects (some root) files
  unowned : g.unowned = filesOf projects none files
  perm : g.files.Perm (files.map normalizePath)

theorem sorts_nil (projects : List Project) : Grouping.Sorts projects [] ⟨[], []⟩ where
  nodup := List.nodup_nil
  ne_nil := by simp
  bucket := fun _ => rfl
  unowned := rfl
  perm := List.Perm.refl _

/-- One more file is sorted in. -/
theorem Grouping.Sorts.add {files : List Text} {g : Grouping} (h : g.Sorts projects files)
    (file : Text) : (g.add projects file).Sorts projects (files ++ [file]) where
  nodup := nodup_roots_add h.nodup file
  ne_nil := ne_nil_of_mem_add h.ne_nil file
  bucket := by
    intro root
    rw [bucket_add, filesOf_concat, h.bucket]
  unowned := by rw [unowned_add, filesOf_concat, h.unowned]
  perm := by
    rw [List.map_append]
    exact (files_add_perm g file).trans (h.perm.append_right _)

theorem sorts_foldl_add {seen : List Text} (files : List Text) {g : Grouping}
    (h : g.Sorts projects seen) :
    (files.foldl (Grouping.add projects) g).Sorts projects (seen ++ files) := by
  induction files generalizing seen g with
  | nil => simpa using h
  | cons file rest ih => simpa using ih (h.add file)

end

/-- With different keys an entry is what its key is looked up as. -/
theorem lookup_eq_some_iff_mem {β : Type} {entries : List (Text × β)}
    (h : (entries.map Prod.fst).Nodup) {key : Text} {value : β} :
    entries.lookup key = some value ↔ (key, value) ∈ entries := by
  induction entries with
  | nil => simp
  | cons entry rest ih =>
    obtain ⟨k, v⟩ := entry
    obtain ⟨hk, hrest⟩ : k ∉ rest.map Prod.fst ∧ (rest.map Prod.fst).Nodup :=
      List.nodup_cons.mp h
    rw [List.lookup_cons, List.mem_cons, ← ih hrest]
    by_cases heq : key = k
    · subst heq
      have hmiss : rest.lookup key ≠ some value := by
        intro hlookup
        exact hk (List.mem_map_of_mem ((ih hrest).mp hlookup))
      simp [hmiss, eq_comm]
    · simp [beq_eq_false_iff_ne.mpr heq, heq]

/-- Sorting the buckets keeps what is in them. -/
theorem sorts_groupFiles (projects : List Project) (files : List Text) :
    (groupFiles projects files).Sorts projects files := by
  have hall := sorts_foldl_add files (sorts_nil projects)
  rw [List.nil_append] at hall
  have hperm := List.mergeSort_perm (files.foldl (Grouping.add projects) ⟨[], []⟩).owned
    fun a b => lastPlace projects a.1 ≤ lastPlace projects b.1
  have hnodup := nodup_roots_groupFiles projects files
  refine ⟨hnodup, fun entry hentry => hall.ne_nil entry (hperm.mem_iff.mp hentry), fun root => ?_,
    hall.unowned, (hperm.flatMap_right Prod.snd |>.append_right _).trans hall.perm⟩
  rw [← hall.bucket root, Grouping.bucket, Grouping.bucket]
  congr 1
  refine Option.ext fun bucket => ?_
  rw [lookup_eq_some_iff_mem hnodup, lookup_eq_some_iff_mem hall.nodup]
  exact hperm.mem_iff

/-- A bucket lists all the files of its owner. -/
theorem mem_owned_groupFiles_iff {projects : List Project} {files : List Text} {root : Text}
    {bucket : List Text} :
    (root, bucket) ∈ (groupFiles projects files).owned
      ↔ bucket = filesOf projects (some root) files ∧ bucket ≠ [] := by
  have h := sorts_groupFiles projects files
  rw [← h.bucket root, ← lookup_eq_some_iff_mem h.nodup, Grouping.bucket]
  constructor
  · intro hlookup
    have hentry := (lookup_eq_some_iff_mem h.nodup).mp hlookup
    exact ⟨by rw [hlookup]; rfl, h.ne_nil _ hentry⟩
  · rintro ⟨rfl, hne⟩
    cases hlookup : (groupFiles projects files).owned.lookup root with
    | none => exact absurd (by rw [hlookup]; rfl) hne
    | some bucket => rfl

/-! ## The table of places -/

/-- The places of the projects under their roots. A root that occurs again is
found at its last place. -/
def placeTable (projects : List Project) : List (Text × Nat) :=
  (projects.zipIdx.map fun entry => (entry.1.root, entry.2)).reverse

theorem placeTable_concat (projects : List Project) (p : Project) :
    placeTable (projects ++ [p]) = (p.root, projects.length) :: placeTable projects := by
  simp [placeTable, List.zipIdx_append]

theorem lastPlace_concat_self (projects : List Project) (p : Project) :
    lastPlace (projects ++ [p]) p.root = projects.length := by
  simp [lastPlace, List.findIdx_cons]

theorem lastPlace_concat_of_ne {projects : List Project} {p : Project} {root : Text}
    (h : p.root ≠ root) : lastPlace (projects ++ [p]) root = lastPlace projects root := by
  simp only [lastPlace, List.length_append, List.length_singleton, List.reverse_concat,
    List.findIdx_cons, decide_eq_false h, cond_false]
  omega

/-- **The table has the place of every root.** -/
theorem lookup_placeTable {projects : List Project} {root : Text}
    (h : root ∈ projects.map Project.root) :
    (placeTable projects).lookup root = some (lastPlace projects root) := by
  induction projects using List.reverseRecOn with
  | nil => simp at h
  | append_singleton projects p ih =>
    rw [placeTable_concat, List.lookup_cons]
    by_cases hroot : p.root = root
    · subst hroot
      simp [lastPlace_concat_self]
    · have hmem : root ∈ projects.map Project.root := by
        simpa [Ne.symm hroot] using h
      rw [beq_eq_false_iff_ne.mpr (Ne.symm hroot), lastPlace_concat_of_ne hroot]
      exact ih hmem

/-! ## The grouping as a whole -/

/-- **Grouping loses and duplicates nothing.** For projects in any order and
with any roots, the place of every bucket is in the table, so that the buckets
can be sorted; no root has two buckets; there is a bucket for a root exactly
when its project owns a file, and it lists the normalized files of that owner
in their order, each as often as it comes; the other files are listed in the
same way; and all of these together are the normalized files, each in one
place. -/
theorem groupFiles_partitions (projects : List Project) (files : List Text) :
    (∀ root ∈ (groupFiles projects files).roots,
        (placeTable projects).lookup root = some (lastPlace projects root))
      ∧ (groupFiles projects files).roots.Nodup
      ∧ (∀ root bucket, (root, bucket) ∈ (groupFiles projects files).owned
          ↔ bucket = filesOf projects (some root) files ∧ bucket ≠ [])
      ∧ (groupFiles projects files).unowned = filesOf projects none files
      ∧ (groupFiles projects files).files.Perm (files.map normalizePath) := by
  have h := sorts_groupFiles projects files
  refine ⟨fun root hroot => ?_, h.nodup, fun root bucket => mem_owned_groupFiles_iff, h.unowned,
    h.perm⟩
  exact lookup_placeTable (mem_map_root_of_mem_roots hroot)

/-- Two spellings of one root, the first of them repeated, and a relative root. -/
def respelledProjects : List Project :=
  [⟨"/a/", none, none⟩, ⟨"/a", none, none⟩, ⟨"b/..", none, none⟩, ⟨"/a/", none, none⟩]

def respelledFiles : List Text :=
  ["/a//x", "/c", "y", "/a/b/../x", "/c/."]

/-- The first spelling has both files of the directory, though they are the
same file, and the second spelling has no bucket. -/
theorem groupFiles_respelledProjects :
    Text.ofString "/a/" ∈ (groupFiles respelledProjects respelledFiles).roots
      ∧ (placeTable respelledProjects).lookup (Text.ofString "/a/") = some 3
      ∧ (Text.ofString "/a/", [Text.ofString "/a/x", Text.ofString "/a/x"])
          ∈ (groupFiles respelledProjects respelledFiles).owned
      ∧ Text.ofString "/a" ∉ (groupFiles respelledProjects respelledFiles).roots
      ∧ (groupFiles respelledProjects respelledFiles).unowned
          = [Text.ofString "/c", Text.ofString "/c"] := by
  obtain ⟨hplace, -, howned, hunowned, -⟩ :=
    groupFiles_partitions respelledProjects respelledFiles
  have hbucket := (howned "/a/" ["/a/x", "/a/x"]).mpr ⟨by decide, by decide⟩
  have hroot : Text.ofString "/a/" ∈ (groupFiles respelledProjects respelledFiles).roots :=
    List.mem_map_of_mem hbucket
  refine ⟨hroot, (hplace _ hroot).trans (by decide), hbucket, fun hother => ?_,
    hunowned.trans (by decide)⟩
  obtain ⟨⟨root, bucket⟩, hentry, rfl⟩ := List.mem_map.mp hother
  obtain ⟨rfl, hne⟩ := (howned _ _).mp hentry
  exact hne (by decide)

end Workspace
