/-
Workspace.Proofs.NearestFile — separate searches for several names agree
with one walk that looks for all of them.

`nearestFile` goes through directories once and tests the names in each of
them before it goes on. The program searches for every name on its own and
keeps a deepest hit, an earlier one of two equally deep ones (`deepest`).
Along a chain of directories, each with fewer segments than the one before,
both take the same file (`deepest_hits`): a hit in the nearest directory that
has any is deeper than all hits further up, and in that directory the
earlier name comes first.

For the two names of a tsconfig file this is `resolveTsconfig_eq_nearestFile`.
-/
import Workspace.ConfigFile
import Workspace.Proofs.ResolvedProject
import Workspace.Proofs.SearchChain

namespace Workspace

open Workspace.Path (IsBareName)

/-- The first regular file that has one of the names and lies in one of the
directories: each directory is tested for all the names before the next. -/
def nearestFile (disk : Disk) (names : List Text) : List Path → Except Error (Option Text)
  | [] => .ok none
  | dir :: rest =>
    match firstFile disk (names.map (candidate dir)) with
    | .error e => .error e
    | .ok (some path) => .ok (some path)
    | .ok none => nearestFile disk names rest

/-- The candidates of a walk, in the order in which they are tested. -/
def walked (names : List Text) (dirs : List Path) : List Text :=
  dirs.flatMap fun dir => names.map (candidate dir)

/-- Where every candidate is tested, the walk is `List.find?`. -/
theorem nearestFile_of_inspectable {disk : Disk} {names : List Text} :
    ∀ {dirs : List Path},
      (∀ path ∈ walked names dirs, isRegularFile disk path = .ok (disk.holdsFile path)) →
      nearestFile disk names dirs = .ok ((walked names dirs).find? disk.holdsFile)
  | [], _ => rfl
  | dir :: rest, h => by
    have hsplit : walked names (dir :: rest) = names.map (candidate dir) ++ walked names rest := by
      simp [walked]
    rw [hsplit] at h ⊢
    have hhere := firstFile_of_inspectable fun path hp => h path (List.mem_append_left _ hp)
    have hrest := nearestFile_of_inspectable fun path hp => h path (List.mem_append_right _ hp)
    rw [nearestFile, hhere, hrest, List.find?_append]
    cases (names.map (candidate dir)).find? disk.holdsFile <;> rfl

/-! ## The deepest of several hits -/

/-- A path is kept as long as no deeper one comes. -/
theorem deepest_of_le {x : Text} :
    ∀ {after : List Text}, (∀ a ∈ after, pathDepth a ≤ pathDepth x) →
      deepest (some x) after = some x
  | [], _ => rfl
  | a :: after, h => by
    have ha : ¬pathDepth x < pathDepth a := Nat.not_lt.mpr (h a (by simp))
    rw [deepest, if_neg ha]
    exact deepest_of_le fun b hb => h b (by simp [hb])

/-- A path that is deeper than those before it and not less deep than those
after it is the one that is kept. -/
theorem deepest_append {x : Text} {after : List Text}
    (hafter : ∀ a ∈ after, pathDepth a ≤ pathDepth x) :
    ∀ {before : List Text} {best : Option Text},
      (∀ b ∈ best.toList ++ before, pathDepth b < pathDepth x) →
      deepest best (before ++ x :: after) = some x
  | [], none, _ => by
    rw [List.nil_append, deepest]
    exact deepest_of_le hafter
  | [], some b, h => by
    have hb : pathDepth b < pathDepth x := h b (by simp)
    rw [List.nil_append, deepest, if_pos hb]
    exact deepest_of_le hafter
  | c :: before, none, h => by
    rw [List.cons_append, deepest]
    exact deepest_append hafter (by simpa using h)
  | c :: before, some b, h => by
    -- whichever of the two is kept, it is less deep than `x`
    simp only [Option.toList_some, List.cons_append, List.nil_append, List.forall_mem_cons] at h
    obtain ⟨hb, hc, hbefore⟩ := h
    rw [List.cons_append, deepest]
    split
    · exact deepest_append hafter (by simpa using ⟨hc, hbefore⟩)
    · exact deepest_append hafter (by simpa using ⟨hb, hbefore⟩)

/-- What a search for one name takes on a disk that refuses nothing. -/
def hit (holds : Text → Bool) (dirs : List Path) (name : Text) : Option Text :=
  (dirs.map (candidate · name)).find? holds

/-- What searches for several names take, in the order of the names. -/
def hits (holds : Text → Bool) (dirs : List Path) (names : List Text) : List Text :=
  names.flatMap fun name => (hit holds dirs name).toList

theorem hit_cons (holds : Text → Bool) (dir : Path) (dirs : List Path) (name : Text) :
    hit holds (dir :: dirs) name
      = if holds (candidate dir name) then some (candidate dir name) else hit holds dirs name := by
  rw [hit, List.map_cons, List.find?_cons]
  cases holds (candidate dir name) <;> rfl

theorem mem_hits_iff {holds : Text → Bool} {dirs : List Path} {names : List Text} {path : Text} :
    path ∈ hits holds dirs names ↔ ∃ name ∈ names, hit holds dirs name = some path := by
  simp [hits]

/-- A hit is one segment deeper than its directory. -/
theorem pathDepth_of_hit {holds : Text → Bool} {dirs : List Path} {name path : Text} {n : Nat}
    (hname : IsBareName name) (hdirs : ∀ dir ∈ dirs, dir.Canonical ∧ dir.segments.length < n)
    (h : hit holds dirs name = some path) : pathDepth path ≤ n := by
  obtain ⟨dir, hdir, rfl⟩ := List.mem_map.mp (List.mem_of_find?_eq_some h)
  rw [pathDepth_candidate (hdirs dir hdir).1 hname]
  exact (hdirs dir hdir).2

/-- Where a directory has none of the names, all hits are those further up. -/
theorem hits_cons_of_forall_not {holds : Text → Bool} {dir : Path} {dirs : List Path}
    {names : List Text} (h : ∀ name ∈ names, ¬holds (candidate dir name) = true) :
    hits holds (dir :: dirs) names = hits holds dirs names := by
  unfold hits
  rw [List.flatMap_def, List.flatMap_def]
  congr 1
  refine List.map_congr_left fun name hname => ?_
  rw [hit_cons, if_neg (h name hname)]

/-- The first of the names that the nearest directory has beats the hits
further up and the later names. -/
theorem deepest_hits_cons {holds : Text → Bool} {dir : Path} {dirs : List Path}
    {before after : List Text} {name : Text} (hdir : dir.Canonical)
    (hdirs : ∀ d ∈ dirs, d.Canonical ∧ d.segments.length < dir.segments.length)
    (hnames : ∀ n ∈ before ++ name :: after, IsBareName n)
    (hbefore : ∀ n ∈ before, ¬holds (candidate dir n) = true)
    (hhere : holds (candidate dir name) = true) :
    deepest none (hits holds (dir :: dirs) (before ++ name :: after))
      = some (candidate dir name) := by
  have hdepth : pathDepth (candidate dir name) = dir.segments.length + 1 :=
    pathDepth_candidate hdir (hnames name (by simp))
  have hsplit : hits holds (dir :: dirs) (before ++ name :: after)
      = hits holds dirs before ++ candidate dir name :: hits holds (dir :: dirs) after := by
    rw [← hits_cons_of_forall_not hbefore]
    simp [hits, hit_cons, hhere]
  rw [hsplit]
  refine deepest_append ?_ ?_
  · intro a ha
    obtain ⟨n, hn, hhit⟩ := mem_hits_iff.mp ha
    rw [hdepth]
    refine pathDepth_of_hit (hnames n (by simp [hn])) ?_ hhit
    intro d hd
    rcases List.mem_cons.mp hd with rfl | hd
    · exact ⟨hdir, Nat.lt_succ_self _⟩
    · exact ⟨(hdirs d hd).1, Nat.lt_succ_of_lt (hdirs d hd).2⟩
  · intro b hb
    obtain ⟨n, hn, hhit⟩ := mem_hits_iff.mp (by simpa using hb)
    rw [hdepth]
    exact Nat.lt_succ_of_le (pathDepth_of_hit (hnames n (by simp [hn])) hdirs hhit)

/-- **The deepest of the hits for several names is what one walk finds.** -/
theorem deepest_hits {holds : Text → Bool} {names : List Text}
    (hnames : ∀ n ∈ names, IsBareName n) :
    ∀ {dirs : List Path}, (∀ dir ∈ dirs, dir.Canonical) →
      (dirs.Pairwise fun p q => q.segments.length < p.segments.length) →
      deepest none (hits holds dirs names) = (walked names dirs).find? holds
  | [], _, _ => by
    have hnone : hits holds [] names = [] := by simp [hits, hit]
    rw [hnone]
    rfl
  | dir :: rest, hcanonical, hchain => by
    obtain ⟨hfewer, hrest⟩ := List.pairwise_cons.mp hchain
    have hwalked : walked names (dir :: rest) = names.map (candidate dir) ++ walked names rest := by
      simp [walked]
    rw [hwalked, List.find?_append, List.find?_map]
    cases hhere : names.find? (holds ∘ candidate dir) with
    | none =>
      rw [hits_cons_of_forall_not fun n hn => List.find?_eq_none.mp hhere n hn]
      rw [deepest_hits hnames (fun d hd => hcanonical d (by simp [hd])) hrest]
      rfl
    | some name =>
      obtain ⟨hname, before, after, rfl, hbefore⟩ := List.find?_eq_some_iff_append.mp hhere
      rw [deepest_hits_cons (hcanonical dir (by simp))
        (fun d hd => ⟨hcanonical d (by simp [hd]), hfewer d hd⟩) hnames
        (fun n hn => by simpa using hbefore n hn) hname]
      rfl

/-! ## The searches of a world -/

section

variable {w : World} {start : Text}

/-- A start directory that is no path ends the walk at once. -/
theorem nearestFile_of_misspelled {fault : SpellingFault}
    (hfault : w.disk.spellingFault? (searchStart w.currentDirectory start).render = some fault)
    {name : Text} {rest : List Text} (hname : IsBareName name) (hclean : w.disk.Spells name) :
    nearestFile w.disk (name :: rest) (searchDirs w.currentDirectory start)
      = .error fault.error := by
  obtain ⟨above, habove⟩ := Path.chain_eq_cons (searchStart w.currentDirectory start)
  have hfirst := (Disk.spellingFault?_candidate hname hclean).trans hfault
  rw [searchDirs_eq, habove, nearestFile, List.map_cons, firstFile,
    isRegularFile_of_misspelled hfirst]

/-- From a start directory that is a path the candidates are tested, unless the
disk refuses one. -/
theorem isRegularFile_of_mem_walked
    (hstart : w.disk.SpellsPath (searchStart w.currentDirectory start)) {names : List Text}
    (hnames : ∀ n ∈ names, IsBareName n) (hclean : ∀ n ∈ names, w.disk.Spells n)
    (hstat : Inspectable w.disk names (searchDirs w.currentDirectory start)) :
    ∀ path ∈ walked names (searchDirs w.currentDirectory start),
      isRegularFile w.disk path = .ok (w.disk.holdsFile path) := by
  intro path hpath
  obtain ⟨dir, hdir, hpath⟩ := List.mem_flatMap.mp hpath
  obtain ⟨name, hname, rfl⟩ := List.mem_map.mp hpath
  refine isRegularFile_of_not_refused ?_ (hstat dir hdir name hname)
  rw [Disk.spells_candidate_iff (hnames name hname) (hclean name hname)]
  exact hstart.of_holds (Path.mem_chain_iff.mp hdir)

/-- Where every candidate is tested, a search takes its hit. -/
theorem finder_of_tested {names : List Text}
    (htested : ∀ path ∈ walked names (searchDirs w.currentDirectory start),
      isRegularFile w.disk path = .ok (w.disk.holdsFile path))
    {name : Text} (hname : name ∈ names) :
    w.finder start name
      = .ok (hit w.disk.holdsFile (searchDirs w.currentDirectory start) name) := by
  refine firstFile_of_inspectable fun path hpath => ?_
  obtain ⟨dir, hdir, rfl⟩ := List.mem_map.mp hpath
  exact htested _ (List.mem_flatMap.mpr ⟨dir, hdir, List.mem_map_of_mem hname⟩)

/-- What a search takes is canonical as it stands. -/
theorem findNormalized_finder {name : Text} (hname : IsBareName name) :
    findNormalized w.finder start name = w.finder start name := by
  unfold findNormalized
  cases hfind : w.finder start name with
  | error e => rfl
  | ok found =>
    cases found with
    | none => rfl
    | some path =>
      obtain ⟨dir, hdir, rfl⟩ := exists_candidate_of_finder hfind
      have hcanonical := canonical_of_mem_searchDirs hdir
      have hshown : nonEmpty? (some (candidate dir name)) = some (candidate dir name) :=
        nonEmpty?_eq_some_iff.mpr ⟨rfl, candidate_ne_nil hcanonical hname⟩
      simp only [Except.map, hshown, Option.map_some, normalizePath_candidate hcanonical hname]

end

/-! ## The tsconfig file -/

/-- The names of a tsconfig file, in order of precedence. -/
def tsconfigNames : List Text :=
  ["tsconfig.json", "jsconfig.json"]

/-- The more specific of two files is the deepest one, the tsconfig file
coming first. -/
theorem moreSpecific_eq_deepest (loose strict : Option Text) :
    moreSpecific loose strict = deepest none (strict.toList ++ loose.toList) := by
  cases strict with
  | none => cases loose <;> rfl
  | some s =>
    cases loose with
    | none => rfl
    | some l =>
      simp only [moreSpecific, Option.toList_some, List.cons_append, List.nil_append, deepest]
      by_cases h : pathDepth l ≤ pathDepth s
      · rw [if_pos h, if_neg (Nat.not_lt.mpr h)]
      · rw [if_neg h, if_pos (Nat.lt_of_not_le h)]

/-- **The tsconfig file of a root is the nearest file of either name.** With
no override and no candidate that the disk refuses, the two searches and
their tie-break take what one walk over the root and its ancestors takes that
tests `tsconfig.json` and then `jsconfig.json` in each directory. The walk
comes to an end without an error if the root and the current directory are
paths. -/
theorem resolveTsconfig_eq_nearestFile {w : World} {root : Text} {override : Option Text}
    (hoverride : nonEmpty? override = none)
    (hstat : Inspectable w.disk tsconfigNames (searchDirs w.currentDirectory root)) :
    resolveTsconfig w.finder root override
        = nearestFile w.disk tsconfigNames (searchDirs w.currentDirectory root)
      ∧ (w.disk.Spells w.currentDirectory → w.disk.Spells root →
          ∃ found, resolveTsconfig w.finder root override = .ok found) := by
  have hbare : ∀ n ∈ tsconfigNames, IsBareName n := by decide
  have hclean : ∀ n ∈ tsconfigNames, w.disk.Spells n := by
    simp [tsconfigNames, Disk.spells_ofString]
  have hts : Text.ofString "tsconfig.json" ∈ tsconfigNames := by simp [tsconfigNames]
  have hjs : Text.ofString "jsconfig.json" ∈ tsconfigNames := by simp [tsconfigNames]
  unfold resolveTsconfig
  simp only [hoverride, findNormalized_finder (hbare _ hjs), findNormalized_finder (hbare _ hts)]
  cases hspelling : w.disk.spellingFault? (searchStart w.currentDirectory root).render with
  | some fault =>
    refine ⟨?_, fun hcwd hroot => ?_⟩
    · rw [finder_of_misspelled hspelling (hbare _ hjs) (hclean _ hjs), tsconfigNames,
        nearestFile_of_misspelled hspelling (hbare _ hts) (hclean _ hts)]
      rfl
    · have hstart := Disk.spellsPath_searchStart hcwd hroot.parse
      simp [Disk.spellingFault?_eq_none_iff.mpr (Disk.spells_render_iff.mpr hstart)] at hspelling
  | none =>
    have hstart := Disk.spells_render_iff.mp (Disk.spellingFault?_eq_none_iff.mp hspelling)
    have htested := isRegularFile_of_mem_walked hstart hbare hclean hstat
    have hdirs : ∀ dir ∈ searchDirs w.currentDirectory root, dir.Canonical := fun _ hd =>
      canonical_of_mem_searchDirs hd
    rw [finder_of_tested htested hjs, finder_of_tested htested hts,
      nearestFile_of_inspectable htested, ← deepest_hits hbare hdirs (Path.pairwise_chain _)]
    refine ⟨?_, fun _ _ => ⟨_, rfl⟩⟩
    show Except.ok (moreSpecific _ _) = _
    rw [moreSpecific_eq_deepest]
    simp [hits, tsconfigNames]

/-- A regular file where a directory is expected, a directory with the name
of a tsconfig file beside a jsconfig file, and a tsconfig file above them. -/
def mixedWorld : World where
  disk := {
    files := [("/a/f", .empty), ("/a/jsconfig.json", .empty), ("/tsconfig.json", .empty)]
    directories := ["/a/tsconfig.json"]
    faults := [] }
  currentDirectory := "/a"
  environment := []
  envFile := none

/-- Neither the file in the way nor the directory of that name counts, and
the tsconfig file above is too far away. -/
theorem resolveTsconfig_mixedWorld :
    nonEmpty? (some []) = none
      ∧ Inspectable mixedWorld.disk tsconfigNames (searchDirs mixedWorld.currentDirectory "f/x")
      ∧ resolveTsconfig mixedWorld.finder "f/x" (some []) = .ok (some "/a/jsconfig.json") := by
  have hoverride : nonEmpty? (some []) = none := rfl
  have hstat : Inspectable mixedWorld.disk tsconfigNames
      (searchDirs mixedWorld.currentDirectory "f/x") := by decide
  refine ⟨hoverride, hstat, ?_⟩
  rw [(resolveTsconfig_eq_nearestFile hoverride hstat).1]
  rfl

end Workspace
