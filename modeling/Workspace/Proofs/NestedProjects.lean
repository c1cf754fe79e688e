/-
Workspace.Proofs.NestedProjects — a project inside another one is governed by
the files of that one, or by nearer ones.

The directories of a search that starts further in are some that lie between
the two starts, and then those of the search that starts further out
(`Path.chain_eq_append`). So the inner search finds a file in between, or what
the outer one finds (`finder_of_holds`). A file in between is deeper than
everything that the outer search can find, which decides the tie-break between
the two names of a tsconfig file in its favour (`moreSpecific_of_nearer`).

`governedWithin_of_isAncestor` says this of any two projects that are declared
without overrides. Nothing is assumed about the disk: a refusal that a search
meets ends the resolution, and one further up is met by neither search.
-/
import Workspace.Proofs.NearestFile

namespace Workspace

open Workspace.Path (IsBareName)

/-! ## Two searches for one name -/

/-- A search goes on behind candidates that are no regular files. -/
theorem firstFile_append (disk : Disk) (more : List Text) :
    ∀ paths : List Text, firstFile disk (paths ++ more)
      = match firstFile disk paths with
        | .ok none => firstFile disk more
        | other => other
  | [] => rfl
  | path :: rest => by
    rw [List.cons_append, firstFile, firstFile]
    cases isRegularFile disk path with
    | error e => rfl
    | ok found =>
      cases found with
      | true => rfl
      | false => exact firstFile_append disk more rest

/-- A file with one of the names in a directory strictly inside `outer` that
is `inner` or holds it. -/
def IsNearer (names : List Text) (outer inner : Path) (file : Text) : Prop :=
  ∃ dir : Path, ∃ name ∈ names, outer.IsAbove dir ∧ dir.Holds inner ∧ file = candidate dir name

section

variable {w : World} {outer inner name : Text}

/-- What a search finds is at most one segment deeper than its start. -/
theorem pathDepth_of_finder {start path : Text} (hname : IsBareName name)
    (h : w.finder start name = .ok (some path)) :
    pathDepth path ≤ (searchStart w.currentDirectory start).segments.length + 1 := by
  obtain ⟨dir, hdir, rfl⟩ := exists_candidate_of_finder h
  rw [pathDepth_candidate (canonical_of_mem_searchDirs hdir) hname]
  exact Nat.succ_le_succ (Path.mem_chain_iff.mp hdir).2.length_le

/-- A search that starts further in tries some directories in between, and then
goes where the search that starts further out goes. -/
theorem exists_finder_eq_of_holds
    (hinside : (searchStart w.currentDirectory outer).Holds
      (searchStart w.currentDirectory inner)) :
    ∃ between : List Path,
      (∀ dir ∈ between, (searchStart w.currentDirectory outer).IsAbove dir
        ∧ dir.Holds (searchStart w.currentDirectory inner))
      ∧ ∀ name, w.finder inner name
        = match firstFile w.disk (between.map (candidate · name)) with
          | .ok none => w.finder outer name
          | other => other := by
  obtain ⟨between, hchain, hbetween⟩ := Path.chain_eq_append hinside
  refine ⟨between, hbetween, fun name => ?_⟩
  unfold World.finder findConfigFile
  rw [searchDirs_eq, hchain, List.map_append, firstFile_append]
  rfl

/-- **A search that starts further in finds a nearer file, or what the search
that starts further out finds.** -/
theorem finder_of_holds {names : List Text} (hmem : name ∈ names)
    (hinside : (searchStart w.currentDirectory outer).Holds (searchStart w.currentDirectory inner))
    {ofOuter ofInner : Option Text} (houter : w.finder outer name = .ok ofOuter)
    (hinner : w.finder inner name = .ok ofInner) :
    ofInner = ofOuter
      ∨ ∃ file, ofInner = some file
          ∧ IsNearer names (searchStart w.currentDirectory outer)
              (searchStart w.currentDirectory inner) file := by
  obtain ⟨between, hbetween, hsearch⟩ := exists_finder_eq_of_holds hinside
  rw [hsearch] at hinner
  cases hhit : firstFile w.disk (between.map (candidate · name)) with
  | error e => simp [hhit] at hinner
  | ok hit =>
    rw [hhit] at hinner
    cases hit with
    | none => exact Or.inl (Except.ok.inj (hinner.symm.trans houter))
    | some file =>
      right
      obtain ⟨dir, hdir, hfile⟩ := List.mem_map.mp (mem_of_firstFile hhit)
      obtain ⟨habove, hholds⟩ := hbetween dir hdir
      exact ⟨file, (Except.ok.inj hinner).symm, dir, name, hmem, habove, hholds, hfile.symm⟩

/-- A nearer file is deeper than what the outer search finds. -/
theorem IsNearer.pathDepth_lt {names : List Text} (hnames : ∀ n ∈ names, IsBareName n)
    {file path : Text}
    (h : IsNearer names (searchStart w.currentDirectory outer)
      (searchStart w.currentDirectory inner) file)
    (hname : IsBareName name) (houter : w.finder outer name = .ok (some path)) :
    pathDepth path < pathDepth file := by
  obtain ⟨dir, n, hn, habove, hholds, rfl⟩ := h
  have hcanonical : dir.Canonical := (canonical_searchStart _ _).of_holds hholds
  have hle := pathDepth_of_finder hname houter
  have hlt := habove.length_lt
  rw [pathDepth_candidate hcanonical (hnames n hn)]
  omega

end

/-! ## The tie-break -/

/-- The more specific of two files, each of which is the outer one or a nearer
one, is the more specific outer one or a nearer one. -/
theorem moreSpecific_of_nearer {near : Text → Prop} {loose strict loose' strict' : Option Text}
    (hloose : loose' = loose ∨ ∃ file, loose' = some file ∧ near file)
    (hstrict : strict' = strict ∨ ∃ file, strict' = some file ∧ near file)
    (hdeeper : ∀ file, near file → ∀ path, loose = some path ∨ strict = some path →
      pathDepth path < pathDepth file) :
    moreSpecific loose' strict' = moreSpecific loose strict
      ∨ ∃ file, moreSpecific loose' strict' = some file ∧ near file := by
  rcases hloose with rfl | ⟨l, rfl, hl⟩ <;> rcases hstrict with rfl | ⟨s, rfl, hs⟩
  · exact Or.inl rfl
  · -- only the tsconfig file is nearer
    refine Or.inr ⟨s, ?_, hs⟩
    cases loose' with
    | none => rfl
    | some path => exact if_pos (Nat.le_of_lt (hdeeper s hs path (Or.inl rfl)))
  · -- only the jsconfig file is nearer
    refine Or.inr ⟨l, ?_, hl⟩
    cases strict' with
    | none => rfl
    | some path => exact if_neg (Nat.not_le.mpr (hdeeper l hl path (Or.inr rfl)))
  · right
    simp only [moreSpecific]
    split
    · exact ⟨s, rfl, hs⟩
    · exact ⟨l, rfl, hl⟩

/-! ## Two projects -/

/-- The name of a package manifest. -/
def packageNames : List Text := ["package.json"]

/-- A project of a resolution that succeeds, which was declared without
overrides; the empty override is none. -/
structure IsSearched (find : Finder) (base workspace : Text) (config : UserConfig)
    (p : Project) : Prop where
  listed : ∃ r, resolve find base workspace config = .ok r ∧ p ∈ r.config.projects
  declared : ∃ d ∈ declarationsOf workspace config, resolveProject find base d = .ok p
    ∧ nonEmpty? d.toRecord.package = none ∧ nonEmpty? d.toRecord.tsconfig = none

/-- What governs the directory `inner`, which lies inside `outer`: what governs
`outer`, or a file with one of the names in a directory strictly inside `outer`
that is `inner` or one of its ancestors. -/
def GovernedWithin (names : List Text) (outer inner : Text) (ofOuter ofInner : Option Text) :
    Prop :=
  ofInner = ofOuter
    ∨ ∃ dir, ∃ name ∈ names, IsAncestor outer dir ∧ (dir = inner ∨ IsAncestor dir inner)
        ∧ ofInner = some (candidate (Path.parse dir) name)

/-- What governs the outer directory is not lost further in. -/
theorem GovernedWithin.ne_none {names : List Text} {outer inner : Text}
    {ofOuter ofInner : Option Text} (h : GovernedWithin names outer inner ofOuter ofInner)
    (houter : ofOuter ≠ none) : ofInner ≠ none := by
  rcases h with rfl | ⟨dir, name, -, -, -, rfl⟩
  · exact houter
  · simp

section

variable {w : World}

/-- A nearer file lies in a directory that has a text. -/
theorem governedWithin_of_nearer {names : List Text} {outer inner : Text}
    {ofOuter ofInner : Option Text}
    (h : ofInner = ofOuter ∨ ∃ file, ofInner = some file
      ∧ IsNearer names (searchStart w.currentDirectory outer)
          (searchStart w.currentDirectory inner) file) :
    GovernedWithin names (absolutizePath outer w.currentDirectory)
      (absolutizePath inner w.currentDirectory) ofOuter ofInner := by
  refine h.imp_right ?_
  rintro ⟨file, rfl, dir, name, hname, habove, hholds, rfl⟩
  have hcanonical : dir.Canonical := (canonical_searchStart _ _).of_holds hholds
  have hparse : Path.parse dir.render = dir := Path.parse_render hcanonical.wellSpelled
  have hparse' : ∀ t, Path.parse (absolutizePath t w.currentDirectory)
      = searchStart w.currentDirectory t := fun t => parse_absolutizePath t _
  refine ⟨dir.render, name, hname, ?_, ?_, by rw [hparse]⟩
  · rwa [IsAncestor, hparse, hparse']
  · by_cases heq : dir = searchStart w.currentDirectory inner
    · left
      rw [heq]
      rfl
    · right
      rw [IsAncestor, hparse, hparse']
      exact ⟨hholds, heq⟩

/-- The two searches behind a tsconfig file that is not overridden. -/
theorem resolveTsconfig_eq_ok_iff {find : Finder} {root : Text} {override found : Option Text}
    (hoverride : nonEmpty? override = none) :
    resolveTsconfig find root override = .ok found ↔
      ∃ loose strict, findNormalized find root "jsconfig.json" = .ok loose
        ∧ findNormalized find root "tsconfig.json" = .ok strict
        ∧ found = moreSpecific loose strict := by
  simp only [resolveTsconfig, hoverride, bind_eq_ok_iff, pure, Except.pure, Except.ok.injEq]
  constructor
  · rintro ⟨loose, hloose, strict, hstrict, rfl⟩
    exact ⟨loose, strict, hloose, hstrict, rfl⟩
  · rintro ⟨loose, strict, hloose, hstrict, rfl⟩
    exact ⟨loose, hloose, strict, hstrict, rfl⟩

/-- **Nested projects are governed coherently.** Of two projects that are
declared without overrides, in one configuration or in two, let one have its
root strictly inside that of the other. Its manifest is that of the outer
project, or lies in a directory strictly inside the outer root that is the
inner root or one of its ancestors; the same holds of its tsconfig file. So
whatever governs the outer project, something of the kind governs the inner
one. Absolute roots are what they are seen as from the current directory; of
relative ones, this is where they lead. -/
theorem governedWithin_of_isAncestor {base workspace base' workspace' : Text}
    {config config' : UserConfig} {p q : Project}
    (hp : IsSearched w.finder base workspace config p)
    (hq : IsSearched w.finder base' workspace' config' q)
    (hinside : IsAncestor (absolutizePath q.root w.currentDirectory)
      (absolutizePath p.root w.currentDirectory)) :
    GovernedWithin packageNames (absolutizePath q.root w.currentDirectory)
        (absolutizePath p.root w.currentDirectory) q.package p.package
      ∧ GovernedWithin tsconfigNames (absolutizePath q.root w.currentDirectory)
          (absolutizePath p.root w.currentDirectory) q.tsconfig p.tsconfig
      ∧ (q.package ≠ none → p.package ≠ none)
      ∧ (q.tsconfig ≠ none → p.tsconfig ≠ none) := by
  obtain ⟨d, -, hd, hdp, hdt⟩ := hp.declared
  obtain ⟨e, -, he, hep, het⟩ := hq.declared
  obtain ⟨-, hpp, hpt⟩ := resolveProject_eq_ok_iff.mp hd
  obtain ⟨-, hqp, hqt⟩ := resolveProject_eq_ok_iff.mp he
  have hholds : (searchStart w.currentDirectory q.root).Holds
      (searchStart w.currentDirectory p.root) := by
    rw [IsAncestor, parse_absolutizePath, parse_absolutizePath] at hinside
    exact hinside.1
  have hts : Text.ofString "tsconfig.json" ∈ tsconfigNames := by simp [tsconfigNames]
  have hjs : Text.ofString "jsconfig.json" ∈ tsconfigNames := by simp [tsconfigNames]
  have hbare : ∀ n ∈ tsconfigNames, IsBareName n := by decide
  have hpackage : GovernedWithin packageNames (absolutizePath q.root w.currentDirectory)
      (absolutizePath p.root w.currentDirectory) q.package p.package := by
    have hname : IsBareName "package.json" := by decide
    simp only [resolvePackage, hdp, findNormalized_finder hname] at hpp
    simp only [resolvePackage, hep, findNormalized_finder hname] at hqp
    exact governedWithin_of_nearer (finder_of_holds (by simp [packageNames]) hholds hqp hpp)
  have htsconfig : GovernedWithin tsconfigNames (absolutizePath q.root w.currentDirectory)
      (absolutizePath p.root w.currentDirectory) q.tsconfig p.tsconfig := by
    simp only [resolveTsconfig_eq_ok_iff hdt, findNormalized_finder (hbare _ hjs),
      findNormalized_finder (hbare _ hts)] at hpt
    simp only [resolveTsconfig_eq_ok_iff het, findNormalized_finder (hbare _ hjs),
      findNormalized_finder (hbare _ hts)] at hqt
    obtain ⟨loose', strict', hloose', hstrict', hp'⟩ := hpt
    obtain ⟨loose, strict, hloose, hstrict, hq'⟩ := hqt
    rw [hp', hq']
    refine governedWithin_of_nearer (moreSpecific_of_nearer
      (finder_of_holds hjs hholds hloose hloose') (finder_of_holds hts hholds hstrict hstrict') ?_)
    rintro file hnear path (rfl | rfl)
    · exact hnear.pathDepth_lt hbare (hbare _ hjs) hloose
    · exact hnear.pathDepth_lt hbare (hbare _ hts) hstrict
  exact ⟨hpackage, htsconfig, hpackage.ne_none, htsconfig.ne_none⟩

end

/-- A manifest and a tsconfig file at `/w`, and a jsconfig file further in. -/
def tieredWorld : World where
  disk := {
    files := [("/w/package.json", .empty), ("/w/tsconfig.json", .empty),
      ("/w/a/jsconfig.json", .empty)]
    directories := ["/w/a/b/package.json"]
    faults := [] }
  currentDirectory := "/home"
  environment := []
  envFile := none

/-- The inner root declared with an empty override. -/
def tieredConfig : UserConfig :=
  ⟨none, some [.record ⟨"../w/a/b", some "", none⟩, .path "/w"]⟩

/-- The inner project shares the manifest of the outer one, and has the
jsconfig file in between. -/
theorem governedWithin_tieredWorld :
    IsSearched tieredWorld.finder "/x" "/v" tieredConfig
        ⟨"/w/a/b", some "/w/package.json", some "/w/a/jsconfig.json"⟩
      ∧ IsSearched tieredWorld.finder "/x" "/v" tieredConfig
        ⟨"/w", some "/w/package.json", some "/w/tsconfig.json"⟩
      ∧ IsAncestor (absolutizePath "/w" tieredWorld.currentDirectory)
        (absolutizePath "/w/a/b" tieredWorld.currentDirectory)
      ∧ GovernedWithin packageNames "/w" "/w/a/b" (some "/w/package.json") (some "/w/package.json")
      ∧ GovernedWithin tsconfigNames "/w" "/w/a/b" (some "/w/tsconfig.json")
        (some "/w/a/jsconfig.json") := by
  have hr : resolve tieredWorld.finder "/x" "/v" tieredConfig
      = .ok ⟨⟨[], sortByDepth [⟨"/w/a/b", some "/w/package.json", some "/w/a/jsconfig.json"⟩,
          ⟨"/w", some "/w/package.json", some "/w/tsconfig.json"⟩]⟩, []⟩ := rfl
  have hinner : IsSearched tieredWorld.finder "/x" "/v" tieredConfig
      ⟨"/w/a/b", some "/w/package.json", some "/w/a/jsconfig.json"⟩ :=
    ⟨⟨_, hr, mem_sortByDepth.mpr (by simp)⟩,
      .record ⟨"../w/a/b", some "", none⟩, by decide, rfl, rfl, rfl⟩
  have houter : IsSearched tieredWorld.finder "/x" "/v" tieredConfig
      ⟨"/w", some "/w/package.json", some "/w/tsconfig.json"⟩ :=
    ⟨⟨_, hr, mem_sortByDepth.mpr (by simp)⟩, .path "/w", by decide, rfl, rfl, rfl⟩
  have hinside : IsAncestor (absolutizePath "/w" tieredWorld.currentDirectory)
      (absolutizePath "/w/a/b" tieredWorld.currentDirectory) :=
    ⟨Path.isBelow_iff.mp (by decide), by decide⟩
  obtain ⟨hpackage, htsconfig, -, -⟩ := governedWithin_of_isAncestor hinner houter hinside
  exact ⟨hinner, houter, hinside, hpackage, htsconfig⟩

end Workspace
