/-
Workspace.Proofs.LoadedShape — what every configuration that is loaded and
resolved looks like.

In a world with an absolute current directory the base is canonical by
whichever route the configuration file was come by
(`isCanonical_base_of_loadConfig`): named by the caller or by the variable,
found by a search, or not there at all. The searches of such a world find
nothing but absolute paths (`findsAbsolute_finder`), so every path of every
project is canonical, too.

`ListsDeepestFirst` says how the projects are listed: none is lost or
repeated, none stands before a deeper one, a root comes before those it lies
in, and equally deep projects stay as they were declared.
-/
import Workspace.ConfigFile
import Workspace.Proofs.ResolvedProject
import Workspace.Proofs.SearchChain

namespace Workspace

open Workspace.Path (IsBareName)

/-! ## Where a configuration file is -/

section

variable {w : World} (hcwd : IsAbsolutePath w.currentDirectory)

include hcwd

/-- A search of the world finds nothing but absolute paths. -/
theorem findsAbsolute_finder : FindsAbsolute w.finder := by
  intro start name path h
  obtain ⟨dir, hdir, rfl⟩ := exists_candidate_of_finder h
  have hspelled : (dir.under (Path.parse name)).WellSpelled :=
    (canonical_of_mem_searchDirs hdir).wellSpelled.under (Path.wellSpelled_parse name)
  have habs : dir.isAbsolute = true := isAbsolute_of_mem_searchDirs hcwd hdir
  rw [IsAbsolutePath, candidate, Path.parse_render hspelled]
  unfold Path.under
  split
  · assumption
  · exact habs

/-- What a search for a bare name finds is canonical. -/
theorem isCanonical_of_finder {start name path : Text} (hname : IsBareName name)
    (h : w.finder start name = .ok (some path)) : IsCanonical path := by
  obtain ⟨dir, hdir, rfl⟩ := exists_candidate_of_finder h
  exact isCanonical_candidate (canonical_of_mem_searchDirs hdir)
    (isAbsolute_of_mem_searchDirs hcwd hdir) hname

end

/-- The deepest of several paths is one of them. -/
theorem mem_of_deepest {x : Text} :
    ∀ {paths : List Text} {best : Option Text}, deepest best paths = some x →
      best = some x ∨ x ∈ paths
  | [], best, h => Or.inl h
  | p :: rest, none, h => by
    rw [deepest] at h
    rcases mem_of_deepest h with h | h
    · exact Or.inr (by simp [Option.some.inj h])
    · exact Or.inr (List.mem_cons_of_mem _ h)
  | p :: rest, some b, h => by
    rw [deepest] at h
    split at h
    · rcases mem_of_deepest h with h | h
      · exact Or.inr (by simp [Option.some.inj h])
      · exact Or.inr (List.mem_cons_of_mem _ h)
    · rcases mem_of_deepest h with h | h
      · exact Or.inl h
      · exact Or.inr (List.mem_cons_of_mem _ h)

/-- What the searches for several names find was found for one of them. -/
theorem mem_of_findEach {find : Text → Except Error (Option Text)} {x : Text} :
    ∀ {names found : List Text}, findEach find names = .ok found → x ∈ found →
      ∃ name ∈ names, find name = .ok (some x)
  | [], found, h, hx => by
    simp only [findEach, Except.ok.injEq] at h
    simp [← h] at hx
  | name :: rest, found, h, hx => by
    simp only [findEach, bind_eq_ok_iff, pure, Except.pure, Except.ok.injEq] at h
    obtain ⟨here, hhere, others, hothers, rfl⟩ := h
    rcases List.mem_append.mp hx with hx | hx
    · exact ⟨name, by simp, by rw [hhere, Option.mem_toList.mp hx]⟩
    · obtain ⟨n, hn, hfind⟩ := mem_of_findEach hothers hx
      exact ⟨n, List.mem_cons_of_mem _ hn, hfind⟩

theorem isBareName_of_mem_configFileNames : ∀ n ∈ configFileNames, IsBareName n := by
  decide

section

variable {w : World} (hcwd : IsAbsolutePath w.currentDirectory)

include hcwd

/-- The nearest configuration file has a canonical path. -/
theorem isCanonical_of_nearest {workspace file : Text}
    (h : (findEach (w.finder workspace) configFileNames).map (deepest none) = .ok (some file)) :
    IsCanonical file := by
  cases hfound : findEach (w.finder workspace) configFileNames with
  | error e => simp [hfound, Except.map] at h
  | ok found =>
    simp only [hfound, Except.map, Except.ok.injEq] at h
    rcases mem_of_deepest h with hnone | hmem
    · simp at hnone
    · obtain ⟨name, hname, hfind⟩ := mem_of_findEach hfound hmem
      exact isCanonical_of_finder hcwd (isBareName_of_mem_configFileNames name hname) hfind

/-- The configuration file that belongs to a workspace has a canonical path,
named or found. -/
theorem isCanonical_of_configPath? {workspace file : Text} (hworkspace : IsAbsolutePath workspace)
    (h : w.configPath? workspace = .ok (some file)) : IsCanonical file := by
  have hsettled : IsAbsolutePath w.settled.currentDirectory := hcwd
  unfold World.configPath? at h
  split at h
  · simp at h
  · unfold World.namedOrNearest? at h
    split at h
    · exact isCanonical_of_nearest hsettled h
    · exact isCanonical_of_nearest hsettled h
    · simp only [Except.ok.injEq, Option.some.injEq] at h
      rw [← h]
      exact isCanonical_absolutizePath hworkspace _

end

/-- The directory of an absolute file is written as the path without its last
segment. -/
theorem directoryText_eq_render {p : Path} (h : p.isAbsolute = true) :
    p.directoryText = ({ p with segments := p.segments.dropLast } : Path).render := by
  have hanchor : p.anchor ≠ .relative := by
    intro hrel
    simp [Path.isAbsolute, hrel, Anchor.isAbsolute] at h
  rw [Path.render, if_neg fun hempty => hanchor hempty.1]
  rfl

/-- The directory of a canonical file is canonical. -/
theorem isCanonical_directoryText {file : Text} (h : IsCanonical file) :
    IsCanonical (Path.parse file).directoryText := by
  have habs : (Path.parse file).isAbsolute = true := h.isAbsolute
  rw [directoryText_eq_render habs]
  exact isCanonical_render h.canonical_parse.dropLast habs

/-- The directory of a canonical file has one segment less. -/
theorem segments_directoryText {file : Text} (h : IsCanonical file) :
    (Path.parse (Path.parse file).directoryText).segments
      = (Path.parse file).segments.dropLast := by
  rw [directoryText_eq_render h.isAbsolute,
    Path.parse_render h.canonical_parse.dropLast.wellSpelled]

/-! ## Loading -/

theorem loadFile_eq_ok_iff {disk : Disk} {file : Text} {loaded : LoadedConfig} :
    loadFile disk file = .ok loaded ↔
      ∃ entries, readConfigFile disk file = .ok entries
        ∧ UserConfig.ofMapping entries = .ok loaded.config
        ∧ loaded.base = (Path.parse file).directoryText := by
  simp only [loadFile, bind_eq_ok_iff, pure, Except.pure, Except.ok.injEq]
  constructor
  · rintro ⟨entries, hentries, config, hconfig, rfl⟩
    exact ⟨entries, hentries, hconfig, rfl⟩
  · rintro ⟨entries, hentries, hconfig, hbase⟩
    exact ⟨entries, hentries, loaded.config, hconfig, by rw [← hbase]⟩

/-- The text that bytes were made of is read from them. -/
theorem decodeText_toUTF8 (s : String) :
    Text.decodeText s.toUTF8 = .ok (Text.unifyLineEnds s.toList) := by
  have hread : String.fromUTF8? s.toUTF8 = some s := by
    rw [String.toUTF8_eq_toByteArray, String.fromUTF8?, dif_pos s.isValidUTF8]
    rfl
  rw [Text.decodeText, hread]

/-- Bytes that are a text of allowed characters are read as that text, whatever
the blocks. -/
theorem Disk.yamlSource_toUTF8 {disk : Disk} {s : String}
    (hallowed : (Text.unifyLineEnds s.toList).all Yaml.isAllowed = true) :
    disk.yamlSource s.toUTF8 = .whole (Text.unifyLineEnds s.toList) := by
  simp only [Disk.yamlSource, decodeText_toUTF8, Yaml.Source.checked, Yaml.Source.whole, hallowed,
    if_true]

/-- A file yields the mapping that its content has been parsed to. -/
theorem readConfigFile_of_parseConfig {disk : Disk} {file : Text} {bytes : ByteArray}
    {entries : List (Value × Value)} (hbytes : disk.read (Path.parse file).render = .ok bytes)
    (hparse : disk.parseConfig (Path.parse file).render (Path.parse file).extension bytes
      = .ok (.map entries)) :
    readConfigFile disk file = .ok entries := by
  simp only [readConfigFile, Disk.readFile, hbytes, bind, Except.bind, hparse, pure, Except.pure]

/-- A file of JSON yields the mapping that its text spells. -/
theorem readConfigFile_of_json {disk : Disk} {file : Text} {s : String}
    {entries : List (Value × Value)} (hextension : (Path.parse file).extension = ".json")
    (hbytes : disk.read (Path.parse file).render = .ok s.toUTF8)
    (hjson : Json.read (Text.unifyLineEnds s.toList) = .ok (.map entries)) :
    readConfigFile disk file = .ok entries := by
  refine readConfigFile_of_parseConfig hbytes ?_
  rw [Disk.parseConfig, hextension, if_neg (by decide), decodeText_toUTF8]
  simp only [hjson]

/-- A file of YAML yields the mapping that its text spells. -/
theorem readConfigFile_of_yaml {disk : Disk} {file : Text} {s : String}
    {entries : List (Value × Value)} (hextension : (Path.parse file).extension = ".yaml")
    (hbytes : disk.read (Path.parse file).render = .ok s.toUTF8)
    (hallowed : (Text.unifyLineEnds s.toList).all Yaml.isAllowed = true)
    (hyaml : Yaml.read configDepth (.whole (Text.unifyLineEnds s.toList)) = .ok (.map entries)) :
    readConfigFile disk file = .ok entries := by
  refine readConfigFile_of_parseConfig hbytes ?_
  rw [Disk.parseConfig, hextension, if_pos (Or.inl rfl), Disk.yamlSource_toUTF8 hallowed, hyaml]

/-- A mapping without entries. -/
def emptyMappingText : String := "\x7b\x7d"

theorem read_emptyMappingText :
    Json.read (Text.unifyLineEnds emptyMappingText.toList) = .ok (.map []) := by
  simp only [emptyMappingText, String.reduceToList]
  rfl

/-- The configuration file of a workspace: the given one, taken from the
workspace, or else the one that belongs to it. -/
def World.chosenFile? (w : World) (workspace : Text) : Option Text → Except Error (Option Text)
  | some file => .ok (some (absolutizePath file workspace))
  | none => w.configPath? workspace

/-- Loading succeeds without a file, or with one that can be read. -/
theorem loadConfig_eq_ok_iff {w : World} {workspace : Text} {file : Option Text}
    {loaded : LoadedConfig} :
    w.loadConfig workspace file = .ok loaded ↔
      (w.chosenFile? (absolutizePath workspace w.currentDirectory) file = .ok none
          ∧ loaded = ⟨absolutizePath workspace w.currentDirectory, .empty⟩)
        ∨ ∃ path, w.chosenFile? (absolutizePath workspace w.currentDirectory) file
              = .ok (some path)
            ∧ loadFile w.disk path = .ok loaded := by
  cases file with
  | none =>
    simp only [World.loadConfig, World.chosenFile?, bind_eq_ok_iff]
    constructor
    · rintro ⟨found, hfound, h⟩
      cases found with
      | none => exact Or.inl ⟨hfound, (Except.ok.inj h).symm⟩
      | some path => exact Or.inr ⟨path, hfound, h⟩
    · rintro (⟨hfound, rfl⟩ | ⟨path, hfound, h⟩)
      · exact ⟨none, hfound, rfl⟩
      · exact ⟨some path, hfound, h⟩
  | some file =>
    constructor
    · intro h
      exact Or.inr ⟨_, rfl, h⟩
    · rintro (⟨hfound, -⟩ | ⟨path, hfound, h⟩)
      · simp [World.chosenFile?] at hfound
      · simp only [World.chosenFile?, Except.ok.injEq, Option.some.injEq] at hfound
        rw [← hfound] at h
        exact h

/-- **The base of a loaded configuration is canonical**, by whichever route
its file was come by. -/
theorem isCanonical_base_of_loadConfig {w : World} (hcwd : IsAbsolutePath w.currentDirectory)
    {workspace : Text} {file : Option Text} {loaded : LoadedConfig}
    (h : w.loadConfig workspace file = .ok loaded) : IsCanonical loaded.base := by
  have hworkspace := isCanonical_absolutizePath hcwd workspace
  rcases loadConfig_eq_ok_iff.mp h with ⟨-, rfl⟩ | ⟨path, hpath, hload⟩
  · exact hworkspace
  · have hcanonical : IsCanonical path := by
      cases file with
      | none => exact isCanonical_of_configPath? hcwd hworkspace.isAbsolute hpath
      | some file =>
        simp only [World.chosenFile?, Except.ok.injEq, Option.some.injEq] at hpath
        rw [← hpath]
        exact isCanonical_absolutizePath hworkspace.isAbsolute file
    obtain ⟨_, -, -, hbase⟩ := loadFile_eq_ok_iff.mp hload
    rw [hbase]
    exact isCanonical_directoryText hcanonical

/-! ## How the projects are listed -/

/-- The projects that were declared, listed with the deeper root first. -/
structure ListsDeepestFirst (declared listed : List Project) : Prop where
  /-- None is lost, none is repeated. -/
  perm : listed.Perm declared
  nonIncreasing : listed.Pairwise fun p q => pathDepth q.root ≤ pathDepth p.root
  /-- A root stands before every root that it lies in. -/
  innerFirst : ∀ (i j : Nat) (hi : i < listed.length) (hj : j < listed.length),
    IsAncestor listed[i].root listed[j].root → j < i
  /-- Equally deep projects stay as they were declared. -/
  stable : ∀ n, listed.filter (fun p => pathDepth p.root = n)
    = declared.filter fun p => pathDepth p.root = n

theorem listsDeepestFirst_sortByDepth {ps : List Project} (hroots : ∀ p ∈ ps, IsCanonical p.root) :
    ListsDeepestFirst ps (sortByDepth ps) where
  perm := sortByDepth_perm ps
  nonIncreasing := pairwise_sortByDepth ps
  innerFirst := by
    intro i j hi hj hancestor
    have hroot : ∀ k (hk : k < (sortByDepth ps).length), IsCanonical (sortByDepth ps)[k].root :=
      fun k hk => hroots _ (mem_sortByDepth.mp (List.getElem_mem hk))
    have hlt := hancestor.pathDepth_lt (hroot i hi) (hroot j hj)
    refine Nat.lt_of_not_le fun hle => ?_
    rcases Nat.lt_or_eq_of_le hle with hij | rfl
    · have hdepth : DepthLe (sortByDepth ps)[i] (sortByDepth ps)[j] :=
        List.pairwise_iff_getElem.mp (pairwise_sortByDepth ps) i j hi hj hij
      unfold DepthLe at hdepth
      omega
    · omega
  stable := by
    intro n
    have hlevel : ∀ p ∈ ps, decide (pathDepth p.root = n) = true → pathDepth p.root = n :=
      fun p _ hp => of_decide_eq_true hp
    exact filter_sortByDepth hlevel

/-- **The shape of every resolved configuration.** Whatever the workspace and
by whichever route the file is come by, the base and every path of every
project are canonical, there is a project, and the projects are those of the
declarations, listed deepest first. -/
theorem shape_of_loadConfig {w : World} (hcwd : IsAbsolutePath w.currentDirectory)
    {workspace : Text} {file : Option Text} {loaded : LoadedConfig} {r : Resolution}
    (hload : w.loadConfig workspace file = .ok loaded)
    (hresolve : resolve w.finder loaded.base workspace loaded.config = .ok r) :
    IsCanonical loaded.base
      ∧ (∀ p ∈ r.config.projects, p.Canonical)
      ∧ r.config.projects ≠ []
      ∧ ∃ declared : List Project,
          (declarationsOf workspace loaded.config).map (resolveProject w.finder loaded.base)
              = declared.map .ok
            ∧ ListsDeepestFirst declared r.config.projects := by
  have hbase := isCanonical_base_of_loadConfig hcwd hload
  have hcanonical : ∀ p ∈ r.config.projects, p.Canonical := by
    intro p hp
    obtain ⟨d, -, hd⟩ := exists_declaration_of_mem_projects hresolve hp
    exact canonical_of_resolveProject (findsAbsolute_finder hcwd) hbase.isAbsolute hd
  obtain ⟨ps, hps, hconfig, -⟩ := resolve_eq_ok_iff.mp hresolve
  refine ⟨hbase, hcanonical, projects_ne_nil_of_resolve hresolve, ps, hps, ?_⟩
  rw [hconfig] at hcanonical ⊢
  exact listsDeepestFirst_sortByDepth fun p hp => (hcanonical p (mem_sortByDepth.mpr hp)).root

/-- Two declared directories, the shallower one first. -/
def nestedText : String := "\x7b\"projects\": [\"./app\", \"app/../lib/core\"]\x7d"

def nestedWorld : World where
  disk := {
    files := [("/home/ws/main.json", nestedText.toUTF8)]
    directories := []
    faults := [] }
  currentDirectory := "/home"
  environment := []
  envFile := none

def nestedConfig : UserConfig where
  settings := none
  projects := some [.path "./app", .path "app/../lib/core"]

/-- The file is given relative to the workspace. -/
theorem loadConfig_nestedWorld :
    nestedWorld.loadConfig "ws" (some "x/../main.json") = .ok ⟨"/home/ws", nestedConfig⟩ := by
  have hchosen : nestedWorld.chosenFile? (absolutizePath "ws" nestedWorld.currentDirectory)
      (some "x/../main.json") = .ok (some "/home/ws/main.json") := rfl
  have hbytes : nestedWorld.disk.read (Path.parse "/home/ws/main.json").render
      = .ok nestedText.toUTF8 := rfl
  have hjson : Json.read (Text.unifyLineEnds nestedText.toList)
      = .ok (.map [(.str "projects", .list [.str "./app", .str "app/../lib/core"])]) := by
    simp only [nestedText, String.reduceToList]
    rfl
  have hload : loadFile nestedWorld.disk "/home/ws/main.json" = .ok ⟨"/home/ws", nestedConfig⟩ :=
    loadFile_eq_ok_iff.mpr ⟨_, readConfigFile_of_json rfl hbytes hjson, rfl, rfl⟩
  exact loadConfig_eq_ok_iff.mpr (Or.inr ⟨_, hchosen, hload⟩)

/-- The deeper of the two roots is listed first, and both are spelled out. -/
theorem shape_of_loadConfig_nestedWorld :
    IsAbsolutePath nestedWorld.currentDirectory
      ∧ nestedWorld.loadConfig "ws" (some "x/../main.json") = .ok ⟨"/home/ws", nestedConfig⟩
      ∧ IsCanonical "/home/ws"
      ∧ ∃ r declared, resolve nestedWorld.finder "/home/ws" "ws" nestedConfig = .ok r
        ∧ r.config.projects
          = [⟨"/home/ws/lib/core", none, none⟩, ⟨"/home/ws/app", none, none⟩]
        ∧ declared.map Project.root = (["/home/ws/app", "/home/ws/lib/core"] : List Text)
        ∧ (∀ p ∈ r.config.projects, p.Canonical)
        ∧ ListsDeepestFirst declared r.config.projects := by
  have habsolute : IsAbsolutePath nestedWorld.currentDirectory := by decide
  have hresolve : resolve nestedWorld.finder "/home/ws" "ws" nestedConfig
      = .ok ⟨⟨[], sortByDepth [⟨"/home/ws/app", none, none⟩,
          ⟨"/home/ws/lib/core", none, none⟩]⟩, []⟩ := rfl
  have happ : pathDepth "/home/ws/app" = 3 := by decide
  have hcore : pathDepth "/home/ws/lib/core" = 4 := by decide
  have hsorted : sortByDepth [⟨"/home/ws/app", none, none⟩, ⟨"/home/ws/lib/core", none, none⟩]
      = [⟨"/home/ws/lib/core", none, none⟩, ⟨"/home/ws/app", none, none⟩] := by
    simp [sortByDepth, List.mergeSort, List.MergeSort.Internal.splitInTwo, happ, hcore]
  obtain ⟨hbase, hcanonical, -, declared, hdeclared, hlists⟩ :=
    shape_of_loadConfig habsolute loadConfig_nestedWorld hresolve
  have hroots : declared.map Project.root
      = (["/home/ws/app", "/home/ws/lib/core"] : List Text) := by
    rw [roots_of_map_eq hdeclared]
    rfl
  exact ⟨habsolute, loadConfig_nestedWorld, hbase, _, declared, hresolve, hsorted, hroots,
    hcanonical, hlists⟩

end Workspace
