/-
Workspace.Proofs.ConfigLookup — which configuration file a workspace gets,
and that nothing else is loaded in its place.

The program looks for the three names of a configuration file one after the
other and folds the hits with a strict comparison of depths. On a disk that
refuses no candidate this is one walk (`nearest_eq_nearestFile`): the nearest
directory that has any of the names decides, and in it their order. A name in
the variable goes before the walk, and a file that is given goes before both
(`World.designated?`).

Whatever file is designated, loading is a matter of that file alone
(`ReadsOnly`). If there is nothing at its path that can be opened and read, then
loading fails with an error about it; neither another candidate nor the empty
configuration comes in. The empty configuration is what a workspace has when no
file is designated. A walk takes regular files only, but a file that is named
may be a pipe, too (`canRead_iff`).

Three things are presupposed: the `.env` file can be taken into the environment,
the workspace can be handed over, and so can the path of the file. Otherwise
loading ends before anything is looked at (`loadConfig_irregularly`).
-/
import Workspace.Proofs.LoadedShape
import Workspace.Proofs.NearestFile

namespace Workspace

open Workspace.Path (IsBareName)

/-! ## One walk for all the names -/

/-- What single searches take is taken for all the names, in their order. -/
theorem findEach_eq_hits {find : Text → Except Error (Option Text)} {holds : Text → Bool}
    {dirs : List Path} :
    ∀ {names : List Text}, (∀ name ∈ names, find name = .ok (hit holds dirs name)) →
      findEach find names = .ok (hits holds dirs names)
  | [], _ => rfl
  | name :: rest, h => by
    have hrest : findEach find rest = .ok (hits holds dirs rest) :=
      findEach_eq_hits fun n hn => h n (List.mem_cons_of_mem _ hn)
    rw [findEach, h name (by simp), hrest]
    rfl

section

variable {w : World} {start : Text} {names : List Text}

/-- The directory where a search starts is the workspace seen from the current
directory. -/
theorem parse_absolutizePath_eq_searchStart (workspace currentDirectory : Text) :
    Path.parse (absolutizePath workspace currentDirectory)
      = searchStart currentDirectory workspace :=
  parse_absolutizePath workspace currentDirectory

/-- A search from the absolutized workspace goes where a search from the
workspace goes. -/
theorem searchDirs_absolutizePath {currentDirectory : Text}
    (hcwd : IsAbsolutePath currentDirectory) (workspace : Text) :
    searchDirs currentDirectory (absolutizePath workspace currentDirectory)
      = searchDirs currentDirectory workspace := by
  have hcanonical := isCanonical_absolutizePath hcwd workspace
  rw [searchDirs_eq, searchDirs_eq, searchStart_of_isCanonical hcanonical,
    parse_absolutizePath_eq_searchStart]

/-- **The deepest of what the single searches take is what one walk takes.**
A start that is no path ends both in the same way. -/
theorem nearest_eq_nearestFile (hne : names ≠ []) (hnames : ∀ n ∈ names, IsBareName n)
    (hclean : ∀ n ∈ names, w.disk.Spells n)
    (hstat : Inspectable w.disk names (searchDirs w.currentDirectory start)) :
    (findEach (w.finder start) names).map (deepest none)
      = nearestFile w.disk names (searchDirs w.currentDirectory start) := by
  cases hspelling : w.disk.spellingFault? (searchStart w.currentDirectory start).render with
  | some fault =>
    cases names with
    | nil => exact absurd rfl hne
    | cons name rest =>
      have hname := hnames name (by simp)
      have hfree := hclean name (by simp)
      rw [findEach, finder_of_misspelled hspelling hname hfree,
        nearestFile_of_misspelled hspelling hname hfree]
      rfl
  | none =>
    have hstart := Disk.spells_render_iff.mp (Disk.spellingFault?_eq_none_iff.mp hspelling)
    have htested := isRegularFile_of_mem_walked hstart hnames hclean hstat
    rw [findEach_eq_hits fun name hname => finder_of_tested htested hname,
      nearestFile_of_inspectable htested]
    exact congrArg Except.ok
      (deepest_hits hnames (fun _ hd => canonical_of_mem_searchDirs hd) (Path.pairwise_chain _))

/-- What a walk takes is one of its candidates. -/
theorem mem_of_nearestFile {disk : Disk} {path : Text} :
    ∀ {dirs : List Path}, nearestFile disk names dirs = .ok (some path) →
      ∃ dir ∈ dirs, path ∈ names.map (candidate dir)
  | [], h => by simp [nearestFile] at h
  | dir :: rest, h => by
    rw [nearestFile] at h
    split at h
    · simp at h
    · next hhere =>
      simp only [Except.ok.injEq, Option.some.injEq] at h
      exact ⟨dir, by simp, mem_of_firstFile (h ▸ hhere)⟩
    · obtain ⟨d, hd, hpath⟩ := mem_of_nearestFile h
      exact ⟨d, List.mem_cons_of_mem _ hd, hpath⟩

end

/-! ## The designated file -/

/-- The name that the variable has for the configuration file, once the
`.env` file has been taken in; the empty one is none. -/
def World.configName? (w : World) : Option String :=
  (w.settled.environment.value? configVariable).filter (· ≠ "")

/-- The configuration file of a workspace: the one that the variable names, or
else the nearest one. -/
def World.nearestConfig? (w : World) (workspace : Text) : Except Error (Option Text) :=
  match w.configName? with
  | some name => .ok (some (absolutizePath name workspace))
  | none => nearestFile w.disk configFileNames (searchDirs w.currentDirectory workspace)

/-- The file that is to be loaded: the given one, taken from the workspace, or
else the one of the workspace. -/
def World.designated? (w : World) (workspace : Text) : Option Text → Except Error (Option Text)
  | some file => .ok (some (absolutizePath file workspace))
  | none => w.nearestConfig? workspace

/-- The lookup meets no refusal: the `.env` file can be taken in and, unless
the variable has a name, every candidate can be inspected. -/
structure World.LooksFreely (w : World) (workspace : Text) : Prop where
  settles : w.settleFault? = none
  inspectable : w.configName? = none →
    Inspectable w.disk configFileNames (searchDirs w.currentDirectory workspace)

theorem configFileNames_ne_nil : configFileNames ≠ [] := by
  simp [configFileNames]

theorem spells_of_mem_configFileNames (disk : Disk) : ∀ n ∈ configFileNames, disk.Spells n := by
  simp [configFileNames, Disk.spells_ofString]

section

variable {w : World} {workspace : Text}

theorem namedOrNearest?_eq (w : World) (workspace : Text) :
    w.settled.namedOrNearest? workspace =
      match w.configName? with
      | some name => .ok (some (absolutizePath name workspace))
      | none => (findEach (w.finder workspace) configFileNames).map (deepest none) := by
  unfold World.namedOrNearest? World.configName?
  cases hvalue : w.settled.environment.value? configVariable with
  | none => rfl
  | some name =>
    by_cases hempty : name = ""
    · subst hempty
      rfl
    · simp [Option.filter, hempty]

/-- **The configuration file of a workspace** is the one that the variable
names, or else the first hit of one walk. -/
theorem configPath?_eq_nearestConfig? (hlook : w.LooksFreely workspace) :
    w.configPath? workspace = w.nearestConfig? workspace := by
  unfold World.configPath? World.nearestConfig?
  rw [hlook.settles]
  show w.settled.namedOrNearest? workspace = _
  rw [namedOrNearest?_eq]
  cases hname : w.configName? with
  | some name => rfl
  | none =>
    exact nearest_eq_nearestFile configFileNames_ne_nil isBareName_of_mem_configFileNames
      (spells_of_mem_configFileNames _) (hlook.inspectable hname)

/-- From a workspace that is a path the nearest file is the first candidate that
is a regular one. -/
theorem nearestConfig?_eq_find? (hlook : w.LooksFreely workspace) (hname : w.configName? = none)
    (hcwd : w.disk.Spells w.currentDirectory)
    (hworkspace : w.disk.SpellsPath (Path.parse workspace)) :
    w.nearestConfig? workspace
      = .ok ((walked configFileNames (searchDirs w.currentDirectory workspace)).find?
          w.disk.holdsFile) := by
  have htested := isRegularFile_of_mem_walked (Disk.spellsPath_searchStart hcwd hworkspace)
    isBareName_of_mem_configFileNames (spells_of_mem_configFileNames _) (hlook.inspectable hname)
  unfold World.nearestConfig?
  rw [hname]
  exact nearestFile_of_inspectable htested

/-- The lookup comes to an end. -/
theorem exists_nearestConfig?_eq_ok (hlook : w.LooksFreely workspace)
    (hcwd : w.disk.Spells w.currentDirectory)
    (hworkspace : w.disk.SpellsPath (Path.parse workspace)) :
    ∃ found, w.nearestConfig? workspace = .ok found := by
  cases hname : w.configName? with
  | some name => exact ⟨_, by rw [World.nearestConfig?, hname]⟩
  | none => exact ⟨_, nearestConfig?_eq_find? hlook hname hcwd hworkspace⟩

theorem chosenFile?_eq_designated? {file : Option Text}
    (hlook : file = none → w.LooksFreely workspace) :
    w.chosenFile? workspace file = w.designated? workspace file := by
  cases file with
  | none => exact configPath?_eq_nearestConfig? (hlook rfl)
  | some file => rfl

/-- The text of a designated file is the one that its path has. -/
theorem render_parse_of_designated? {file : Option Text} {path : Text}
    (h : w.designated? workspace file = .ok (some path)) : (Path.parse path).render = path := by
  cases file with
  | some file =>
    obtain rfl : absolutizePath file workspace = path := by simpa [World.designated?] using h
    exact render_parse_absolutizePath file workspace
  | none =>
    simp only [World.designated?, World.nearestConfig?] at h
    split at h
    · obtain rfl : absolutizePath _ workspace = path := by simpa using h
      exact render_parse_absolutizePath _ workspace
    · obtain ⟨dir, hdir, hpath⟩ := mem_of_nearestFile h
      obtain ⟨name, hname, rfl⟩ := List.mem_map.mp hpath
      exact render_parse_candidate (canonical_of_mem_searchDirs hdir)
        (isBareName_of_mem_configFileNames name hname)

end

/-! ## Loading the designated file -/

/-- What lies at the path can be opened and read. -/
def Disk.CanRead (disk : Disk) (path : Text) : Prop :=
  ∃ bytes, disk.read path = .ok bytes

instance (disk : Disk) (path : Text) : Decidable (disk.CanRead path) :=
  decidable_of_iff (disk.read path).isOk
    (by cases h : disk.read path <;> simp [Disk.CanRead, h, Except.isOk, Except.toBool])

/-- What can be read is a regular file, or else a pipe or the like; and nothing
keeps it from being opened. -/
theorem canRead_iff {disk : Disk} {path : Text} :
    disk.CanRead path ↔
      (disk.holdsFile path = true ∨ ∃ content, disk.look path = .ok (.stream content))
        ∧ disk.machine.locks.lookup (Disk.collapseStart path) = none := by
  unfold Disk.CanRead Disk.holdsFile Disk.read
  cases disk.look path with
  | error fault => simp
  | ok entry =>
    cases disk.machine.locks.lookup (Disk.collapseStart path) <;> cases entry <;> simp

/-- A path where nothing can be read is refused, unless it is none. -/
theorem read_of_not_canRead {disk : Disk} {path : Text} (hspells : disk.Spells path)
    (h : ¬disk.CanRead path) : ∃ fault, disk.read path = .error (.refused fault) := by
  cases hread : disk.read path with
  | ok bytes => exact absurd ⟨bytes, hread⟩ h
  | error fault =>
    cases fault with
    | refused fault => exact ⟨fault, rfl⟩
    | misspelled fault =>
      exact absurd (read_eq_misspelled_iff.mp hread) (by
        simp [Disk.spellingFault?_eq_none_iff.mpr hspells])

/-- The outcome of loading depends on the file at one path, and where nothing
can be read there it is an error about that path. -/
structure ReadsOnly (disk : Disk) (path : Text) (outcome : Except Error LoadedConfig) :
    Prop where
  eq_loadFile : outcome = loadFile disk path
  /-- Declarations are relative to the directory of the file. -/
  of_ok : ∀ loaded, outcome = .ok loaded →
    disk.CanRead path ∧ loaded.base = (Path.parse path).directoryText
  of_missing : disk.Spells path → ¬disk.CanRead path →
    ∃ fault, outcome = .error (.unreadable path fault)

theorem readsOnly_loadFile {disk : Disk} {path : Text}
    (hspelled : (Path.parse path).render = path) : ReadsOnly disk path (loadFile disk path) where
  eq_loadFile := rfl
  of_ok := by
    intro loaded h
    obtain ⟨entries, hentries, -, hbase⟩ := loadFile_eq_ok_iff.mp h
    simp only [readConfigFile, hspelled, bind_eq_ok_iff] at hentries
    obtain ⟨bytes, hbytes, -⟩ := hentries
    refine ⟨?_, hbase⟩
    cases hread : disk.read path with
    | ok bytes => exact ⟨bytes, hread⟩
    | error fault => cases fault <;> simp [Disk.readFile, hread] at hbytes
  of_missing := by
    intro hspells hmissing
    obtain ⟨fault, hread⟩ := read_of_not_canRead hspells hmissing
    refine ⟨fault, ?_⟩
    simp only [loadFile, readConfigFile, hspelled, Disk.readFile, hread]
    rfl

/-- The empty configuration of the workspace where no file is designated, and
else what the designated file makes of it. -/
theorem loadConfig_of_chosenFile? {w : World} {workspace : Text} {file found : Option Text}
    (h : w.chosenFile? (absolutizePath workspace w.currentDirectory) file = .ok found) :
    w.loadConfig workspace file =
      match found with
      | none => .ok ⟨absolutizePath workspace w.currentDirectory, .empty⟩
      | some path => loadFile w.disk path := by
  cases file with
  | some file =>
    obtain rfl : some (absolutizePath file (absolutizePath workspace w.currentDirectory)) = found :=
      Except.ok.inj h
    rfl
  | none =>
    have hpath : w.configPath? (absolutizePath workspace w.currentDirectory) = .ok found := h
    simp only [World.loadConfig, hpath]
    cases found <;> rfl

/-- **The nearest configuration file is looked up, and no other is loaded.**
Where the lookup meets no refusal, it takes the file that the variable names,
or else the first hit of one walk over the workspace and its ancestors that
tests the three names in each directory. Loading reads the given file or the
one looked up, and fails when nothing can be read there; only where the walk
has no hit does it end with the empty configuration of the workspace. Loading
looks from the absolutized workspace, which starts the same walk. -/
theorem loadConfig_of_designated (w : World) (workspace : Text) :
    (w.LooksFreely workspace →
        w.configPath? workspace = w.nearestConfig? workspace
          ∧ (w.disk.Spells w.currentDirectory → w.disk.Spells workspace →
              ∃ found, w.configPath? workspace = .ok found))
      ∧ (∀ file : Option Text, w.disk.Spells w.currentDirectory → w.disk.Spells workspace →
          (file = none → w.LooksFreely (absolutizePath workspace w.currentDirectory)) →
          ∃ found, w.designated? (absolutizePath workspace w.currentDirectory) file = .ok found
            ∧ match found with
              | none => w.loadConfig workspace file
                  = .ok ⟨absolutizePath workspace w.currentDirectory, .empty⟩
              | some path => ReadsOnly w.disk path (w.loadConfig workspace file))
      ∧ (IsAbsolutePath w.currentDirectory →
          searchDirs w.currentDirectory (absolutizePath workspace w.currentDirectory)
            = searchDirs w.currentDirectory workspace) := by
  refine ⟨fun hlook => ⟨configPath?_eq_nearestConfig? hlook, fun hcwd hclean => ?_⟩,
    fun file hcwd hclean hlook => ?_, fun hcwd => searchDirs_absolutizePath hcwd workspace⟩
  · rw [configPath?_eq_nearestConfig? hlook]
    exact exists_nearestConfig?_eq_ok hlook hcwd hclean.parse
  · have hstart := (Disk.spells_absolutizePath hclean hcwd).parse
    obtain ⟨found, hfound⟩ : ∃ found,
        w.designated? (absolutizePath workspace w.currentDirectory) file = .ok found := by
      cases file with
      | some file => exact ⟨_, rfl⟩
      | none => exact exists_nearestConfig?_eq_ok (hlook rfl) hcwd hstart
    have hload := loadConfig_of_chosenFile? ((chosenFile?_eq_designated? hlook).trans hfound)
    refine ⟨found, hfound, ?_⟩
    cases found with
    | none => exact hload
    | some path =>
      rw [hload]
      exact readsOnly_loadFile (render_parse_of_designated? hfound)

/-- A directory of the first name in the workspace, a file of the last name
above it, and files of the first two names further up. The `.env` file leaves
the variable empty. -/
def layeredWorld : World where
  disk := {
    files := [("/a/coffeesense.config.yaml", .empty), ("/a/coffeesense.config.yml", .empty),
      ("/a/b/coffeesense.config.json", emptyMappingText.toUTF8)]
    directories := ["/a/b/c/coffeesense.config.yaml"]
    faults := [] }
  currentDirectory := "/a"
  environment := []
  envFile := some "COFFEESENSE_CONFIG="

theorem looksFreely_layeredWorld : layeredWorld.LooksFreely "/a/b/c" where
  settles := by decide
  inspectable := fun _ => by decide +kernel

theorem nearestConfig?_layeredWorld :
    layeredWorld.nearestConfig? "/a/b/c" = .ok (some "/a/b/coffeesense.config.json") := by
  have hname : layeredWorld.configName? = none := by decide
  have hfirst : (walked configFileNames (searchDirs layeredWorld.currentDirectory "/a/b/c")).find?
      layeredWorld.disk.holdsFile = some (Text.ofString "/a/b/coffeesense.config.json") := by
    decide +kernel
  rw [nearestConfig?_eq_find? looksFreely_layeredWorld hname (by decide)
    (Disk.Spells.parse (by decide)), hfirst]

theorem loadFile_layeredWorld :
    loadFile layeredWorld.disk "/a/b/coffeesense.config.json" = .ok ⟨"/a/b", .empty⟩ :=
  loadFile_eq_ok_iff.mpr ⟨[], readConfigFile_of_json rfl rfl read_emptyMappingText, rfl, rfl⟩

/-- The workspace gets the file above it, not the earlier names further up,
and no configuration at all when the file asked for is missing. -/
theorem loadConfig_layeredWorld :
    layeredWorld.LooksFreely "b/c"
      ∧ layeredWorld.configPath? "b/c" = .ok (some "/a/b/coffeesense.config.json")
      ∧ layeredWorld.loadConfig "b/c" none = .ok ⟨"/a/b", .empty⟩
      ∧ ∃ fault, layeredWorld.loadConfig "b/c" (some "../coffeesense.config.yaml")
          = .error (.unreadable "/a/b/coffeesense.config.yaml" fault) := by
  have hcwd : layeredWorld.disk.Spells layeredWorld.currentDirectory := by decide
  have hclean : layeredWorld.disk.Spells "b/c" := by decide
  have hws : absolutizePath "b/c" layeredWorld.currentDirectory = "/a/b/c" := by decide
  obtain ⟨hlookup, hload, hdirs⟩ := loadConfig_of_designated layeredWorld "b/c"
  specialize hdirs (by decide)
  rw [hws] at hload hdirs
  have hlook : layeredWorld.LooksFreely "b/c" :=
    ⟨looksFreely_layeredWorld.settles, fun h => hdirs ▸ looksFreely_layeredWorld.inspectable h⟩
  refine ⟨hlook, ?_, ?_, ?_⟩
  · rw [(hlookup hlook).1]
    exact nearestConfig?_layeredWorld
  · obtain ⟨found, hfound, houtcome⟩ := hload none hcwd hclean fun _ => looksFreely_layeredWorld
    obtain rfl : found = some "/a/b/coffeesense.config.json" :=
      Except.ok.inj (hfound.symm.trans nearestConfig?_layeredWorld)
    exact houtcome.eq_loadFile.trans loadFile_layeredWorld
  · obtain ⟨found, hfound, houtcome⟩ :=
      hload (some "../coffeesense.config.yaml") hcwd hclean nofun
    obtain rfl : found = some "/a/b/coffeesense.config.yaml" :=
      Except.ok.inj (hfound.symm.trans rfl)
    exact houtcome.of_missing (by decide) (by decide +kernel)

/-- A pipe where a file is expected, on a machine that hands over path texts as
UTF-8. The variable names a file that is not there, and the `.env` file has a
value with the null character. -/
def oddWorld : World where
  disk := {
    files := []
    directories := []
    faults := []
    machine := {
      encodesPaths := true
      streams := [("/ws/c.json", emptyMappingText.toUTF8)] } }
  currentDirectory := "/ws"
  environment := [(configVariable, "d.json")]
  envFile := some "A=\x00"

/-- **Not every lookup ends at the file that the variable names, and not every
load with that file or with an error about it**: the `.env` file can put an end
to both, a pipe is read although it is no regular file, and a path with a stray
surrogate is not even looked at. -/
theorem loadConfig_irregularly :
    (oddWorld.settled.environment.value? configVariable = some "d.json"
        ∧ oddWorld.configPath? "/ws" = .error (.unsettable VariableFault.nul)
        ∧ oddWorld.loadConfig "/ws" none = .error (.unsettable VariableFault.nul)
        ∧ (Error.unsettable VariableFault.nul).path? = none)
      ∧ (oddWorld.disk.holdsFile "/ws/c.json" = false
        ∧ oddWorld.loadConfig "/ws" (some "c.json") = .ok ⟨"/ws", .empty⟩)
      ∧ nul ∉ strayText
        ∧ oddWorld.loadConfig "/ws" (some strayText)
          = .error (.content (.unencodable ⟨0xd800, 4, 1⟩))
        ∧ (Error.content (.unencodable ⟨0xd800, 4, 1⟩)).path? = none := by
  have hpipe : loadFile oddWorld.disk "/ws/c.json" = .ok ⟨"/ws", .empty⟩ :=
    loadFile_eq_ok_iff.mpr ⟨[], readConfigFile_of_json rfl rfl read_emptyMappingText, rfl, rfl⟩
  have hchosen : oddWorld.chosenFile? (absolutizePath "/ws" oddWorld.currentDirectory)
      (some "c.json") = .ok (some "/ws/c.json") := rfl
  have hload : oddWorld.loadConfig "/ws" (some "c.json") = .ok ⟨"/ws", .empty⟩ :=
    (loadConfig_of_chosenFile? hchosen).trans hpipe
  exact ⟨⟨by decide, rfl, rfl, rfl⟩, ⟨by decide, hload⟩, by decide, rfl, rfl⟩

end Workspace
