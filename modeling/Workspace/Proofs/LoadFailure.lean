/-
Workspace.Proofs.LoadFailure — which errors loading a configuration ends with.

Three kinds of errors are documented: a configuration without the documented
shape, a refusal of the disk, and a configuration file that cannot be used
(`Error.IsDocumented`). A file cannot be used when it cannot be opened, when
its text does not follow its grammar, or when it spells something else than a
mapping (`Unusable`); then, and only then, the error is about that file.

That is not all that can be wrong with a file. Its bytes may be no text, and a
text that follows the grammar may spell a number, a date or a character that
does not exist (`FaultyContent`). Such a fault comes out as it is, with a
message that does not say which file is meant. Which faults these can be
depends on the format (`FaultyContent.isPossible`); for JSON there are two
beside the undecodable bytes, and for YAML many.

The two formats also differ in when the bytes count. A JSON file is decoded as a
whole before it is parsed, so undecodable bytes are all that comes out of it. A
YAML file is decoded while it is parsed, and what its reader meets first comes
out.

Other undocumented errors come from the `.env` file, and from path texts that
cannot be handed over: the workspace that a search starts from, and the file
itself. `World.Escapes` lists all that can happen, and `loadConfig_fails_iff`
says that the list is complete and that everything on it happens.
-/
import Mathlib
import Workspace.Proofs.ConfigLookup
import Workspace.Proofs.DecisiveCandidate
import Workspace.Proofs.DocumentedShape
import Workspace.Proofs.JsonFault
import Workspace.Proofs.YamlFault

namespace Workspace

open Workspace.Path (IsBareName)

/-! ## Kinds of errors -/

/-- The error is of one of the documented kinds. A refusal to open the `.env`
file is none of them, although it is reported as trouble with the disk. -/
structure Error.IsDocumented (e : Error) : Prop where
  category : e.category ≠ .unknown
  settled : ∀ fault, e ≠ .unsettable fault

/-- The error says that the configuration file at the path cannot be used. -/
structure Error.Blames (e : Error) (path : Text) : Prop where
  category : e.category = .config
  path : e.path? = some path

theorem Error.Blames.isDocumented {e : Error} {path : Text} (h : e.Blames path) :
    e.IsDocumented where
  category := by simp [h.category]
  settled := by
    rintro (⟨⟨⟩⟩ | ⟨⟨⟩⟩) rfl <;> cases h.category

theorem not_isDocumented_content (fault : ContentFault) : ¬(Error.content fault).IsDocumented :=
  fun h => h.category rfl

theorem not_isDocumented_unsettable (fault : SettleFault) :
    ¬(Error.unsettable fault).IsDocumented :=
  fun h => h.settled fault rfl

theorem SpellingFault.not_isDocumented_error (fault : SpellingFault) :
    ¬fault.error.IsDocumented := by
  cases fault <;> exact fun h => h.category rfl

theorem isDocumented_invalidConfig (issues : List Issue) :
    (Error.invalidConfig issues).IsDocumented :=
  ⟨nofun, nofun⟩

theorem isDocumented_uninspectable (path : Text) (fault : OsFault) :
    (Error.uninspectable path fault).IsDocumented :=
  ⟨nofun, nofun⟩

theorem Error.Blames.path_unique {e : Error} {path other : Text} (h : e.Blames path)
    (h' : e.Blames other) : path = other :=
  Option.some.inj (h.path.symm.trans h'.path)

/-! ## Contents -/

/-- The extension is one of YAML; every other one stands for JSON. -/
def IsYaml (extension : Text) : Prop :=
  extension = ".yaml" ∨ extension = ".yml"

instance (extension : Text) : Decidable (IsYaml extension) :=
  inferInstanceAs (Decidable (_ ∨ _))

namespace Disk

/-- The content does not follow the grammar that goes with the extension. That
of YAML rules out unknown tags and keys that cannot be keys as well. -/
def Ungrammatical (disk : Disk) (extension : Text) (bytes : ByteArray) : Prop :=
  (IsYaml extension ∧ Yaml.read configDepth (disk.yamlSource bytes) = .error .malformed)
    ∨ (¬IsYaml extension ∧ ∃ text fault, Text.decodeText bytes = .ok text
        ∧ Json.read text = .error (.grammar fault))

/-- As far as it is read the content follows the grammar that goes with the
extension, and yet has a fault. -/
def HasFault (disk : Disk) (extension : Text) (bytes : ByteArray) (fault : ContentFault) : Prop :=
  (IsYaml extension ∧ Yaml.read configDepth (disk.yamlSource bytes) = .error (.content fault))
    ∨ (¬IsYaml extension ∧ ((∃ defect, Text.decodeText bytes = .error defect
          ∧ fault = .undecodable defect)
        ∨ ∃ text, Text.decodeText bytes = .ok text ∧ Json.read text = .error (.content fault)))

/-- The content spells a value, in the format that goes with the extension. -/
def HasValue (disk : Disk) (extension : Text) (bytes : ByteArray) (v : Value) : Prop :=
  (IsYaml extension ∧ Yaml.read configDepth (disk.yamlSource bytes) = .ok v)
    ∨ (¬IsYaml extension ∧ ∃ text, Text.decodeText bytes = .ok text ∧ Json.read text = .ok v)

section

variable {disk : Disk} {path extension : Text} {bytes : ByteArray}

theorem parseConfig_of_isYaml (h : IsYaml extension) :
    disk.parseConfig path extension bytes =
      match Yaml.read configDepth (disk.yamlSource bytes) with
      | .ok v => .ok v
      | .error .malformed => .error (.unparsableYaml path)
      | .error (.content fault) => .error (.content fault) :=
  if_pos h

theorem parseConfig_of_not_isYaml (h : ¬IsYaml extension) :
    disk.parseConfig path extension bytes =
      match Text.decodeText bytes with
      | .error fault => .error (.content (.undecodable fault))
      | .ok text =>
        match Json.read text with
        | .ok v => .ok v
        | .error (.grammar fault) => .error (.unparsableJson path fault)
        | .error (.content fault) => .error (.content fault) :=
  if_neg h

theorem parseConfig_eq_ok_iff {v : Value} :
    disk.parseConfig path extension bytes = .ok v ↔ disk.HasValue extension bytes v := by
  by_cases h : IsYaml extension
  · rw [parseConfig_of_isYaml h]
    split <;> simp_all [HasValue]
  · rw [parseConfig_of_not_isYaml h]
    split
    · simp_all [HasValue]
    · split <;> simp_all [HasValue]

theorem parseConfig_of_hasFault {fault : ContentFault} (h : disk.HasFault extension bytes fault) :
    disk.parseConfig path extension bytes = .error (.content fault) := by
  obtain ⟨hyaml, hread⟩ | ⟨hjson, ⟨defect, hdecode, rfl⟩ | ⟨text, hdecode, hread⟩⟩ := h
  · rw [parseConfig_of_isYaml hyaml, hread]
  · rw [parseConfig_of_not_isYaml hjson, hdecode]
  · rw [parseConfig_of_not_isYaml hjson, hdecode]
    simp only [hread]

/-- A content that does not follow the grammar is an error about the file. -/
theorem parseConfig_of_ungrammatical (path : Text) (h : disk.Ungrammatical extension bytes) :
    ∃ e : Error, disk.parseConfig path extension bytes = .error e ∧ e.Blames path := by
  obtain ⟨hyaml, hread⟩ | ⟨hjson, text, fault, hdecode, hread⟩ := h
  · exact ⟨.unparsableYaml path, by rw [parseConfig_of_isYaml hyaml, hread], rfl, rfl⟩
  · refine ⟨.unparsableJson path fault, ?_, rfl, rfl⟩
    rw [parseConfig_of_not_isYaml hjson, hdecode]
    simp only [hread]

/-- A content that spells nothing has a grammar error or another fault. -/
theorem parseConfig_eq_error {e : Error} (h : disk.parseConfig path extension bytes = .error e) :
    (disk.Ungrammatical extension bytes ∧ e.Blames path)
      ∨ ∃ fault, disk.HasFault extension bytes fault ∧ e = .content fault := by
  by_cases hyaml : IsYaml extension
  · rw [parseConfig_of_isYaml hyaml] at h
    split at h
    · simp at h
    · next hread =>
      cases h
      exact Or.inl ⟨Or.inl ⟨hyaml, hread⟩, rfl, rfl⟩
    · next fault hread =>
      cases h
      exact Or.inr ⟨fault, Or.inl ⟨hyaml, hread⟩, rfl⟩
  · rw [parseConfig_of_not_isYaml hyaml] at h
    split at h
    · next defect hdecode =>
      cases h
      exact Or.inr ⟨_, Or.inr ⟨hyaml, Or.inl ⟨defect, hdecode, rfl⟩⟩, rfl⟩
    · next text hdecode =>
      split at h
      · simp at h
      · next fault hread =>
        cases h
        exact Or.inl ⟨Or.inr ⟨hyaml, text, fault, hdecode, hread⟩, rfl, rfl⟩
      · next fault hread =>
        cases h
        exact Or.inr ⟨fault, Or.inr ⟨hyaml, Or.inr ⟨text, hdecode, hread⟩⟩, rfl⟩

/-- Checking the characters of a source does not cut it off with a fault. -/
theorem stop_of_checked {seen : Nat} {source : Yaml.Source} {fault : ContentFault}
    (h : (source.checked seen).stop = some (.content fault)) :
    source.stop = some (.content fault) := by
  unfold Yaml.Source.checked at h
  split at h
  · exact h
  · simp at h

/-- A source of YAML that is cut off with a fault is one whose bytes are no
text. -/
theorem stop_yamlSource {fault : ContentFault}
    (h : (disk.yamlSource bytes).stop = some (.content fault)) :
    ∃ defect, Text.decodeText bytes = .error defect ∧ fault = .undecodable defect := by
  have hstop := stop_of_checked h
  cases hdecode : Text.decodeText bytes with
  | ok text => simp [hdecode, Yaml.Source.whole] at hstop
  | error defect => exact ⟨defect, rfl, by simpa [hdecode, eq_comm] using hstop⟩

/-- **What can be wrong with a content besides its grammar**: its bytes are no
text; or, in YAML, what `Yaml.IsUnconstructible` lists; or, in any other format,
an integer is too long or brackets are nested too deep. -/
theorem HasFault.isPossible {fault : ContentFault} (h : disk.HasFault extension bytes fault) :
    (∃ defect, Text.decodeText bytes = .error defect ∧ fault = .undecodable defect)
      ∨ (IsYaml extension ∧ Yaml.IsUnconstructible fault)
      ∨ (¬IsYaml extension ∧ Json.IsNumeralOrDepth fault) := by
  obtain ⟨hyaml, hread⟩ | ⟨hjson, hdefect | ⟨text, -, hread⟩⟩ := h
  · rcases Yaml.isDue_of_read hread with hfault | hstop
    · exact Or.inr (Or.inl ⟨hyaml, hfault⟩)
    · exact Or.inl (stop_yamlSource hstop)
  · exact Or.inl hdefect
  · exact Or.inr (Or.inr ⟨hjson, Json.isNumeralOrDepth_of_read hread⟩)

end

end Disk

/-! ## Files -/

/-- The file at the path cannot be used as a configuration. -/
inductive Unusable (disk : Disk) (path : Text) : Prop
  /-- It is not there, or the disk refuses to look at it or to open it. -/
  | unopened {fault : OsFault} : disk.read path = .error (.refused fault) → Unusable disk path
  | ungrammatical {bytes : ByteArray} : disk.read path = .ok bytes →
      disk.Ungrammatical (Path.parse path).extension bytes → Unusable disk path
  /-- It holds something, and that is no mapping. -/
  | notMapping {bytes : ByteArray} {v : Value} : disk.read path = .ok bytes →
      disk.HasValue (Path.parse path).extension bytes v → v ≠ .null →
      (∀ entries, v ≠ .map entries) → Unusable disk path

/-- The file at the path can be opened, and its content has a fault that is no
matter of grammar. -/
def FaultyContent (disk : Disk) (path : Text) (fault : ContentFault) : Prop :=
  ∃ bytes, disk.read path = .ok bytes
    ∧ disk.HasFault (Path.parse path).extension bytes fault

section

variable {disk : Disk} {path : Text} {e : Error}

/-- The mapping that a file holds is refused in one of three steps: reading its
bytes, parsing them, and looking at the value. -/
theorem readConfigFile_eq_error_iff (hspelled : (Path.parse path).render = path) :
    readConfigFile disk path = .error e ↔
      disk.readFile path = .error e
        ∨ ∃ bytes, disk.readFile path = .ok bytes
          ∧ (disk.parseConfig path (Path.parse path).extension bytes = .error e
            ∨ ∃ v, disk.HasValue (Path.parse path).extension bytes v ∧ v ≠ .null
              ∧ (∀ entries, v ≠ .map entries) ∧ e = .notMapping path v.kindName) := by
  simp only [readConfigFile, hspelled, bind_eq_error_iff, Disk.parseConfig_eq_ok_iff]
  refine or_congr_right (exists_congr fun bytes => and_congr_right fun _ =>
    or_congr_right (exists_congr fun v => and_congr_right fun _ => ?_))
  cases v <;> simp [pure, Except.pure, throw, throwThe, MonadExceptOf.throw, eq_comm]

theorem readFile_eq_ok_iff {bytes : ByteArray} :
    disk.readFile path = .ok bytes ↔ disk.read path = .ok bytes := by
  unfold Disk.readFile
  split <;> simp_all

/-- The bytes of a file are refused because its path cannot be handed over, or
because it cannot be opened. -/
theorem readFile_eq_error_iff :
    disk.readFile path = .error e ↔
      (∃ fault, disk.spellingFault? path = some fault ∧ e = fault.error)
        ∨ ∃ fault, disk.read path = .error (.refused fault) ∧ e = .unreadable path fault := by
  simp only [← read_eq_misspelled_iff]
  unfold Disk.readFile
  cases disk.read path with
  | ok bytes => simp
  | error fault => cases fault <;> simp [eq_comm]

/-- A file whose mapping is refused has a path that cannot be handed over, or it
is unusable and the error is about it, or its content has a fault that comes out
as it is. -/
theorem readConfigFile_eq_error (hspelled : (Path.parse path).render = path)
    (h : readConfigFile disk path = .error e) :
    (∃ fault, disk.spellingFault? path = some fault ∧ e = fault.error)
      ∨ (Unusable disk path ∧ e.Blames path)
      ∨ ∃ fault, FaultyContent disk path fault ∧ e = .content fault := by
  rcases (readConfigFile_eq_error_iff hspelled).mp h with
    hread | ⟨bytes, hread, hparse | ⟨v, hvalue, hnull, hmap, rfl⟩⟩
  · rcases readFile_eq_error_iff.mp hread with hspelling | ⟨fault, hrefused, rfl⟩
    · exact Or.inl hspelling
    · exact Or.inr (Or.inl ⟨.unopened hrefused, rfl, rfl⟩)
  · rcases Disk.parseConfig_eq_error hparse with ⟨hgrammar, hblames⟩ | ⟨fault, hfault, rfl⟩
    · exact Or.inr (Or.inl ⟨.ungrammatical (readFile_eq_ok_iff.mp hread) hgrammar, hblames⟩)
    · exact Or.inr (Or.inr ⟨fault, ⟨bytes, readFile_eq_ok_iff.mp hread, hfault⟩, rfl⟩)
  · exact Or.inr (Or.inl ⟨.notMapping (readFile_eq_ok_iff.mp hread) hvalue hnull hmap, rfl, rfl⟩)

theorem Unusable.readConfigFile_eq (h : Unusable disk path)
    (hspelled : (Path.parse path).render = path) :
    ∃ e, readConfigFile disk path = .error e ∧ e.Blames path := by
  cases h with
  | @unopened fault hread =>
    exact ⟨.unreadable path fault, (readConfigFile_eq_error_iff hspelled).mpr
      (Or.inl (readFile_eq_error_iff.mpr (Or.inr ⟨fault, hread, rfl⟩))), rfl, rfl⟩
  | ungrammatical hread hgrammar =>
    obtain ⟨e, hparse, hblames⟩ := Disk.parseConfig_of_ungrammatical path hgrammar
    exact ⟨e, (readConfigFile_eq_error_iff hspelled).mpr
      (Or.inr ⟨_, readFile_eq_ok_iff.mpr hread, Or.inl hparse⟩), hblames⟩
  | notMapping hread hvalue hnull hmap =>
    exact ⟨_, (readConfigFile_eq_error_iff hspelled).mpr
      (Or.inr ⟨_, readFile_eq_ok_iff.mpr hread, Or.inr ⟨_, hvalue, hnull, hmap, rfl⟩⟩), rfl, rfl⟩

theorem FaultyContent.readConfigFile_eq {fault : ContentFault} (h : FaultyContent disk path fault)
    (hspelled : (Path.parse path).render = path) :
    readConfigFile disk path = .error (.content fault) := by
  obtain ⟨bytes, hread, hfault⟩ := h
  exact (readConfigFile_eq_error_iff hspelled).mpr (Or.inr ⟨bytes, readFile_eq_ok_iff.mpr hread,
    Or.inl (Disk.parseConfig_of_hasFault hfault)⟩)

/-- How loading a file fails: its path cannot be handed over, the file is
unusable, its content has a fault, or the mapping does not have the documented
shape. -/
theorem loadFile_eq_error (hspelled : (Path.parse path).render = path)
    (h : loadFile disk path = .error e) :
    (∃ fault, disk.spellingFault? path = some fault ∧ e = fault.error)
      ∨ (Unusable disk path ∧ e.Blames path)
      ∨ (∃ fault, FaultyContent disk path fault ∧ e = .content fault)
      ∨ ∃ issues, e = .invalidConfig issues := by
  rcases bind_eq_error_iff.mp h with hread | ⟨entries, -, hrest⟩
  · exact (readConfigFile_eq_error hspelled hread).imp_right (Or.imp_right Or.inl)
  · rcases bind_eq_error_iff.mp hrest with hshape | ⟨_, -, hpure⟩
    · exact Or.inr (Or.inr (Or.inr (ofMapping_eq_error hshape)))
    · cases hpure

theorem Unusable.loadFile_eq (h : Unusable disk path) (hspelled : (Path.parse path).render = path) :
    ∃ e, loadFile disk path = .error e ∧ e.Blames path := by
  obtain ⟨e, hread, hblames⟩ := h.readConfigFile_eq hspelled
  exact ⟨e, bind_eq_error_iff.mpr (Or.inl hread), hblames⟩

theorem FaultyContent.loadFile_eq {fault : ContentFault} (h : FaultyContent disk path fault)
    (hspelled : (Path.parse path).render = path) :
    loadFile disk path = .error (.content fault) :=
  bind_eq_error_iff.mpr (Or.inl (h.readConfigFile_eq hspelled))

theorem loadFile_of_misspelled {fault : SpellingFault}
    (hspelled : (Path.parse path).render = path) (h : disk.spellingFault? path = some fault) :
    loadFile disk path = .error fault.error :=
  bind_eq_error_iff.mpr (Or.inl ((readConfigFile_eq_error_iff hspelled).mpr
    (Or.inl (readFile_eq_error_iff.mpr (Or.inl ⟨fault, h, rfl⟩)))))

end

/-! ## Searches -/

/-- Searches for several names fail as the search for one of them does. -/
theorem findEach_eq_error {find : Text → Except Error (Option Text)} {e : Error} :
    ∀ {names : List Text}, findEach find names = .error e → ∃ name ∈ names, find name = .error e
  | [], h => by simp [findEach] at h
  | name :: rest, h => by
    rcases bind_eq_error_iff.mp h with hhere | ⟨_, -, hrest⟩
    · exact ⟨name, by simp, hhere⟩
    · rcases bind_eq_error_iff.mp hrest with hothers | ⟨_, -, hpure⟩
      · obtain ⟨n, hn, hfind⟩ := findEach_eq_error hothers
        exact ⟨n, List.mem_cons_of_mem _ hn, hfind⟩
      · cases hpure

section

variable {w : World} {workspace path : Text} {e : Error}

/-- A search fails at its start, or at a candidate that is refused. -/
theorem finder_eq_error {name : Text} (hname : IsBareName name) (hclean : w.disk.Spells name)
    (h : w.finder workspace name = .error e) :
    (∃ fault, w.disk.spellingFault? (searchStart w.currentDirectory workspace).render = some fault
        ∧ e = fault.error)
      ∨ ∃ path fault, e = .uninspectable path fault := by
  cases hspelling : w.disk.spellingFault? (searchStart w.currentDirectory workspace).render with
  | some fault =>
    rw [finder_of_misspelled hspelling hname hclean] at h
    exact Or.inl ⟨fault, rfl, (Except.error.inj h).symm⟩
  | none =>
    have hstart := Disk.spells_render_iff.mp (Disk.spellingFault?_eq_none_iff.mp hspelling)
    obtain ⟨path, fault, -, -, rfl⟩ :=
      (firstFile_eq_error_iff (spells_of_mem_candidates hname hclean hstart)).mp h
    exact Or.inr ⟨path, fault, rfl⟩

/-- A workspace that cannot be handed over ends the look-up, if it starts a
search. -/
theorem configPath?_of_misspelled {fault : SpellingFault} (hsettles : w.settleFault? = none)
    (hname : w.configName? = none)
    (h : w.disk.spellingFault? (searchStart w.currentDirectory workspace).render = some fault) :
    w.configPath? workspace = .error fault.error := by
  have hfirst : w.finder workspace "coffeesense.config.yaml" = .error fault.error :=
    finder_of_misspelled h (isBareName_of_mem_configFileNames _ (by simp [configFileNames]))
      (spells_of_mem_configFileNames _ _ (by simp [configFileNames]))
  unfold World.configPath?
  rw [hsettles]
  show w.settled.namedOrNearest? workspace = _
  rw [namedOrNearest?_eq, hname, configFileNames, findEach, hfirst]
  rfl

/-- The look-up of the file of a workspace fails at the `.env` file, at the start
of the searches, or at a candidate that is refused. -/
theorem configPath?_eq_error (h : w.configPath? workspace = .error e) :
    (∃ fault, w.settleFault? = some fault ∧ e = .unsettable fault)
      ∨ (∃ fault, w.settleFault? = none ∧ w.configName? = none
          ∧ w.disk.spellingFault? (searchStart w.currentDirectory workspace).render = some fault
          ∧ e = fault.error)
      ∨ ∃ path fault, e = .uninspectable path fault := by
  unfold World.configPath? at h
  split at h
  · next fault hfault =>
    cases h
    exact Or.inl ⟨fault, hfault, rfl⟩
  · next hsettles =>
    rw [namedOrNearest?_eq] at h
    split at h
    · simp at h
    · next hname =>
      right
      cases heach : findEach (w.finder workspace) configFileNames with
      | ok found => simp [heach, Except.map] at h
      | error e' =>
        obtain rfl : e' = e := by simpa [heach, Except.map] using h
        obtain ⟨name, hmem, hfind⟩ := findEach_eq_error heach
        refine (finder_eq_error (isBareName_of_mem_configFileNames name hmem)
          (spells_of_mem_configFileNames _ name hmem) hfind).imp_left ?_
        rintro ⟨fault, hspelling, he⟩
        exact ⟨fault, hsettles, hname, hspelling, he⟩

/-- The file of a workspace is the one that the variable names, or a candidate
of the searches. -/
theorem configPath?_eq_some (h : w.configPath? workspace = .ok (some path)) :
    w.settleFault? = none
      ∧ ((∃ name, w.configName? = some name ∧ path = absolutizePath name workspace)
        ∨ ∃ name ∈ configFileNames, w.finder workspace name = .ok (some path)) := by
  unfold World.configPath? at h
  split at h
  · simp at h
  · next hsettles =>
    refine ⟨hsettles, ?_⟩
    rw [namedOrNearest?_eq] at h
    split at h
    · next name hname =>
      exact Or.inl ⟨name, hname, (Option.some.inj (Except.ok.inj h)).symm⟩
    · right
      cases heach : findEach (w.finder workspace) configFileNames with
      | error e' => simp [heach, Except.map] at h
      | ok found =>
        have hdeepest : deepest none found = some path := by simpa [heach, Except.map] using h
        rcases mem_of_deepest hdeepest with hnone | hmem
        · cases hnone
        · exact mem_of_findEach heach hmem

/-- The text of a chosen file is the one that its path has. -/
theorem render_parse_of_chosenFile? {file : Option Text}
    (h : w.chosenFile? workspace file = .ok (some path)) : (Path.parse path).render = path := by
  cases file with
  | some file =>
    obtain rfl : absolutizePath file workspace = path := by simpa [World.chosenFile?] using h
    exact render_parse_absolutizePath file workspace
  | none =>
    obtain ⟨-, ⟨name, -, rfl⟩ | ⟨name, hname, hfind⟩⟩ := configPath?_eq_some h
    · exact render_parse_absolutizePath _ workspace
    · obtain ⟨dir, hdir, rfl⟩ := exists_candidate_of_finder hfind
      exact render_parse_candidate (canonical_of_mem_searchDirs hdir)
        (isBareName_of_mem_configFileNames name hname)

end

/-! ## Loading -/

/-- Loading fails when no file can be chosen, or when the chosen one cannot be
loaded. -/
theorem loadConfig_eq_error_iff {w : World} {workspace : Text} {file : Option Text} {e : Error} :
    w.loadConfig workspace file = .error e ↔
      w.chosenFile? (absolutizePath workspace w.currentDirectory) file = .error e
        ∨ ∃ path, w.chosenFile? (absolutizePath workspace w.currentDirectory) file
              = .ok (some path)
            ∧ loadFile w.disk path = .error e := by
  cases hchosen : w.chosenFile? (absolutizePath workspace w.currentDirectory) file with
  | ok found =>
    rw [loadConfig_of_chosenFile? hchosen]
    cases found <;> simp
  | error e' =>
    cases file with
    | some file => simp [World.chosenFile?] at hchosen
    | none =>
      have hpath : w.configPath? (absolutizePath workspace w.currentDirectory) = .error e' := hchosen
      simp [World.loadConfig, hpath, bind, Except.bind]

/-- The undocumented errors of loading the configuration of an absolute
workspace. -/
inductive World.Escapes (w : World) (workspace : Text) (file : Option Text) : Error → Prop
  | content {path : Text} {fault : ContentFault} :
      w.chosenFile? workspace file = .ok (some path) → FaultyContent w.disk path fault →
      Escapes w workspace file (.content fault)
  /-- The `.env` file cannot be read, or sets a variable that cannot be set. -/
  | envFile {fault : SettleFault} : file = none → w.settleFault? = some fault →
      Escapes w workspace file (.unsettable fault)
  /-- The workspace that a search starts from cannot be handed over. -/
  | misspelledStart {fault : SpellingFault} : file = none → w.settleFault? = none →
      w.configName? = none →
      w.disk.spellingFault? (searchStart w.currentDirectory workspace).render = some fault →
      Escapes w workspace file fault.error
  /-- The path of the file cannot be handed over. -/
  | misspelledFile {path : Text} {fault : SpellingFault} :
      w.chosenFile? workspace file = .ok (some path) → w.disk.spellingFault? path = some fault →
      Escapes w workspace file fault.error

section

variable {w : World} {workspace : Text} {file : Option Text} {e : Error}

/-- How loading fails: with an undocumented error, with one about the chosen
file, at the shape of its mapping, or at a candidate that is refused. -/
theorem loadConfig_eq_error (h : w.loadConfig workspace file = .error e) :
    w.Escapes (absolutizePath workspace w.currentDirectory) file e
      ∨ (∃ path, w.chosenFile? (absolutizePath workspace w.currentDirectory) file = .ok (some path)
          ∧ Unusable w.disk path ∧ e.Blames path)
      ∨ (∃ issues, e = .invalidConfig issues) ∨ ∃ path fault, e = .uninspectable path fault := by
  rcases loadConfig_eq_error_iff.mp h with hchosen | ⟨path, hchosen, hload⟩
  · cases file with
    | some file => simp [World.chosenFile?] at hchosen
    | none =>
      rcases configPath?_eq_error hchosen with
        ⟨fault, hfault, rfl⟩ | ⟨fault, hsettles, hname, hspelling, rfl⟩ | hrefused
      · exact Or.inl (.envFile rfl hfault)
      · exact Or.inl (.misspelledStart rfl hsettles hname hspelling)
      · exact Or.inr (Or.inr (Or.inr hrefused))
  · rcases loadFile_eq_error (render_parse_of_chosenFile? hchosen) hload with
      ⟨fault, hspelling, rfl⟩ | hunusable | ⟨fault, hfault, rfl⟩ | hshape
    · exact Or.inl (.misspelledFile hchosen hspelling)
    · exact Or.inr (Or.inl ⟨path, hchosen, hunusable⟩)
    · exact Or.inl (.content hchosen hfault)
    · exact Or.inr (Or.inr (Or.inl hshape))

theorem World.Escapes.not_isDocumented (h : w.Escapes workspace file e) : ¬e.IsDocumented := by
  cases h with
  | content => exact not_isDocumented_content _
  | envFile => exact not_isDocumented_unsettable _
  | misspelledStart => exact SpellingFault.not_isDocumented_error _
  | misspelledFile => exact SpellingFault.not_isDocumented_error _

theorem World.Escapes.loadConfig_eq
    (h : w.Escapes (absolutizePath workspace w.currentDirectory) file e) :
    w.loadConfig workspace file = .error e := by
  rw [loadConfig_eq_error_iff]
  cases h with
  | content hchosen hfault =>
    exact Or.inr ⟨_, hchosen, hfault.loadFile_eq (render_parse_of_chosenFile? hchosen)⟩
  | envFile hnone hfault =>
    left
    rw [hnone, World.chosenFile?, World.configPath?, hfault]
  | misspelledStart hnone hsettles hname hspelling =>
    left
    rw [hnone, World.chosenFile?, configPath?_of_misspelled hsettles hname hspelling]
  | misspelledFile hchosen hspelling =>
    exact Or.inr ⟨_, hchosen,
      loadFile_of_misspelled (render_parse_of_chosenFile? hchosen) hspelling⟩

/-- A content fault that comes out is one of the content, or it is the stray
surrogates of the path. -/
theorem World.Escapes.content_or_path {path : Text} {fault : ContentFault}
    (h : w.Escapes workspace file (.content fault))
    (hchosen : w.chosenFile? workspace file = .ok (some path)) :
    FaultyContent w.disk path fault
      ∨ ∃ defect, w.disk.spellingFault? path = some (.surrogate defect)
          ∧ fault = .unencodable defect := by
  generalize he : Error.content fault = e at h
  cases h with
  | @content other _ hother hfault =>
    obtain rfl : other = path := Option.some.inj (Except.ok.inj (hother.symm.trans hchosen))
    obtain rfl := Error.content.inj he
    exact Or.inl hfault
  | envFile => cases he
  | misspelledStart hnone hsettles hname hspelling =>
    have hnone' : w.chosenFile? workspace none = .ok (some path) := hnone ▸ hchosen
    rw [World.chosenFile?, configPath?_of_misspelled hsettles hname hspelling] at hnone'
    cases hnone'
  | @misspelledFile other spelling hother hspelling =>
    obtain rfl : other = path := Option.some.inj (Except.ok.inj (hother.symm.trans hchosen))
    cases spelling with
    | nul => cases he
    | surrogate defect => exact Or.inr ⟨defect, hspelling, Error.content.inj he⟩

/-- **How loading a configuration fails.** The undocumented errors are those that
`World.Escapes` lists, no more and no fewer. The error is about a configuration
file exactly when that file is the chosen one and is unusable: it cannot be
opened, does not follow its grammar, or holds no mapping. A fault that the
chosen file lets through is that its bytes are no text, or that its path has no
bytes; or it is one of those that its format knows: for YAML, that something is
spelled which does not exist, and for JSON, that an integer is too long or
brackets are nested too deep. -/
theorem loadConfig_fails_iff (w : World) (workspace : Text) (file : Option Text) :
    (∀ e, w.loadConfig workspace file = .error e ∧ ¬e.IsDocumented
        ↔ w.Escapes (absolutizePath workspace w.currentDirectory) file e)
      ∧ (∀ path, (∃ e, w.loadConfig workspace file = .error e ∧ e.Blames path)
        ↔ w.chosenFile? (absolutizePath workspace w.currentDirectory) file = .ok (some path)
          ∧ Unusable w.disk path)
      ∧ (∀ path fault,
          w.chosenFile? (absolutizePath workspace w.currentDirectory) file = .ok (some path) →
          w.loadConfig workspace file = .error (.content fault) →
          (∃ bytes defect, w.disk.read path = .ok bytes ∧ Text.decodeText bytes = .error defect
              ∧ fault = .undecodable defect)
            ∨ (∃ defect, w.disk.spellingFault? path = some (.surrogate defect)
              ∧ fault = .unencodable defect)
            ∨ (IsYaml (Path.parse path).extension ∧ Yaml.IsUnconstructible fault)
            ∨ (¬IsYaml (Path.parse path).extension ∧ Json.IsNumeralOrDepth fault)) := by
  have hescapes : ∀ e, w.loadConfig workspace file = .error e ∧ ¬e.IsDocumented
      ↔ w.Escapes (absolutizePath workspace w.currentDirectory) file e := by
    intro e
    refine ⟨fun ⟨hload, hunknown⟩ => ?_, fun h => ⟨h.loadConfig_eq, h.not_isDocumented⟩⟩
    rcases loadConfig_eq_error hload with
      h | ⟨path, -, -, hblames⟩ | ⟨issues, rfl⟩ | ⟨path, fault, rfl⟩
    · exact h
    · exact absurd hblames.isDocumented hunknown
    · exact absurd (isDocumented_invalidConfig issues) hunknown
    · exact absurd (isDocumented_uninspectable path fault) hunknown
  refine ⟨hescapes, fun path => ⟨?_, ?_⟩, fun path fault hchosen hload => ?_⟩
  · rintro ⟨e, hload, hblames⟩
    rcases loadConfig_eq_error hload with
      h | ⟨other, hchosen, hunusable, hother⟩ | ⟨issues, rfl⟩ | ⟨other, fault, rfl⟩
    · exact absurd hblames.isDocumented h.not_isDocumented
    · rw [hblames.path_unique hother]
      exact ⟨hchosen, hunusable⟩
    · cases hblames.category
    · cases hblames.category
  · rintro ⟨hchosen, hunusable⟩
    obtain ⟨e, hload, hblames⟩ := hunusable.loadFile_eq (render_parse_of_chosenFile? hchosen)
    exact ⟨e, loadConfig_eq_error_iff.mpr (Or.inr ⟨path, hchosen, hload⟩), hblames⟩
  · have h := (hescapes _).mp ⟨hload, not_isDocumented_content fault⟩
    rcases h.content_or_path hchosen with ⟨bytes, hread, hfault⟩ | hspelling
    · rcases hfault.isPossible with ⟨defect, hdecode, rfl⟩ | hformat
      · exact Or.inl ⟨bytes, defect, hread, hdecode, rfl⟩
      · exact Or.inr (Or.inr hformat)
    · exact Or.inr (Or.inl hspelling)

end

def datedText : String := "since: 2020-13-01"

/-- A list, a byte that begins no character, and a month that does not exist. -/
def damagedWorld : World where
  disk := {
    files := [("/ws/list.json", "[]".toUTF8), ("/ws/latin.json", ⟨#[0xff]⟩),
      ("/ws/dated.yaml", datedText.toUTF8)]
    directories := []
    faults := [] }
  currentDirectory := "/"
  environment := []
  envFile := none

theorem decodeText_latin : Text.decodeText ⟨#[0xff]⟩ = .error ⟨.invalidStart, 0, 1, 0xff⟩ := by
  have hinvalid : ¬(ByteArray.mk #[0xff]).IsValidUTF8 := by decide +kernel
  have hfirst : Text.firstFault 0 0 (ByteArray.mk #[0xff]).toList
      = some ⟨.invalidStart, 0, 1, 0xff⟩ := by
    decide +kernel
  rw [Text.decodeText, String.fromUTF8?, dif_neg hinvalid, hfirst]
  rfl

theorem faultyContent_latin :
    FaultyContent damagedWorld.disk "/ws/latin.json"
      (.undecodable ⟨.invalidStart, 0, 1, 0xff⟩) :=
  ⟨_, rfl, Or.inr ⟨by decide, Or.inl ⟨_, decodeText_latin, rfl⟩⟩⟩

theorem faultyContent_dated :
    FaultyContent damagedWorld.disk "/ws/dated.yaml" (.notCalendar .month) := by
  have hallowed : (Text.unifyLineEnds datedText.toList).all Yaml.isAllowed = true := by decide
  have hyaml : Yaml.read configDepth (.whole (Text.unifyLineEnds datedText.toList))
      = .error (.content (.notCalendar .month)) := by
    simp only [datedText, String.reduceToList]
    cbv
  refine ⟨_, rfl, Or.inl ⟨by decide, ?_⟩⟩
  rw [Disk.yamlSource_toUTF8 hallowed, hyaml]

theorem unusable_list : Unusable damagedWorld.disk "/ws/list.json" := by
  have hjson : Json.read (Text.unifyLineEnds "[]".toList) = .ok (.list []) := by
    simp only [String.reduceToList]
    rfl
  exact .notMapping rfl (Or.inr ⟨by decide, _, decodeText_toUTF8 _, hjson⟩) nofun nofun

/-- The list is an error about its file; the month comes out without one, and is
one of the faults that YAML knows. -/
theorem loadConfig_damagedWorld :
    (∃ e, damagedWorld.loadConfig "ws" (some "list.json") = .error e
        ∧ e.Blames "/ws/list.json")
      ∧ damagedWorld.loadConfig "ws" (some "dated.yaml")
        = .error (.content (.notCalendar .month))
      ∧ ¬(Error.content (.notCalendar .month)).IsDocumented
      ∧ Yaml.IsUnconstructible (.notCalendar .month) := by
  obtain ⟨-, hblames, -⟩ := loadConfig_fails_iff damagedWorld "ws" (some "list.json")
  obtain ⟨hescapes, -, hfaults⟩ := loadConfig_fails_iff damagedWorld "ws" (some "dated.yaml")
  have hchosen : damagedWorld.chosenFile? (absolutizePath "ws" damagedWorld.currentDirectory)
      (some "dated.yaml") = .ok (some "/ws/dated.yaml") := rfl
  have hdated : damagedWorld.Escapes (absolutizePath "ws" damagedWorld.currentDirectory)
      (some "dated.yaml") (.content (.notCalendar .month)) :=
    .content hchosen faultyContent_dated
  have hload := (hescapes _).mpr hdated
  refine ⟨(hblames "/ws/list.json").mpr ⟨rfl, unusable_list⟩, hload.1, hload.2, ?_⟩
  rcases hfaults "/ws/dated.yaml" _ hchosen hload.1 with
    ⟨_, _, -, -, h⟩ | ⟨_, -, h⟩ | ⟨-, h⟩ | ⟨h, -⟩
  · cases h
  · cases h
  · exact h
  · exact absurd (by decide) h

/-- Bytes that are no text fail to load with an error that is not documented
and that names no file. -/
theorem loadConfig_latin_undocumented :
    ∃ e, damagedWorld.loadConfig "ws" (some "latin.json") = .error e
      ∧ ¬e.IsDocumented ∧ e.path? = none := by
  have hchosen : damagedWorld.chosenFile? (absolutizePath "ws" damagedWorld.currentDirectory)
      (some "latin.json") = .ok (some "/ws/latin.json") := rfl
  have hescapes : damagedWorld.Escapes (absolutizePath "ws" damagedWorld.currentDirectory)
      (some "latin.json") (.content (.undecodable ⟨.invalidStart, 0, 1, 0xff⟩)) :=
    .content hchosen faultyContent_latin
  exact ⟨_, hescapes.loadConfig_eq, hescapes.not_isDocumented, rfl⟩

end Workspace
