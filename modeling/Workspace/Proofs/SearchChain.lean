/-
Workspace.Proofs.SearchChain — where a search looks, and what it takes.

A search visits a canonical directory and its ancestors
(`canonical_of_mem_searchDirs`), so for a bare file name every candidate is
canonical as it stands (`normalizePath_candidate`) and one segment deeper
than its directory (`pathDepth_candidate`).

A disk either says of each candidate whether it is a regular file, in which
case the search is `List.find?` (`firstFile_of_inspectable`), or it refuses.
A start that cannot be handed over ends a search at once: the first directory
has every segment of the others, so what is wrong with one of them is wrong
with the first candidate (`finder_of_misspelled`).
-/
import Workspace.Proofs.PathText
import Workspace.Search

namespace Workspace

open Text (pieces joinWith)

namespace Path

/-! ## Files in a directory -/

/-- The path that goes on from `dir` by one segment. -/
def child (dir : Path) (name : Text) : Path :=
  { dir with segments := dir.segments ++ [name] }

/-- A file name that is no path: one segment, and not the one that leads
upwards. -/
structure IsBareName (name : Text) : Prop where
  isSegment : IsSegment name
  notParent : name ≠ parentStep

instance (name : Text) : Decidable (IsBareName name) :=
  decidable_of_iff (IsSegment name ∧ name ≠ parentStep)
    ⟨fun h => ⟨h.1, h.2⟩, fun h => ⟨h.isSegment, h.notParent⟩⟩

theorem parse_of_isBareName {name : Text} (h : IsBareName name) :
    parse name = ⟨.relative, [name]⟩ := by
  have hspelled : (⟨.relative, [name]⟩ : Path).WellSpelled := by
    intro s hs
    rw [List.mem_singleton.mp hs]
    exact h.isSegment
  have hparse := parse_render hspelled
  have hrender : (⟨.relative, [name]⟩ : Path).render = name := by
    simp [render, Anchor.text, joinWith]
  rwa [hrender] at hparse

theorem Canonical.child {dir : Path} (h : dir.Canonical) {name : Text} (hname : IsBareName name) :
    (dir.child name).Canonical where
  wellSpelled := by
    intro s hs
    rcases List.mem_append.mp hs with hs | hs
    · exact h.wellSpelled s hs
    · rw [List.mem_singleton.mp hs]
      exact hname.isSegment
  settled := by
    show Settled dir.isAbsolute (dir.segments ++ [name]).reverse
    rw [List.reverse_concat]
    exact ⟨fun e => absurd e hname.notParent, h.settled⟩

end Path

open Workspace.Path (IsBareName)

theorem candidate_eq {name : Text} (h : IsBareName name) (dir : Path) :
    candidate dir name = (dir.child name).render := by
  rw [candidate, Path.parse_of_isBareName h]
  rfl

/-- The text of a candidate is the one that its path has. -/
theorem render_parse_candidate {dir : Path} (hdir : dir.Canonical) {name : Text}
    (h : IsBareName name) : (Path.parse (candidate dir name)).render = candidate dir name := by
  rw [candidate_eq h, Path.parse_render (hdir.child h).wellSpelled]

theorem normalizePath_candidate {dir : Path} (hdir : dir.Canonical) {name : Text}
    (h : IsBareName name) : normalizePath (candidate dir name) = candidate dir name := by
  rw [candidate_eq h, normalizePath_render (hdir.child h)]

theorem pathDepth_candidate {dir : Path} (hdir : dir.Canonical) {name : Text}
    (h : IsBareName name) : pathDepth (candidate dir name) = dir.segments.length + 1 := by
  rw [candidate_eq h,
    Path.pathDepth_render (hdir.child h).wellSpelled (Or.inr (by simp [Path.child]))]
  simp [Path.child]

theorem candidate_ne_nil {dir : Path} (hdir : dir.Canonical) {name : Text} (h : IsBareName name) :
    candidate dir name ≠ [] := by
  intro hnil
  have hdepth := pathDepth_candidate hdir h
  rw [hnil] at hdepth
  simp [pathDepth, pieces] at hdepth

/-- A candidate in an absolute directory is canonical. -/
theorem isCanonical_candidate {dir : Path} (hdir : dir.Canonical) (habs : dir.isAbsolute = true)
    {name : Text} (h : IsBareName name) : IsCanonical (candidate dir name) := by
  rw [candidate_eq h]
  exact isCanonical_render (hdir.child h) habs

/-- A file name that is clean itself does no harm to a directory. -/
theorem Disk.spells_candidate_iff {disk : Disk} {dir : Path} {name : Text} (h : IsBareName name)
    (hname : disk.Spells name) : disk.Spells (candidate dir name) ↔ disk.SpellsPath dir := by
  rw [candidate_eq h, Disk.spells_render_iff]
  show (∀ s ∈ dir.segments ++ [name], disk.Spells s) ↔ ∀ s ∈ dir.segments, disk.Spells s
  rw [List.forall_mem_append, and_iff_left (List.forall_mem_singleton.mpr hname)]

/-- A candidate is refused for what is wrong with its directory. -/
theorem Disk.spellingFault?_candidate {disk : Disk} {dir : Path} {name : Text}
    (h : IsBareName name) (hname : disk.Spells name) :
    disk.spellingFault? (candidate dir name) = disk.spellingFault? dir.render := by
  by_cases hsegments : dir.segments = []
  · have hdir : disk.SpellsPath dir := by simp [Disk.SpellsPath, hsegments]
    rw [Disk.spellingFault?_eq_none_iff.mpr ((Disk.spells_candidate_iff h hname).mpr hdir),
      Disk.spellingFault?_eq_none_iff.mpr (Disk.spells_render_iff.mpr hdir)]
  · have happend : candidate dir name = dir.render ++ .char '/' :: name := by
      rw [candidate_eq h]
      simp [Path.render, Path.child, hsegments, Text.joinWith_concat hsegments]
    rw [happend]
    refine Disk.spellingFault?_append ?_ (by simp [CodePoint.isSurrogate])
    exact Disk.spells_cons.mpr ⟨Disk.not_bars_char (by decide), hname⟩

/-! ## The directories of a search -/

/-- The directory where a search starts. -/
def searchStart (currentDirectory start : Text) : Path :=
  ((Path.parse currentDirectory).under (Path.parse start)).normalize

theorem searchDirs_eq (currentDirectory start : Text) :
    searchDirs currentDirectory start = (searchStart currentDirectory start).chain := rfl

theorem canonical_searchStart (currentDirectory start : Text) :
    (searchStart currentDirectory start).Canonical :=
  Path.canonical_normalize ((Path.wellSpelled_parse _).under (Path.wellSpelled_parse _))

/-- A search visits canonical directories. -/
theorem canonical_of_mem_searchDirs {currentDirectory start : Text} {dir : Path}
    (h : dir ∈ searchDirs currentDirectory start) : dir.Canonical :=
  (canonical_searchStart currentDirectory start).of_holds (Path.mem_chain_iff.mp h)

/-- Seen from an absolute directory a search visits absolute directories. -/
theorem isAbsolute_of_mem_searchDirs {currentDirectory start : Text}
    (hcwd : IsAbsolutePath currentDirectory) {dir : Path}
    (h : dir ∈ searchDirs currentDirectory start) : dir.isAbsolute = true := by
  have hstart : (searchStart currentDirectory start).isAbsolute = true := by
    have habs := isAbsolutePath_absolutizePath hcwd start
    rwa [IsAbsolutePath, parse_absolutizePath] at habs
  exact (Path.mem_chain_iff.mp h).isAbsolute_eq.trans hstart

/-- From an absolute directory a search starts at its normal form. -/
theorem searchStart_of_isAbsolute {start : Text} (h : IsAbsolutePath start)
    (currentDirectory : Text) :
    searchStart currentDirectory start = (Path.parse start).normalize := by
  have habs : (Path.parse start).isAbsolute = true := h
  rw [searchStart, Path.under, if_pos habs]

/-- From a canonical directory a search starts right there. -/
theorem searchStart_of_isCanonical {start : Text} (h : IsCanonical start)
    (currentDirectory : Text) : searchStart currentDirectory start = Path.parse start := by
  rw [searchStart_of_isAbsolute h.isAbsolute, h.canonical_parse.normalize_eq]

theorem Disk.spellsPath_searchStart {disk : Disk} {currentDirectory start : Text}
    (hcwd : disk.Spells currentDirectory) (hstart : disk.SpellsPath (Path.parse start)) :
    disk.SpellsPath (searchStart currentDirectory start) :=
  (hcwd.parse.under hstart).normalize

theorem Path.chain_eq_cons (p : Path) : ∃ rest, p.chain = p :: rest := by
  obtain ⟨anchor, segments⟩ := p
  rw [Path.chain]
  cases hr : segments.reverse with
  | nil => exact ⟨[], by simp [Path.upward, List.reverse_eq_nil_iff.mp hr]⟩
  | cons s before =>
    refine ⟨Path.upward anchor before, ?_⟩
    rw [Path.upward, ← hr, List.reverse_reverse]

/-! ## Taking the first regular file -/

/-- A regular file lies at the path. -/
def Disk.holdsFile (disk : Disk) (path : Text) : Bool :=
  match disk.look path with
  | .ok (.file _) => true
  | _ => false

/-- No candidate with one of the names is refused but for being absent:
nothing is there (2), or a file is in the way (20). -/
def Inspectable (disk : Disk) (names : List Text) (dirs : List Path) : Prop :=
  ∀ dir ∈ dirs, ∀ name ∈ names, ∀ fault,
    disk.look (candidate dir name) = .error (.refused fault) → fault.number = 2 ∨ fault.number = 20

instance (disk : Disk) (names : List Text) (dirs : List Path) :
    Decidable (Inspectable disk names dirs) :=
  decidable_of_iff
    (∀ dir ∈ dirs, ∀ name ∈ names,
      (match disk.look (candidate dir name) with
        | .error (.refused fault) => fault.isAbsence
        | _ => true) = true)
    (by
      refine forall₂_congr fun dir _ => forall₂_congr fun name _ => ?_
      split
      · next fault hlook => simp [hlook, OsFault.isAbsence]
      · next hlook => simpa using fun fault h => absurd h (hlook fault))

/-- A text that is no path is refused for what is wrong with it, and no other
text is. -/
theorem look_eq_misspelled_iff {disk : Disk} {path : Text} {fault : SpellingFault} :
    disk.look path = .error (.misspelled fault) ↔ disk.spellingFault? path = some fault := by
  unfold Disk.look
  cases disk.spellingFault? path with
  | some fault => simp
  | none =>
    simp only [reduceCtorEq, iff_false]
    repeat' split
    all_goals simp

/-- Reading adds nothing to what is wrong with a text. -/
theorem read_eq_misspelled_iff {disk : Disk} {path : Text} {fault : SpellingFault} :
    disk.read path = .error (.misspelled fault) ↔ disk.spellingFault? path = some fault := by
  rw [← look_eq_misspelled_iff]
  unfold Disk.read
  cases disk.look path with
  | error fault => simp
  | ok entry =>
    cases disk.machine.locks.lookup (Disk.collapseStart path) <;> cases entry <;> simp

theorem not_look_eq_misspelled {disk : Disk} {path : Text} {fault : SpellingFault}
    (h : disk.Spells path) : disk.look path ≠ .error (.misspelled fault) := by
  simp [Ne, look_eq_misspelled_iff, Disk.spellingFault?_eq_none_iff.mpr h]

theorem isRegularFile_of_misspelled {disk : Disk} {path : Text} {fault : SpellingFault}
    (h : disk.spellingFault? path = some fault) :
    isRegularFile disk path = .error fault.error := by
  rw [isRegularFile, look_eq_misspelled_iff.mpr h]

/-- A path that is not refused is tested. -/
theorem isRegularFile_of_not_refused {disk : Disk} {path : Text} (hspells : disk.Spells path)
    (h : ∀ fault, disk.look path = .error (.refused fault) →
      fault.number = 2 ∨ fault.number = 20) :
    isRegularFile disk path = .ok (disk.holdsFile path) := by
  unfold isRegularFile Disk.holdsFile
  cases hlook : disk.look path with
  | ok entry => cases entry <;> rfl
  | error fault =>
    cases fault with
    | misspelled fault => exact absurd hlook (not_look_eq_misspelled hspells)
    | refused fault =>
      have habsent : fault.isAbsence = true := by
        simpa [OsFault.isAbsence] using h fault hlook
      simp [habsent]

/-- Where every candidate is tested, the search is `List.find?`. -/
theorem firstFile_of_inspectable {disk : Disk} :
    ∀ {paths : List Text},
      (∀ path ∈ paths, isRegularFile disk path = .ok (disk.holdsFile path)) →
      firstFile disk paths = .ok (paths.find? disk.holdsFile)
  | [], _ => rfl
  | path :: rest, h => by
    rw [firstFile, h path (by simp), List.find?_cons]
    cases disk.holdsFile path with
    | true => rfl
    | false => exact firstFile_of_inspectable fun q hq => h q (by simp [hq])

/-- What a search takes is one of its candidates. -/
theorem mem_of_firstFile {disk : Disk} {path : Text} :
    ∀ {paths : List Text}, firstFile disk paths = .ok (some path) → path ∈ paths
  | [], h => by simp [firstFile] at h
  | p :: rest, h => by
    rw [firstFile] at h
    split at h
    · simp at h
    · simp only [Except.ok.injEq, Option.some.injEq] at h
      simp [h]
    · exact List.mem_cons_of_mem _ (mem_of_firstFile h)

/-- A start directory that is no path ends every search at once. -/
theorem finder_of_misspelled {w : World} {start name : Text} {fault : SpellingFault}
    (hfault : w.disk.spellingFault? (searchStart w.currentDirectory start).render = some fault)
    (hname : IsBareName name) (hclean : w.disk.Spells name) :
    w.finder start name = .error fault.error := by
  obtain ⟨rest, hrest⟩ := Path.chain_eq_cons (searchStart w.currentDirectory start)
  have hfirst := (Disk.spellingFault?_candidate hname hclean).trans hfault
  unfold World.finder findConfigFile
  rw [searchDirs_eq, hrest, List.map_cons, firstFile, isRegularFile_of_misspelled hfirst]

/-- What a search of a world takes lies in one of the directories visited. -/
theorem exists_candidate_of_finder {w : World} {start name path : Text}
    (h : w.finder start name = .ok (some path)) :
    ∃ dir ∈ searchDirs w.currentDirectory start, candidate dir name = path :=
  List.mem_map.mp (mem_of_firstFile h)

end Workspace
