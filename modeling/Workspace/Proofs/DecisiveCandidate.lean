/-
Workspace.Proofs.DecisiveCandidate — what a search through a directory and its
ancestors comes to.

A candidate is decisive when a regular file is there, or when the disk refuses
to look at it for another reason than absence (`Disk.Decides`). The search goes
past all others and ends at the first decisive one (`firstFile_eq_decisive?`):
it takes the file, or it fails with an error about that very candidate. What
lies beyond cannot be seen from the outcome (`firstFile_congr`).

The ancestors of a directory are its parent and the ancestors of that
(`Path.chain_eq_parent`). So a search that goes past the first candidate is the
search from the parent directory, however that one is spelled.

All of this is said of starts and names that can be handed over. From any other
start a search fails without looking anywhere, whether or not there is a
decisive candidate (`finder_misspelled`).
-/
import Workspace.Proofs.SearchChain

namespace Workspace

open Workspace.Path (IsBareName)

/-! ## Decisive candidates -/

/-- The disk refuses to look at the path, and not because the file is absent:
neither is nothing there (2), nor is a file in the way (20). -/
def Disk.Refuses (disk : Disk) (path : Text) (fault : OsFault) : Prop :=
  disk.look path = .error (.refused fault) ∧ fault.number ≠ 2 ∧ fault.number ≠ 20

/-- A search ends at the path: a regular file is there, or the disk refuses to
look. -/
def Disk.Decides (disk : Disk) (path : Text) : Prop :=
  disk.holdsFile path = true ∨ ∃ fault, disk.Refuses path fault

instance (disk : Disk) (path : Text) : Decidable (disk.Decides path) :=
  decidable_of_iff
    ((match disk.look path with
      | .ok (.file _) => true
      | .error (.refused fault) => !fault.isAbsence
      | _ => false) = true)
    (by
      unfold Disk.Decides Disk.holdsFile Disk.Refuses
      cases disk.look path with
      | ok entry => cases entry <;> simp
      | error fault => cases fault <;> simp [OsFault.isAbsence])

section

variable {disk : Disk} {path : Text} {fault : OsFault}

theorem isRegularFile_of_holdsFile (h : disk.holdsFile path = true) :
    isRegularFile disk path = .ok true := by
  unfold Disk.holdsFile at h
  unfold isRegularFile
  split at h
  · next hlook => rw [hlook]
  · simp at h

theorem isRegularFile_of_refuses (h : disk.Refuses path fault) :
    isRegularFile disk path = .error (.uninspectable path fault) := by
  obtain ⟨hlook, hnotFound, hnotDirectory⟩ := h
  have hpresent : fault.isAbsence = false := by simp [OsFault.isAbsence, hnotFound, hnotDirectory]
  simp [isRegularFile, hlook, hpresent]

/-- A candidate that is not decisive is passed over. -/
theorem isRegularFile_of_not_decides (hspells : disk.Spells path) (h : ¬disk.Decides path) :
    isRegularFile disk path = .ok false := by
  have hfile : disk.holdsFile path = false := by simpa using fun hfile => h (Or.inl hfile)
  rw [isRegularFile_of_not_refused hspells, hfile]
  intro fault hlook
  refine Decidable.byContradiction fun hneither => ?_
  exact h (Or.inr ⟨fault, hlook, not_or.mp hneither⟩)

theorem not_holdsFile_of_refuses (h : disk.Refuses path fault) : disk.holdsFile path = false := by
  rw [Disk.holdsFile, h.1]

/-- A disk refuses for one reason. -/
theorem Disk.Refuses.unique {other : OsFault} (h : disk.Refuses path fault)
    (h' : disk.Refuses path other) : fault = other := by
  simpa using h.1.symm.trans h'.1

/-- What is found out about a path is a matter of looking at it. -/
theorem isRegularFile_congr {disk' : Disk} (h : disk'.look path = disk.look path) :
    isRegularFile disk' path = isRegularFile disk path := by
  rw [isRegularFile, isRegularFile, h]

end

/-! ## The first decisive candidate -/

/-- The first of the candidates that is decisive. -/
def Disk.decisive? (disk : Disk) (paths : List Text) : Option Text :=
  paths.find? fun path => disk.Decides path

section

variable {disk : Disk} {paths : List Text}

theorem decides_of_decisive? {path : Text} (h : disk.decisive? paths = some path) :
    disk.Decides path := by
  have hdecides := List.find?_some h
  exact of_decide_eq_true hdecides

/-- **A search is decided by the first decisive candidate**, and finds nothing
where there is none. -/
theorem firstFile_eq_decisive? (hspells : ∀ path ∈ paths, disk.Spells path) :
    firstFile disk paths = match disk.decisive? paths with
      | none => .ok none
      | some path => (isRegularFile disk path).map fun _ => some path := by
  induction paths with
  | nil => rfl
  | cons path rest ih =>
    obtain ⟨hpath, hrest⟩ := List.forall_mem_cons.mp hspells
    rw [firstFile, Disk.decisive?, List.find?_cons]
    by_cases hdecides : disk.Decides path
    · rw [decide_eq_true hdecides]
      rcases hdecides with hfile | ⟨fault, hrefuses⟩
      · simp [isRegularFile_of_holdsFile hfile, Except.map]
      · simp [isRegularFile_of_refuses hrefuses, Except.map]
    · rw [decide_eq_false hdecides, isRegularFile_of_not_decides hpath hdecides]
      exact ih hrest

theorem firstFile_eq_some_iff (hspells : ∀ path ∈ paths, disk.Spells path) {path : Text} :
    firstFile disk paths = .ok (some path)
      ↔ disk.decisive? paths = some path ∧ disk.holdsFile path = true := by
  rw [firstFile_eq_decisive? hspells]
  cases hfirst : disk.decisive? paths with
  | none => simp
  | some q =>
    simp only [Option.some.injEq]
    rcases decides_of_decisive? hfirst with hfile | ⟨fault, hrefuses⟩
    · rw [isRegularFile_of_holdsFile hfile]
      simp only [Except.map, Except.ok.injEq, Option.some.injEq]
      constructor
      · rintro rfl
        exact ⟨rfl, hfile⟩
      · exact And.left
    · rw [isRegularFile_of_refuses hrefuses]
      simp only [Except.map, reduceCtorEq, false_iff, not_and]
      rintro rfl
      simp [not_holdsFile_of_refuses hrefuses]

theorem firstFile_eq_none_iff (hspells : ∀ path ∈ paths, disk.Spells path) :
    firstFile disk paths = .ok none ↔ disk.decisive? paths = none := by
  rw [firstFile_eq_decisive? hspells]
  cases disk.decisive? paths with
  | none => simp
  | some q =>
    simp only [reduceCtorEq, iff_false]
    cases isRegularFile disk q <;> simp [Except.map]

theorem firstFile_eq_error_iff (hspells : ∀ path ∈ paths, disk.Spells path) {e : Error} :
    firstFile disk paths = .error e
      ↔ ∃ path fault, disk.decisive? paths = some path ∧ disk.Refuses path fault
          ∧ e = .uninspectable path fault := by
  rw [firstFile_eq_decisive? hspells]
  cases hfirst : disk.decisive? paths with
  | none => simp
  | some q =>
    simp only [Option.some.injEq]
    rcases decides_of_decisive? hfirst with hfile | ⟨fault, hrefuses⟩
    · rw [isRegularFile_of_holdsFile hfile]
      simp only [Except.map, reduceCtorEq, false_iff]
      rintro ⟨_, fault, rfl, hrefuses, -⟩
      simp [not_holdsFile_of_refuses hrefuses] at hfile
    · rw [isRegularFile_of_refuses hrefuses]
      simp only [Except.map, Except.error.injEq]
      constructor
      · rintro rfl
        exact ⟨q, fault, rfl, hrefuses, rfl⟩
      · rintro ⟨_, other, rfl, hother, rfl⟩
        rw [hrefuses.unique hother]

end

/-- **What lies beyond a decisive candidate does not show**: another disk, on
which the candidates up to this one look the same, gives the same outcome. -/
theorem firstFile_congr {disk disk' : Disk} {before after : List Text} {path : Text}
    (hdecides : disk.Decides path)
    (hsame : ∀ q ∈ before ++ [path], disk'.look q = disk.look q) :
    firstFile disk' (before ++ path :: after) = firstFile disk (before ++ path :: after) := by
  induction before with
  | nil =>
    rw [List.nil_append, firstFile, firstFile, isRegularFile_congr (hsame path (by simp))]
    rcases hdecides with hfile | ⟨fault, hrefuses⟩
    · rw [isRegularFile_of_holdsFile hfile]
    · rw [isRegularFile_of_refuses hrefuses]
  | cons q rest ih =>
    rw [List.cons_append, firstFile, firstFile, isRegularFile_congr (hsame q (by simp))]
    cases isRegularFile disk q with
    | error e => rfl
    | ok found =>
      cases found with
      | true => rfl
      | false => exact ih fun p hp => hsame p (List.mem_cons_of_mem q hp)

/-! ## The search from the parent directory -/

namespace Path

/-- The directory above; a root is its own. -/
def parent (p : Path) : Path :=
  { p with segments := p.segments.dropLast }

/-- The text of a directory spells the directory above. -/
theorem parse_directoryText {p : Path} (h : p.WellSpelled) : parse p.directoryText = p.parent := by
  have hsegments : ∀ s ∈ p.segments.dropLast, IsSegment s := fun s hs =>
    h s ((List.dropLast_sublist _).subset hs)
  rw [directoryText, parse, ofText_append (head?_joinWith hsegments),
    filter_pieces_append _ _ _ (by rfl),
    filter_pieces_joinWith hsegments (by rfl) fun s hs => (hsegments s hs).isStep]
  rfl

/-- The ancestors of a path that is not a root are its parent and the ancestors
of that. -/
theorem chain_eq_parent {p : Path} (h : p.segments ≠ []) : p.chain = p :: p.parent.chain := by
  obtain ⟨anchor, segments⟩ := p
  rw [chain, chain, parent, ← List.tail_reverse]
  cases hr : segments.reverse with
  | nil => exact absurd (List.reverse_eq_nil_iff.mp hr) h
  | cons s before => rw [upward, ← hr, List.reverse_reverse, hr, List.tail_cons]

end Path

section

variable {w : World} {start name : Text}

/-- The candidates of a search, nearest first. -/
def World.candidates (w : World) (start name : Text) : List Text :=
  (searchDirs w.currentDirectory start).map (candidate · name)

theorem finder_eq_firstFile (w : World) (start name : Text) :
    w.finder start name = firstFile w.disk (w.candidates start name) := rfl

/-- Every candidate of a search can be looked up, if the start and the name can. -/
theorem spells_of_mem_candidates (hname : IsBareName name) (hclean : w.disk.Spells name)
    (hstart : w.disk.SpellsPath (searchStart w.currentDirectory start)) :
    ∀ path ∈ w.candidates start name, w.disk.Spells path := by
  intro path hpath
  obtain ⟨dir, hdir, rfl⟩ := List.mem_map.mp hpath
  exact (Disk.spells_candidate_iff hname hclean).mpr
    (hstart.of_holds (Path.mem_chain_iff.mp hdir))

/-- A parent directory, in whatever spelling, is where the search goes next. -/
theorem searchStart_of_parent {parent : Text}
    (h : absolutizePath parent w.currentDirectory
      = (Path.parse (absolutizePath start w.currentDirectory)).directoryText) :
    searchStart w.currentDirectory parent = (searchStart w.currentDirectory start).parent := by
  have hparse := congrArg Path.parse h
  rwa [Path.parse_directoryText (Path.wellSpelled_parse _), parse_absolutizePath,
    parse_absolutizePath] at hparse

/-- The search from a directory whose own candidate is not decisive is the
search from its parent. -/
theorem finder_eq_finder_parent (hspells : ∀ path ∈ w.candidates start name, w.disk.Spells path)
    (hown : ¬w.disk.Decides (candidate (searchStart w.currentDirectory start) name))
    {parent : Text}
    (hparent : absolutizePath parent w.currentDirectory
      = (Path.parse (absolutizePath start w.currentDirectory)).directoryText) :
    w.finder start name = w.finder parent name := by
  have hdirs : searchDirs w.currentDirectory parent
      = (searchStart w.currentDirectory start).parent.chain := by
    rw [searchDirs_eq, searchStart_of_parent hparent]
  by_cases hroot : (searchStart w.currentDirectory start).segments = []
  · -- a root is its own parent
    have hself : (searchStart w.currentDirectory start).parent
        = searchStart w.currentDirectory start := by
      rw [Path.parent, hroot, List.dropLast_nil, ← hroot]
    rw [finder_eq_firstFile, finder_eq_firstFile, World.candidates, World.candidates, hdirs, hself,
      searchDirs_eq]
  · have hsplit : w.candidates start name
        = candidate (searchStart w.currentDirectory start) name :: w.candidates parent name := by
      rw [World.candidates, World.candidates, hdirs, searchDirs_eq, Path.chain_eq_parent hroot,
        List.map_cons]
    have hpast := isRegularFile_of_not_decides (hspells _ (by simp [hsplit])) hown
    rw [finder_eq_firstFile, hsplit, firstFile, hpast]
    rfl

/-- **A search is decided by the nearest decisive candidate.** It finds a file
exactly when that candidate is one, fails exactly when the disk refuses to look
at that candidate, with an error about it, and finds nothing exactly when no
candidate is decisive. Whatever lies beyond a decisive candidate does not show;
and where the candidate of the start itself is not decisive, the search from
the parent directory has the same outcome. -/
theorem finder_of_decisive? (hname : IsBareName name) (hclean : w.disk.Spells name)
    (hstart : w.disk.Spells (absolutizePath start w.currentDirectory)) :
    (∀ path, w.finder start name = .ok (some path)
        ↔ w.disk.decisive? (w.candidates start name) = some path
          ∧ w.disk.holdsFile path = true)
      ∧ (∀ e, w.finder start name = .error e
        ↔ ∃ path fault, w.disk.decisive? (w.candidates start name) = some path
            ∧ w.disk.Refuses path fault ∧ e = .uninspectable path fault)
      ∧ (w.finder start name = .ok none
        ↔ ∀ path ∈ w.candidates start name, ¬w.disk.Decides path)
      ∧ (∀ before path after, w.candidates start name = before ++ path :: after →
          w.disk.Decides path → ∀ disk' : Disk,
          (∀ q ∈ before ++ [path], disk'.look q = w.disk.look q) →
          ({ w with disk := disk' } : World).finder start name = w.finder start name)
      ∧ (¬w.disk.Decides (candidate (searchStart w.currentDirectory start) name) →
          ∀ parent, absolutizePath parent w.currentDirectory
              = (Path.parse (absolutizePath start w.currentDirectory)).directoryText →
            w.finder start name = w.finder parent name) := by
  have hspells := spells_of_mem_candidates hname hclean (Disk.spells_render_iff.mp hstart)
  refine ⟨fun path => firstFile_eq_some_iff hspells, fun e => firstFile_eq_error_iff hspells, ?_,
    fun before path after hsplit hdecides disk' hsame => ?_,
    fun hown parent hparent => finder_eq_finder_parent hspells hown hparent⟩
  · rw [finder_eq_firstFile, firstFile_eq_none_iff hspells, Disk.decisive?, List.find?_eq_none]
    simp
  · show firstFile disk' (w.candidates start name) = firstFile w.disk (w.candidates start name)
    rw [hsplit]
    exact firstFile_congr hdecides hsame

end

/-- On the way up from `/a/b/f/x`: a regular file in the way, a directory with
the name of a manifest, a manifest that may not be looked at, and one beyond it. -/
def obstructedWorld : World where
  disk := {
    files := [("/a/b/f", .empty), ("/package.json", .empty)]
    directories := ["/a/b/package.json"]
    faults := [("/a/package.json", .denied)]
    machine := { encodesPaths := true } }
  currentDirectory := "/a/b"
  environment := []
  envFile := none

/-- The search ends at the refusal, with and without the manifest beyond it, and
so does the search from the parent of its start. -/
theorem finder_obstructedWorld :
    obstructedWorld.finder "f/x" "package.json"
        = .error (.uninspectable "/a/package.json" .denied)
      ∧ ({ obstructedWorld with disk := { obstructedWorld.disk with files := [("/a/b/f", .empty)] } }
          : World).finder "f/x" "package.json"
        = .error (.uninspectable "/a/package.json" .denied)
      ∧ obstructedWorld.finder "./f" "package.json"
        = .error (.uninspectable "/a/package.json" .denied) := by
  have hname : IsBareName "package.json" := by decide
  have hclean : obstructedWorld.disk.Spells "package.json" := by decide
  have hstart : obstructedWorld.disk.Spells
      (absolutizePath "f/x" obstructedWorld.currentDirectory) := by
    decide
  obtain ⟨-, hfails, -, hbeyond, hparent⟩ := finder_of_decisive? hname hclean hstart
  have hrefuses : obstructedWorld.disk.Refuses "/a/package.json" .denied :=
    ⟨by rfl, by decide, by decide⟩
  have hfirst : obstructedWorld.disk.decisive? (obstructedWorld.candidates "f/x" "package.json")
      = some (Text.ofString "/a/package.json") := by
    decide
  have hends := (hfails _).mpr ⟨_, _, hfirst, hrefuses, rfl⟩
  refine ⟨hends, ?_, ?_⟩
  · refine (hbeyond ["/a/b/f/x/package.json", "/a/b/f/package.json", "/a/b/package.json"]
      "/a/package.json" ["/package.json"] (by decide) (Or.inr ⟨_, hrefuses⟩) _ ?_).trans hends
    simp only [List.cons_append, List.nil_append, List.forall_mem_cons]
    exact ⟨rfl, rfl, rfl, rfl, by simp⟩
  · exact (hparent (by decide) "./f" (by decide)).symm.trans hends

/-- A machine that hands over path texts as UTF-8, on a disk with nothing on it. -/
def encodingWorld : World where
  disk := .encoding
  currentDirectory := "/ws"
  environment := []
  envFile := none

/-- The same disk, seen from a current directory with the null character. -/
def severedWorld : World :=
  { encodingWorld with currentDirectory := "/c\x00d" }

/-- **A start without the null character and without a decisive candidate can
end in an error**: one with a stray surrogate does, and so does one that is seen
from a current directory with the null character. -/
theorem finder_misspelled :
    (IsBareName "package.json" ∧ nul ∉ Text.ofString "package.json" ∧ nul ∉ strayText
        ∧ (∀ path ∈ encodingWorld.candidates strayText "package.json",
            ¬encodingWorld.disk.Decides path)
        ∧ encodingWorld.finder strayText "package.json"
          = .error (.content (.unencodable ⟨0xd800, 4, 1⟩)))
      ∧ (IsBareName "x.json" ∧ nul ∉ Text.ofString "x.json" ∧ nul ∉ Text.ofString "a"
        ∧ (∀ path ∈ severedWorld.candidates "a" "x.json", ¬severedWorld.disk.Decides path)
        ∧ severedWorld.finder "a" "x.json" = .error .nulInPath) := by
  refine ⟨⟨?_, ?_, ?_, ?_, ?_⟩, ?_, ?_, ?_, ?_, ?_⟩
  all_goals first | rfl | decide

end Workspace
