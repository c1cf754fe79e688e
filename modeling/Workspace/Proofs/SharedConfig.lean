/-
Workspace.Proofs.SharedConfig — a configuration file means the same from every
workspace that it governs.

A workspace has a say in two things: which file is loaded, and where the
project lies that is there when the file declares none. Once the file is
chosen and declares a project, the workspace is not looked at again
(`loadAndResolve_of_chosenFile?`), so two workspaces with the same file have
the same outcome, errors included (`loadAndResolve_eq_of_chosenFile?`).

A file that the ancestor search finds for one workspace is found for every
workspace in between (`chosenFile?_of_covers`). What lies further up is met by
both searches or by neither, so nothing is assumed about the disk.
-/
import Workspace.Proofs.DocumentedShape
import Workspace.Proofs.LoadFailure
import Workspace.Proofs.NestedProjects
import Workspace.Session

namespace Workspace

/-! ## Which workspaces have the same file -/

/-- No path of several is deeper than the deepest. -/
theorem pathDepth_le_of_deepest {x : Text} :
    ∀ {paths : List Text} {best : Option Text}, deepest best paths = some x →
      ∀ y ∈ best.toList ++ paths, pathDepth y ≤ pathDepth x
  | [], best, h, y, hy => by
    obtain rfl : best = some x := h
    simp_all
  | p :: rest, none, h, y, hy => by
    rw [deepest] at h
    exact pathDepth_le_of_deepest h y (by simpa using hy)
  | p :: rest, some b, h, y, hy => by
    rw [deepest] at h
    simp only [Option.toList_some, List.singleton_append, List.mem_cons] at hy
    split at h
    · next hlt =>
      -- `p` was kept, and `b` is less deep than that
      have hkept := pathDepth_le_of_deepest h
      rcases hy with rfl | hy
      · exact Nat.le_trans (Nat.le_of_lt hlt) (hkept p (by simp))
      · exact hkept y (by simpa using hy)
    · next hle =>
      have hkept := pathDepth_le_of_deepest h
      rcases hy with rfl | rfl | hy
      · exact hkept y (by simp)
      · exact Nat.le_trans (Nat.le_of_not_lt hle) (hkept b (by simp))
      · exact hkept y (by simp [hy])

/-- Searches that agree on what they find, as far as it is like what was found
in all, find the same in all. -/
theorem findEach_eq_of_ok {find find' : Text → Except Error (Option Text)} (near : Text → Prop) :
    ∀ {names found : List Text}, findEach find names = .ok found → (∀ y ∈ found, near y) →
      (∀ name ∈ names, ∀ hit : Option Text, find name = .ok hit → (∀ y, hit = some y → near y) →
        find' name = .ok hit) →
      findEach find' names = .ok found
  | [], found, h, _, _ => h
  | name :: rest, found, h, hnear, hagree => by
    simp only [findEach, bind_eq_ok_iff, pure, Except.pure, Except.ok.injEq] at h
    obtain ⟨hit, hhit, others, hothers, rfl⟩ := h
    have hhere : find' name = .ok hit :=
      hagree name (by simp) hit hhit fun y hy => hnear y (by simp [hy])
    have hrest : findEach find' rest = .ok others :=
      findEach_eq_of_ok near hothers (fun y hy => hnear y (List.mem_append_right _ hy))
        fun n hn => hagree n (List.mem_cons_of_mem _ hn)
    rw [findEach, hhere, hrest]
    rfl

section

variable {w : World} {outer inner path : Text}

/-- A search that finds nothing in between finds what the search that starts
further out finds. -/
theorem finder_eq_of_pathDepth_le {name : Text} (hname : Path.IsBareName name)
    (hinside : (searchStart w.currentDirectory outer).Holds (searchStart w.currentDirectory inner))
    {hit : Option Text} (hinner : w.finder inner name = .ok hit)
    (hfar : ∀ y, hit = some y →
      pathDepth y ≤ (searchStart w.currentDirectory outer).segments.length + 1) :
    w.finder outer name = .ok hit := by
  obtain ⟨between, hbetween, hsearch⟩ := exists_finder_eq_of_holds hinside
  rw [hsearch] at hinner
  cases hnear : firstFile w.disk (between.map (candidate · name)) with
  | error e => simp [hnear] at hinner
  | ok found =>
    rw [hnear] at hinner
    cases found with
    | none => exact hinner
    | some y =>
      obtain rfl : some y = hit := Except.ok.inj hinner
      obtain ⟨dir, hdir, rfl⟩ := List.mem_map.mp (mem_of_firstFile hnear)
      obtain ⟨habove, hholds⟩ := hbetween dir hdir
      have hdepth := hfar _ rfl
      rw [pathDepth_candidate ((canonical_searchStart _ _).of_holds hholds) hname] at hdepth
      have hlt := habove.length_lt
      omega

/-- The configuration file of a workspace is that of every directory above the
workspace in which a search still reaches it. -/
theorem configPath?_eq_of_pathDepth_le (hname : w.configName? = none)
    (hinside : (searchStart w.currentDirectory outer).Holds (searchStart w.currentDirectory inner))
    (h : w.configPath? inner = .ok (some path))
    (hreached : pathDepth path ≤ (searchStart w.currentDirectory outer).segments.length + 1) :
    w.configPath? outer = .ok (some path) := by
  obtain ⟨hsettles, -⟩ := configPath?_eq_some h
  have hsearches : ∀ start, w.configPath? start
      = (findEach (w.finder start) configFileNames).map (deepest none) := by
    intro start
    unfold World.configPath?
    rw [hsettles]
    show w.settled.namedOrNearest? start = _
    rw [namedOrNearest?_eq, hname]
  rw [hsearches] at h ⊢
  obtain ⟨found, hfound, hdeepest⟩ := map_eq_ok_iff.mp h
  refine map_eq_ok_iff.mpr ⟨found, ?_, hdeepest⟩
  refine findEach_eq_of_ok
    (fun y => pathDepth y ≤ (searchStart w.currentDirectory outer).segments.length + 1) hfound ?_ ?_
  · intro y hy
    exact Nat.le_trans (pathDepth_le_of_deepest hdeepest y (by simpa using hy)) hreached
  · intro name hmem hit hhit hnear
    exact finder_eq_of_pathDepth_le (isBareName_of_mem_configFileNames name hmem) hinside hhit hnear

end

/-- **A file that is found for a workspace is found for every directory between
the two**, unless the variable names the file. -/
theorem chosenFile?_of_covers {w : World} (hcwd : IsAbsolutePath w.currentDirectory)
    {workspace outer path : Text} (hname : w.configName? = none)
    (h : w.chosenFile? (absolutizePath workspace w.currentDirectory) none = .ok (some path))
    (hinside : Covers (absolutizePath outer w.currentDirectory)
      (absolutizePath workspace w.currentDirectory))
    (hgoverns : Covers (Path.parse path).directoryText
      (absolutizePath outer w.currentDirectory)) :
    w.chosenFile? (absolutizePath outer w.currentDirectory) none = .ok (some path) := by
  have hworkspace := isCanonical_absolutizePath hcwd workspace
  have houter := isCanonical_absolutizePath hcwd outer
  have hpath : IsCanonical path := isCanonical_of_configPath? hcwd hworkspace.isAbsolute h
  rw [houter.covers_iff, hworkspace.canonical_parse.normalize_eq] at hinside
  rw [(isCanonical_directoryText hpath).covers_iff, houter.canonical_parse.normalize_eq] at hgoverns
  have hholds : (searchStart w.currentDirectory (absolutizePath outer w.currentDirectory)).Holds
      (searchStart w.currentDirectory (absolutizePath workspace w.currentDirectory)) := by
    rwa [searchStart_of_isCanonical houter, searchStart_of_isCanonical hworkspace]
  refine configPath?_eq_of_pathDepth_le hname hholds h ?_
  have hlength := hgoverns.2.length_le
  rw [segments_directoryText hpath, List.length_dropLast] at hlength
  rw [searchStart_of_isCanonical houter, hpath.pathDepth_eq]
  omega

/-! ## The outcome of a chosen file -/

/-- A configuration declares a project. -/
def UserConfig.Declares (config : UserConfig) : Prop :=
  config.projects.getD [] ≠ []

theorem declarationsOf_of_declares {config : UserConfig} (h : config.Declares)
    (workspace : Text) : declarationsOf workspace config = config.projects.getD [] := by
  unfold declarationsOf
  split
  · next hnil => exact absurd hnil h
  · rfl

/-- A configuration that declares a project resolves without the workspace. -/
theorem resolve_of_declares {config : UserConfig} (h : config.Declares) (find : Finder)
    (base workspace workspace' : Text) :
    resolve find base workspace config = resolve find base workspace' config := by
  simp only [resolve, declarationsOf_of_declares h]

/-- What a chosen file comes to: its configuration, resolved from its
directory. -/
theorem loadAndResolve_of_chosenFile? {w : World} {workspace path : Text} {file : Option Text}
    (h : w.chosenFile? (absolutizePath workspace w.currentDirectory) file = .ok (some path)) :
    w.loadAndResolve workspace file = (do
      let loaded ← loadFile w.disk path
      return (loaded.base, ← resolve w.finder loaded.base workspace loaded.config)) := by
  rw [World.loadAndResolve, loadConfig_of_chosenFile? h]

/-- **Two workspaces with the same configuration file have the same outcome**,
however each of them came by the file, if the file declares a project: the same
base, settings, projects and repeated roots, or the same error. -/
theorem loadAndResolve_eq_of_chosenFile? {w : World} {workspace workspace' path : Text}
    {file file' : Option Text}
    (h : w.chosenFile? (absolutizePath workspace w.currentDirectory) file = .ok (some path))
    (h' : w.chosenFile? (absolutizePath workspace' w.currentDirectory) file' = .ok (some path))
    (hdeclares : ∀ loaded, loadFile w.disk path = .ok loaded → loaded.config.Declares) :
    w.loadAndResolve workspace file = w.loadAndResolve workspace' file' := by
  rw [loadAndResolve_of_chosenFile? h, loadAndResolve_of_chosenFile? h']
  cases hload : loadFile w.disk path with
  | error e => rfl
  | ok loaded =>
    show (do return (loaded.base, ← resolve w.finder loaded.base workspace loaded.config))
      = (do return (loaded.base, ← resolve w.finder loaded.base workspace' loaded.config))
    rw [resolve_of_declares (hdeclares loaded hload) w.finder loaded.base workspace workspace']

/-- A mapping that declares one project. -/
def oneProjectText : String := "\x7b\"projects\": [\"p\"]\x7d"

theorem read_oneProjectText :
    Json.read (Text.unifyLineEnds oneProjectText.toList)
      = .ok (.map [(.str "projects", .list [.str "p"])]) := by
  simp only [oneProjectText, String.reduceToList]
  rfl

/-- One configuration above two workspaces, and a third one beside them. -/
def sharingWorld : World where
  disk := {
    files := [("/a/coffeesense.config.json", oneProjectText.toUTF8)]
    directories := []
    faults := [] }
  currentDirectory := "/a"
  environment := []
  envFile := none

theorem looksFreely_sharingWorld : sharingWorld.LooksFreely "/a/b/c" where
  settles := by decide
  inspectable := fun _ => by decide +kernel

theorem chosenFile?_sharingWorld :
    sharingWorld.chosenFile? "/a/b/c" none = .ok (some "/a/coffeesense.config.json") := by
  have hname : sharingWorld.configName? = none := by decide
  have hfirst : (walked configFileNames (searchDirs sharingWorld.currentDirectory "/a/b/c")).find?
      sharingWorld.disk.holdsFile = some (Text.ofString "/a/coffeesense.config.json") := by
    decide +kernel
  rw [World.chosenFile?, configPath?_eq_nearestConfig? looksFreely_sharingWorld,
    nearestConfig?_eq_find? looksFreely_sharingWorld hname (by decide)
      (Disk.Spells.parse (by decide)), hfirst]

theorem loadFile_sharingWorld :
    loadFile sharingWorld.disk "/a/coffeesense.config.json"
      = .ok ⟨"/a", ⟨none, some [.path "p"]⟩⟩ :=
  loadFile_eq_ok_iff.mpr ⟨_, readConfigFile_of_json rfl rfl read_oneProjectText, rfl, rfl⟩

/-- What the file resolves to, from any workspace. -/
def sharedResolution : Resolution :=
  ⟨⟨[], [⟨"/a/p", none, none⟩]⟩, []⟩

theorem resolve_sharingWorld (workspace : Text) :
    resolve sharingWorld.finder "/a" workspace ⟨none, some [.path "p"]⟩ = .ok sharedResolution := by
  have hsorted : resolve sharingWorld.finder "/a" workspace ⟨none, some [.path "p"]⟩
      = .ok ⟨⟨[], sortByDepth [⟨"/a/p", none, none⟩]⟩, []⟩ := rfl
  rw [hsorted, sortByDepth_singleton]
  rfl

/-- The workspace that is searched from, a directory on the way, and a
workspace that asks for the file by a path of its own, have one outcome. -/
theorem loadAndResolve_sharingWorld :
    sharingWorld.loadAndResolve "b/c" none = sharingWorld.loadAndResolve "b" none
      ∧ sharingWorld.loadAndResolve "b/c" none
          = sharingWorld.loadAndResolve "../x/y" (some "../../a//coffeesense.config.json")
      ∧ sharingWorld.loadAndResolve "b/c" none = .ok ("/a", sharedResolution) := by
  have hinner : absolutizePath "b/c" sharingWorld.currentDirectory = "/a/b/c" := by decide
  have houter : absolutizePath "b" sharingWorld.currentDirectory = "/a/b" := by decide
  have hchosen : sharingWorld.chosenFile? (absolutizePath "b/c" sharingWorld.currentDirectory) none
      = .ok (some "/a/coffeesense.config.json") := by
    rw [hinner, chosenFile?_sharingWorld]
  have hdeclares : ∀ loaded,
      loadFile sharingWorld.disk "/a/coffeesense.config.json" = .ok loaded →
        loaded.config.Declares := by
    intro loaded hloaded
    obtain rfl := Except.ok.inj (loadFile_sharingWorld.symm.trans hloaded)
    exact List.cons_ne_nil _ _
  have hcwd : IsAbsolutePath sharingWorld.currentDirectory := by decide
  have houterRoot : IsCanonical (Text.ofString "/a/b") :=
    houter ▸ isCanonical_absolutizePath hcwd "b"
  have hfileRoot : IsCanonical (Path.parse "/a/coffeesense.config.json").directoryText :=
    (by decide : absolutizePath "." sharingWorld.currentDirectory
      = (Path.parse "/a/coffeesense.config.json").directoryText)
      ▸ isCanonical_absolutizePath hcwd "."
  have hbetween : sharingWorld.chosenFile? (absolutizePath "b" sharingWorld.currentDirectory) none
      = .ok (some "/a/coffeesense.config.json") := by
    refine chosenFile?_of_covers hcwd (by decide) hchosen ?_ ?_
    · rw [hinner, houter]
      exact (isPathWithin_iff_covers houterRoot _).mp (by decide)
    · rw [houter]
      exact (isPathWithin_iff_covers hfileRoot _).mp (by decide)
  refine ⟨loadAndResolve_eq_of_chosenFile? hchosen hbetween hdeclares,
    loadAndResolve_eq_of_chosenFile? hchosen rfl hdeclares, ?_⟩
  simp only [loadAndResolve_of_chosenFile? hchosen, loadFile_sharingWorld, bind, Except.bind,
    resolve_sharingWorld, pure, Except.pure]

end Workspace
