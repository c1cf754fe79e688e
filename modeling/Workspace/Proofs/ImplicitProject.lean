/-
Workspace.Proofs.ImplicitProject — where the project of a workspace is that
declares none.

The program loads a configuration for a workspace seen from the current
directory, and roots the project that nobody declared at the same workspace
seen from the base of that configuration. For an absolute workspace the two
are one. A relative path goes up some directories first and then down
(`Path.wayUp`, `Path.wayDown`); normalizing what it leads to from a directory
appends the way down to what the way up leads to (`Path.normalize_under_eq`).
So two directories lead to one place exactly when their ways up do
(`absolutizePath_eq_absolutizePath_iff`).

`root_of_undeclared` says where the project is and exactly when that is the
workspace. It need not be: without a configuration file the base is the
workspace, and a relative workspace is taken from itself
(`root_ne_workspace_bareWorld`).
-/
import Mathlib.Data.List.TakeWhile
import Workspace.Proofs.LoadedShape

namespace Workspace

namespace Path

/-! ## Up and down -/

/-- Cancelling among themselves first makes no difference to what segments do
to those kept before. -/
theorem foldl_cancelStep_cancel (absolute : Bool) (kept segments : List Text) :
    (cancel false segments).foldl (cancelStep absolute) kept
      = segments.foldl (cancelStep absolute) kept := by
  -- the segments are gone through from the last one
  induction hs : segments.reverse generalizing segments with
  | nil => rw [List.reverse_eq_nil_iff.mp hs]; rfl
  | cons s before ih =>
    obtain rfl : segments = before.reverse ++ [s] := by
      rw [← List.reverse_cons, ← hs, List.reverse_reverse]
    have ih := ih before.reverse (List.reverse_reverse _)
    rw [List.foldl_append, ← ih]
    simp only [cancel, List.foldl_append, List.foldl_cons, List.foldl_nil]
    generalize before.reverse.foldl (cancelStep false) [] = inner
    by_cases hstep : s = parentStep
    · subst hstep
      cases inner with
      | nil => simp [cancelStep]
      | cons last rest =>
        by_cases hlast : last = parentStep
        · simp [cancelStep, hlast]
        · simp [cancelStep, hlast]
    · simp [cancelStep, hstep]

/-- Segments that lead down are all kept. -/
theorem foldl_cancelStep_down (absolute : Bool) :
    ∀ {segments kept : List Text}, (∀ s ∈ segments, s ≠ parentStep) →
      segments.foldl (cancelStep absolute) kept = segments.reverse ++ kept
  | [], _, _ => rfl
  | s :: rest, kept, h => by
    simp only [List.forall_mem_cons] at h
    have hkept : cancelStep absolute kept s = s :: kept := if_neg h.1
    rw [List.foldl_cons, hkept, foldl_cancelStep_down absolute h.2]
    simp

/-- Behind the first segment that leads down, all do. -/
theorem Settled.ne_parentStep {absolute : Bool} :
    ∀ {kept : List Text}, Settled absolute kept →
      ∀ s ∈ kept.reverse.dropWhile (· = parentStep), s ≠ parentStep
  | [], _ => by simp
  | last :: before, h => by
    rw [List.reverse_cons, List.dropWhile_append]
    split
    · intro s hs
      by_cases hlast : last = parentStep
      · simp [hlast] at hs
      · obtain rfl : s = last := by simpa [hlast] using hs
        exact hlast
    · next hdown =>
      intro s hs
      rcases List.mem_append.mp hs with hs | hs
      · exact Settled.ne_parentStep h.2 s hs
      · rw [List.mem_singleton.mp hs]
        intro hlast
        -- then nothing before leads down
        refine hdown (List.isEmpty_iff.mpr (List.dropWhile_eq_nil_iff.mpr fun k hk => ?_))
        simpa using (h.1 hlast).2 k (List.mem_reverse.mp hk)

/-- The steps upward that a path begins with once it is normalized. -/
def wayUp (p : Path) : Path :=
  { p with segments := p.normalize.segments.takeWhile (· = parentStep) }

/-- The segments that follow the way up. -/
def wayDown (p : Path) : List Text :=
  p.normalize.segments.dropWhile (· = parentStep)

theorem ne_parentStep_of_mem_wayDown {p : Path} : ∀ s ∈ p.wayDown, s ≠ parentStep := by
  have hdown := p.settled_normalize.ne_parentStep
  rwa [List.reverse_reverse] at hdown

theorem wellSpelled_wayUp (p : Path) : p.wayUp.WellSpelled := by
  intro s hs
  have hstep : s = parentStep := by
    simpa using List.mem_takeWhile_imp hs
  rw [hstep]
  decide

/-- Below a root nothing leads up. -/
theorem Settled.parentStep_not_mem :
    ∀ {kept : List Text}, Settled true kept → parentStep ∉ kept
  | [], _ => by simp
  | last :: before, h => by
    rw [List.mem_cons, not_or]
    refine ⟨fun hlast => ?_, Settled.parentStep_not_mem h.2⟩
    simpa using (h.1 hlast.symm).1

/-- An absolute path does not lead up. -/
theorem wayUp_of_isAbsolute {p : Path} (h : p.isAbsolute = true) :
    p.wayUp = { p with segments := [] } := by
  have hsettled := p.settled_normalize
  rw [h] at hsettled
  have hnone : p.normalize.segments.takeWhile (· = parentStep) = [] := by
    cases hsegments : p.normalize.segments with
    | nil => rfl
    | cons s rest =>
      have hs : s ≠ parentStep := by
        rintro rfl
        exact hsettled.parentStep_not_mem (by simp [hsegments])
      simp [hs]
  rw [wayUp, hnone]

/-- **From a directory a path leads to where its way up leads, and then
down.** -/
theorem normalize_under_eq (dir p : Path) :
    (dir.under p).normalize
      = { (dir.under p.wayUp).normalize with
          segments := (dir.under p.wayUp).normalize.segments ++ p.wayDown } := by
  have hsame : p.wayUp.isAbsolute = p.isAbsolute := rfl
  by_cases habs : p.isAbsolute = true
  · have hall : p.wayDown = p.normalize.segments := by
      have hsplit := List.takeWhile_append_dropWhile
        (p := fun s => decide (s = parentStep)) (l := p.normalize.segments)
      have hup : p.normalize.segments.takeWhile (· = parentStep) = [] :=
        congrArg Path.segments (wayUp_of_isAbsolute habs)
      rw [hup, List.nil_append] at hsplit
      exact hsplit
    rw [under, if_pos habs, under, hsame, if_pos habs, hall, wayUp_of_isAbsolute habs]
    rfl
  · have hrelative : p.isAbsolute = false := by simpa using habs
    rw [under, if_neg habs, under, hsame, if_neg habs]
    -- what is kept of the directory is gone on from by the way up and then down
    have hcancel : cancel dir.isAbsolute (dir.segments ++ p.segments)
        = cancel dir.isAbsolute (dir.segments ++ p.wayUp.segments) ++ p.wayDown := by
      have hsplit : p.wayUp.segments ++ p.wayDown = cancel false p.segments := by
        rw [← hrelative]
        exact List.takeWhile_append_dropWhile
      rw [cancel, cancel, List.foldl_append, ← foldl_cancelStep_cancel, ← hsplit,
        List.foldl_append, foldl_cancelStep_down _ ne_parentStep_of_mem_wayDown,
        List.foldl_append, List.reverse_append, List.reverse_reverse]
    show ({ dir with segments := cancel dir.isAbsolute (dir.segments ++ p.segments) } : Path) = _
    rw [hcancel]
    rfl

/-- A path may be normalized before it is taken from a directory. -/
theorem under_normalize (dir p : Path) :
    (dir.under p.normalize).normalize = (dir.under p).normalize := by
  rw [normalize_under_eq dir p, normalize_under_eq dir p.normalize, wayUp, wayDown,
    normalize_normalize]
  rfl

end Path

/-! ## Path texts -/

/-- The steps upward that a path text begins with once it is normalized: the
current directory when there are none, and the root for an absolute path. -/
def wayUpText (path : Text) : Text :=
  (Path.parse path).wayUp.render

theorem absolutizePath_normalizePath (path root : Text) :
    absolutizePath (normalizePath path) root = absolutizePath path root := by
  rw [absolutizePath, absolutizePath, parse_normalizePath, Path.under_normalize]

/-- **From two directories a path leads to one place when its way up does.** -/
theorem absolutizePath_eq_absolutizePath_iff {path r s : Text} :
    absolutizePath path r = absolutizePath path s ↔
      absolutizePath (wayUpText path) r = absolutizePath (wayUpText path) s := by
  have hpaths : ∀ t : Text, absolutizePath t r = absolutizePath t s ↔
      ((Path.parse r).under (Path.parse t)).normalize
        = ((Path.parse s).under (Path.parse t)).normalize := by
    intro t
    constructor
    · intro h
      rw [← parse_absolutizePath, ← parse_absolutizePath, h]
    · intro h
      rw [absolutizePath, absolutizePath, h]
  have hup : Path.parse (wayUpText path) = (Path.parse path).wayUp :=
    Path.parse_render (Path.wellSpelled_wayUp _)
  rw [hpaths, hpaths, hup, Path.normalize_under_eq (Path.parse r),
    Path.normalize_under_eq (Path.parse s)]
  generalize ((Path.parse r).under (Path.parse path).wayUp).normalize = p
  generalize ((Path.parse s).under (Path.parse path).wayUp).normalize = q
  obtain ⟨a, ss⟩ := p
  obtain ⟨b, ts⟩ := q
  simp

/-! ## The project that is not declared -/

/-- Without declarations there is one project, at the workspace seen from the
base. -/
theorem projects_of_undeclared {find : Finder} {base workspace : Text} {config : UserConfig}
    {r : Resolution} (hnone : config.projects.getD [] = [])
    (h : resolve find base workspace config = .ok r) :
    ∃ p, r.config.projects = [p] ∧ p.root = absolutizePath workspace base := by
  obtain ⟨ps, hps, hconfig, -⟩ := resolve_eq_ok_iff.mp h
  have hdeclared : declarationsOf workspace config = [.path (normalizePath workspace)] := by
    rw [declarationsOf, hnone]
  rw [hdeclared] at hps
  obtain ⟨p, rest, rfl, hp, hrest⟩ := List.map_eq_cons_iff.mp hps.symm
  obtain rfl : rest = [] := List.map_eq_nil_iff.mp hrest
  refine ⟨p, ?_, ?_⟩
  · rw [hconfig, sortByDepth_singleton]
  · rw [(resolveProject_eq_ok_iff.mp hp.symm).1]
    exact absolutizePath_normalizePath workspace base

/-- **Where the project is that nobody declared.** When the configuration that
is loaded for a workspace declares no project, there is exactly one: it is at
the workspace seen from the base of the configuration. That is the workspace
seen from the current directory, for which the configuration was loaded, if the
workspace is absolute; and if it is relative, exactly when its way up leads to
the same directory from the base as from the current directory. -/
theorem root_of_undeclared {w : World} (hcwd : IsAbsolutePath w.currentDirectory)
    {workspace : Text} {file : Option Text} {loaded : LoadedConfig} {r : Resolution}
    (hload : w.loadConfig workspace file = .ok loaded)
    (hnone : loaded.config.projects.getD [] = [])
    (hresolve : resolve w.finder loaded.base workspace loaded.config = .ok r) :
    ∃ p, r.config.projects = [p]
      ∧ IsCanonical p.root
      ∧ p.root = absolutizePath workspace loaded.base
      ∧ (IsAbsolutePath workspace → p.root = absolutizePath workspace w.currentDirectory)
      ∧ (¬IsAbsolutePath workspace →
          (p.root = absolutizePath workspace w.currentDirectory ↔
            absolutizePath (wayUpText workspace) loaded.base
              = absolutizePath (wayUpText workspace) w.currentDirectory)) := by
  obtain ⟨p, hprojects, hroot⟩ := projects_of_undeclared hnone hresolve
  have hbase := isCanonical_base_of_loadConfig hcwd hload
  refine ⟨p, hprojects, ?_, hroot, fun habs => ?_, fun _ => ?_⟩
  · rw [hroot]
    exact isCanonical_absolutizePath hbase.isAbsolute workspace
  · rw [hroot, absolutizePath_of_isAbsolute habs, absolutizePath_of_isAbsolute habs]
  · rw [hroot]
    exact absolutizePath_eq_absolutizePath_iff

/-- A configuration file in the current directory. -/
def besideWorld : World where
  disk := {
    files := [("/a/main.json", emptyMappingText.toUTF8)]
    directories := []
    faults := [] }
  currentDirectory := "/a"
  environment := []
  envFile := none

/-- The base is the current directory here, so a relative workspace is where it
is said to be. -/
theorem root_of_undeclared_besideWorld :
    IsAbsolutePath besideWorld.currentDirectory
      ∧ besideWorld.loadConfig "b/../c" (some "../main.json") = .ok ⟨"/a", .empty⟩
      ∧ UserConfig.empty.projects.getD [] = []
      ∧ ∃ r p, resolve besideWorld.finder "/a" "b/../c" .empty = .ok r
        ∧ r.config.projects = [p] ∧ p.root = absolutizePath "b/../c" besideWorld.currentDirectory
        ∧ p.root = "/a/c" := by
  have hcwd : IsAbsolutePath besideWorld.currentDirectory := by decide
  have hfile : loadFile besideWorld.disk "/a/main.json" = .ok ⟨"/a", .empty⟩ :=
    loadFile_eq_ok_iff.mpr ⟨[], readConfigFile_of_json rfl rfl read_emptyMappingText, rfl, rfl⟩
  have hload : besideWorld.loadConfig "b/../c" (some "../main.json") = .ok ⟨"/a", .empty⟩ :=
    loadConfig_eq_ok_iff.mpr (Or.inr ⟨"/a/main.json", rfl, hfile⟩)
  have hnone : UserConfig.empty.projects.getD [] = [] := rfl
  have hr : resolve besideWorld.finder "/a" "b/../c" .empty
      = .ok ⟨⟨[], sortByDepth [⟨"/a/c", none, none⟩]⟩, []⟩ := rfl
  obtain ⟨p, hprojects, -, hroot, -, hrelative⟩ := root_of_undeclared hcwd hload hnone hr
  have hup : absolutizePath (wayUpText "b/../c") "/a"
      = absolutizePath (wayUpText "b/../c") besideWorld.currentDirectory := rfl
  have hwhere := (hrelative (by decide)).mpr hup
  exact ⟨hcwd, hload, hnone, _, p, hr, hprojects, hwhere, hroot.trans (by decide)⟩

/-- Nothing but a current directory. -/
def bareWorld : World where
  disk := .empty
  currentDirectory := "/cwd"
  environment := []
  envFile := none

/-- Without a configuration file a relative workspace is taken from itself: the
project is in `/cwd/ws/ws`, and the workspace is `/cwd/ws`. -/
theorem root_ne_workspace_bareWorld :
    IsAbsolutePath bareWorld.currentDirectory
      ∧ bareWorld.loadConfig "ws" none = .ok ⟨"/cwd/ws", .empty⟩
      ∧ UserConfig.empty.projects.getD [] = []
      ∧ ∃ r, resolve bareWorld.finder "/cwd/ws" "ws" .empty = .ok r
        ∧ r.config.projects = [⟨"/cwd/ws/ws", none, none⟩]
        ∧ ∀ p ∈ r.config.projects, p.root ≠ absolutizePath "ws" bareWorld.currentDirectory := by
  have hload : bareWorld.loadConfig "ws" none = .ok ⟨"/cwd/ws", .empty⟩ := rfl
  have hr : resolve bareWorld.finder "/cwd/ws" "ws" .empty
      = .ok ⟨⟨[], sortByDepth [⟨"/cwd/ws/ws", none, none⟩]⟩, []⟩ := rfl
  refine ⟨by decide, hload, rfl, _, hr, sortByDepth_singleton _, ?_⟩
  intro p hp
  obtain rfl : p = ⟨"/cwd/ws/ws", none, none⟩ := by simpa [sortByDepth_singleton] using hp
  decide

end Workspace
