/-
Workspace.Proofs.ResolutionFailure — how the resolution of an accepted
configuration fails on a disk.

A resolution fails as the first of its searches that does, and a search fails
in one of two ways (`World.FailsAt`). Either the disk refuses to look at its
first decisive candidate, and the error names this candidate; or its root cannot
be handed over, since it holds the null character or a stray surrogate, and
there is no such error: no candidate is looked at, and what comes out says
neither which root was meant nor that a path is at fault
(`resolveMapping_misspelledRoot_undocumented`).

Validation does not exclude the second way, since it refuses blank roots only.
It needs more than such a character in a declaration, though: one that is
cancelled with its segment does no harm, and nor does one in an override, which
is never looked up. So the condition is about the normalized roots for which
there is a search.
-/
import Workspace.Proofs.DecisiveCandidate
import Workspace.Proofs.ResolutionSearches

namespace Workspace

open CommandLine (projectFileNames)
open Workspace.Path (IsBareName)

/-! ## Queries of a resolution -/

/-- The query asks for a bare name, from a canonical root upwards. -/
structure Query.IsCanonical (q : Query) : Prop where
  root : Workspace.IsCanonical q.root
  fileName : IsBareName q.fileName
  clean : ∀ disk : Disk, disk.Spells q.fileName

theorem isCanonical_of_mem_searchesOf {base : Text} (hbase : IsAbsolutePath base)
    {ds : List Declaration} {q : Query} (h : q ∈ searchesOf base ds) : q.IsCanonical := by
  obtain ⟨d, -, hq⟩ := List.mem_flatMap.mp h
  obtain ⟨hroot, hname⟩ := of_mem_searchesFor hq
  have hbare : ∀ name ∈ projectFileNames, IsBareName name := by decide
  have hclean : ∀ disk : Disk, ∀ name ∈ projectFileNames, disk.Spells name := fun disk => by
    simp [projectFileNames, Disk.spells_ofString]
  exact ⟨hroot ▸ isCanonical_absolutizePath hbase _, hbare _ hname,
    fun disk => hclean disk _ hname⟩

/-! ## How a search fails -/

/-- The two ways in which a search for a query fails: the disk refuses to look
at the first decisive candidate, or there is nothing that it could look at. -/
inductive World.FailsAt (w : World) (q : Query) : Error → Prop
  | refused {path : Text} {fault : OsFault} : w.disk.Spells q.root →
      w.disk.decisive? (w.candidates q.root q.fileName) = some path →
      w.disk.Refuses path fault → w.FailsAt q (.uninspectable path fault)
  | misspelled {fault : SpellingFault} :
      w.disk.spellingFault? q.root = some fault → w.FailsAt q fault.error

section

variable {w : World} {q : Query}

/-- From a canonical root a search starts at this root, whatever the current
directory. -/
theorem render_searchStart {root : Text} (h : IsCanonical root) (currentDirectory : Text) :
    (searchStart currentDirectory root).render = root := by
  rw [searchStart_of_isCanonical h, h.render_parse]

theorem answer_finder_eq_error_iff (h : q.IsCanonical) {e : Error} :
    q.answer w.finder = .error e ↔ w.FailsAt q e := by
  have hstart := render_searchStart h.root w.currentDirectory
  show w.finder q.root q.fileName = .error e ↔ _
  cases hspelling : w.disk.spellingFault? q.root with
  | some fault =>
    rw [finder_of_misspelled (hstart.symm ▸ hspelling) h.fileName (h.clean _), Except.error.injEq]
    constructor
    · rintro rfl
      exact .misspelled hspelling
    · intro hfails
      cases hfails with
      | refused hspells => simp [Disk.spellingFault?_eq_none_iff.mpr hspells] at hspelling
      | misspelled hother => rw [Option.some.inj (hspelling.symm.trans hother)]
  | none =>
    have hspells := Disk.spellingFault?_eq_none_iff.mp hspelling
    have hcandidates := spells_of_mem_candidates h.fileName (h.clean _)
      (Disk.spells_render_iff.mp (hstart.symm ▸ hspells))
    rw [finder_eq_firstFile, firstFile_eq_error_iff hcandidates]
    constructor
    · rintro ⟨path, fault, hfirst, hrefuses, rfl⟩
      exact .refused hspells hfirst hrefuses
    · intro hfails
      cases hfails with
      | refused _ hfirst hrefuses => exact ⟨_, _, hfirst, hrefuses, rfl⟩
      | misspelled hother => simp [hspelling] at hother

/-- A search with no decisive candidate does not fail. -/
theorem not_failsAt_of_decisive?_eq_none (hspells : w.disk.Spells q.root)
    (h : w.disk.decisive? (w.candidates q.root q.fileName) = none) (e : Error) :
    ¬w.FailsAt q e := by
  intro hfails
  cases hfails with
  | refused _ hfirst => simp [h] at hfirst
  | misspelled hspelling => simp [Disk.spellingFault?_eq_none_iff.mpr hspells] at hspelling

theorem exists_answer_finder_iff (h : q.IsCanonical) :
    (∃ found, q.answer w.finder = .ok found) ↔ ∀ e, ¬w.FailsAt q e := by
  simp only [← answer_finder_eq_error_iff h]
  cases q.answer w.finder <;> simp

/-- On a disk several searches fail at the first for which there is a reason. -/
theorem failsFirst_finder_iff {queries : List Query} (h : ∀ q ∈ queries, q.IsCanonical) {e : Error} :
    FailsFirst w.finder queries e ↔ ∃ before q after, queries = before ++ q :: after
      ∧ (∀ p ∈ before, ∀ e', ¬w.FailsAt p e') ∧ w.FailsAt q e := by
  refine exists_congr fun before => exists_congr fun q => exists_congr fun after =>
    and_congr_right fun hsplit => ?_
  rw [hsplit] at h
  obtain ⟨hbefore, hrest⟩ := List.forall_mem_append.mp h
  rw [answer_finder_eq_error_iff (List.forall_mem_cons.mp hrest).1]
  exact and_congr_left fun _ => forall₂_congr fun p hp => exists_answer_finder_iff (hbefore p hp)

end

/-! ## How a resolution fails -/

section

variable {base workspace : Text} {config : UserConfig}

theorem spells_root_of_mem_declarationsOf {disk : Disk} (hworkspace : disk.Spells workspace)
    (hdeclared : ∀ d ∈ config.projects.getD [], disk.Spells d.toRecord.root) :
    ∀ d ∈ declarationsOf workspace config, disk.Spells d.toRecord.root := by
  unfold declarationsOf
  split
  · intro d hd
    obtain rfl := List.mem_singleton.mp hd
    exact Disk.spells_render_iff.mpr hworkspace.parse.normalize
  · exact hdeclared

/-- **How the resolution of an accepted configuration fails.** It does so at the
first of its searches that fails, in one of the two ways. Where the base, the
workspace and every declared root can be handed over, an error is about a
candidate that the disk refuses to look at, and about nothing else. -/
theorem resolveMapping_finder_eq_error_iff {w : World} (hbase : IsAbsolutePath base)
    {entries : List (Value × Value)}
    (haccepted : UserConfig.ofValue (.map entries) = .ok config) :
    (∀ e, resolveMapping w.finder base workspace entries = .error e ↔
        ∃ before q after,
          searchesOf base (declarationsOf workspace config) = before ++ q :: after
            ∧ (∀ p ∈ before, ∀ e', ¬w.FailsAt p e') ∧ w.FailsAt q e)
      ∧ (w.disk.Spells base → w.disk.Spells workspace →
        (∀ d ∈ config.projects.getD [], w.disk.Spells d.toRecord.root) → ∀ e,
        resolveMapping w.finder base workspace entries = .error e →
          ∃ path fault, w.disk.Refuses path fault ∧ e = .uninspectable path fault) := by
  have hcanonical : ∀ q ∈ searchesOf base (declarationsOf workspace config), q.IsCanonical :=
    fun q hq => isCanonical_of_mem_searchesOf hbase hq
  have hresolve := (asks_resolve base workspace config).eq_error_iff w.finder
  rw [resolveMapping_of_ok haccepted]
  refine ⟨fun e => (hresolve e).trans (failsFirst_finder_iff hcanonical),
    fun hclean hworkspace hdeclared e he => ?_⟩
  obtain ⟨before, q, after, hsplit, -, hfails⟩ :=
    (failsFirst_finder_iff hcanonical).mp ((hresolve e).mp he)
  cases hfails with
  | refused _ _ hrefuses => exact ⟨_, _, hrefuses, rfl⟩
  | misspelled hspelling =>
    have hmem : q ∈ searchesOf base (declarationsOf workspace config) := by simp [hsplit]
    obtain ⟨d, hd, hq⟩ := List.mem_flatMap.mp hmem
    have hroot : w.disk.Spells q.root := by
      rw [(of_mem_searchesFor hq).1]
      exact Disk.spells_absolutizePath
        (spells_root_of_mem_declarationsOf hworkspace hdeclared d hd) hclean
    simp [Disk.spellingFault?_eq_none_iff.mpr hroot] at hspelling

end

/-- A root whose null character is cancelled with its segment, with overrides
that are never looked up or empty, a root that keeps its null character, and one
with a stray surrogate. -/
def nulEntries : List (Value × Value) :=
  [(.str "projects", .list [
    .map [(.str "root", .str "x\x00/../b"), (.str "package", .str "p\x00"),
      (.str "tsconfig", .str "")],
    .str "a\x00b", .str strayText])]

def nulConfig : UserConfig where
  settings := none
  projects := some [.record ⟨"x\x00/../b", some "p\x00", some ""⟩, .path "a\x00b",
    .path strayText]

theorem searchesOf_nulConfig : searchesOf "/ws" (declarationsOf "/ws" nulConfig)
    = [⟨"/ws/b", "jsconfig.json"⟩, ⟨"/ws/b", "tsconfig.json"⟩]
      ++ [⟨"/ws/a\x00b", "package.json"⟩, ⟨"/ws/a\x00b", "jsconfig.json"⟩,
        ⟨"/ws/a\x00b", "tsconfig.json"⟩]
      ++ projectFileNames.map fun name => ⟨Text.ofString "/ws/" ++ strayText, name⟩ := by
  decide

/-- A world of nothing but paths that may not be looked at, on a machine that
hands over path texts as UTF-8. -/
def lockedWorld (paths : List Text) : World where
  disk := {
    files := []
    directories := []
    faults := paths.map fun path => (path, .denied)
    machine := { encodesPaths := true } }
  currentDirectory := "/"
  environment := []
  envFile := none

/-- A refusal comes out when it is met before the null character, and does not
when it lies beyond. Where every root is a path, it comes out always. -/
theorem resolveMapping_lockedWorld :
    IsAbsolutePath "/ws" ∧ (lockedWorld ["/package.json"]).disk.Spells "/ws"
      ∧ UserConfig.ofValue (.map nulEntries) = .ok nulConfig
      ∧ resolveMapping (lockedWorld ["/ws/b/tsconfig.json"]).finder "/ws" "/ws" nulEntries
        = .error (.uninspectable "/ws/b/tsconfig.json" .denied)
      ∧ resolveMapping (lockedWorld ["/package.json"]).finder "/ws" "/ws" nulEntries
        = .error .nulInPath
      ∧ ∃ path fault, (lockedWorld ["/package.json"]).disk.Refuses path fault
        ∧ resolveMapping (lockedWorld ["/package.json"]).finder "/ws" "/ws" []
          = .error (.uninspectable path fault) := by
  have hbase : IsAbsolutePath "/ws" := by decide
  have hclean : (lockedWorld ["/package.json"]).disk.Spells "/ws" := by decide
  have haccepted : UserConfig.ofValue (.map nulEntries) = .ok nulConfig := by rfl
  refine ⟨hbase, hclean, haccepted, ?_, ?_, ?_⟩
  · obtain ⟨hfails, -⟩ := @resolveMapping_finder_eq_error_iff "/ws" "/ws" nulConfig
      (lockedWorld ["/ws/b/tsconfig.json"]) hbase nulEntries haccepted
    rw [searchesOf_nulConfig] at hfails
    refine (hfails _).mpr ⟨[⟨"/ws/b", "jsconfig.json"⟩], ⟨"/ws/b", "tsconfig.json"⟩, _, rfl, ?_,
      .refused (by decide) (by decide) ⟨rfl, by decide, by decide⟩⟩
    simp only [List.forall_mem_singleton]
    exact not_failsAt_of_decisive?_eq_none (by decide) (by decide)
  · obtain ⟨hfails, -⟩ := @resolveMapping_finder_eq_error_iff "/ws" "/ws" nulConfig
      (lockedWorld ["/package.json"]) hbase nulEntries haccepted
    rw [searchesOf_nulConfig] at hfails
    refine (hfails _).mpr ⟨[⟨"/ws/b", "jsconfig.json"⟩, ⟨"/ws/b", "tsconfig.json"⟩],
      ⟨"/ws/a\x00b", "package.json"⟩, _, rfl, ?_,
      @World.FailsAt.misspelled _ _ .nul (by decide)⟩
    simp only [List.forall_mem_cons]
    exact ⟨not_failsAt_of_decisive?_eq_none (by decide) (by decide),
      not_failsAt_of_decisive?_eq_none (by decide) (by decide), by simp⟩
  · obtain ⟨-, hrefused⟩ := @resolveMapping_finder_eq_error_iff "/ws" "/ws" .empty
      (lockedWorld ["/package.json"]) hbase [] rfl
    have herror : resolveMapping (lockedWorld ["/package.json"]).finder "/ws" "/ws" []
        = .error (.uninspectable "/package.json" .denied) := by
      rfl
    obtain ⟨path, fault, hrefuses, he⟩ :=
      hrefused hclean hclean (by simp [UserConfig.empty]) _ herror
    exact ⟨path, fault, hrefuses, herror.trans (congrArg _ he)⟩

/-- A configuration whose only project has this root. -/
def rootEntries (root : Text) : List (Value × Value) :=
  [(.str "projects", .list [.str root])]

/-- **Declared roots with a null character or with a stray surrogate are
accepted, and their resolution fails with an error of no documented kind**,
which names no path. -/
theorem resolveMapping_misspelledRoot_undocumented :
    (UserConfig.ofValue (.map (rootEntries "a\x00b")) = .ok ⟨none, some [.path "a\x00b"]⟩
        ∧ resolveMapping (lockedWorld []).finder "/ws" "/ws" (rootEntries "a\x00b")
          = .error .nulInPath
        ∧ (Error.nulInPath).category = .unknown ∧ (Error.nulInPath).path? = none)
      ∧ UserConfig.ofValue (.map (rootEntries strayText)) = .ok ⟨none, some [.path strayText]⟩
      ∧ ∃ fault, resolveMapping (lockedWorld []).finder "/ws" "/ws" (rootEntries strayText)
          = .error (.content (.unencodable fault))
        ∧ (Error.content (.unencodable fault)).category = .unknown
        ∧ (Error.content (.unencodable fault)).path? = none :=
  ⟨⟨rfl, rfl, rfl, rfl⟩, rfl, ⟨0xd800, 4, 1⟩, rfl, rfl, rfl⟩

end Workspace
