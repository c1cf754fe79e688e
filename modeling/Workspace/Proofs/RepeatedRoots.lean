/-
Workspace.Proofs.RepeatedRoots — which roots are warned about, and how often
they are said to be declared.

Declarations are counted by the canonical form of the root that they spell out
(`timesDeclared`), so `a`, `./a/` and `b/../a` are three declarations of one
root. The warnings follow the first declarations of the roots that are declared
more than once, because `distinct` lists texts by first occurrence
(`pairwise_idxOf_distinct`).

The promise that the first declaration wins is about the list that is sorted by
depth. Equal roots are equally deep, so sorting leaves their projects in the
order of the declarations (`map_filter_root_resolve`), and the first of them
comes first (`warnings_resolve`).
-/
import Workspace.Proofs.BucketOrder
import Workspace.Proofs.SpelledOut

namespace Workspace

/-! ## Texts that occur repeatedly -/

/-- The different texts are listed by first occurrence. -/
theorem pairwise_idxOf_distinct :
    ∀ texts : List Text, (distinct texts).Pairwise fun s t => texts.idxOf s < texts.idxOf t
  | [] => List.Pairwise.nil
  | s :: rest => by
    rw [distinct, List.pairwise_cons]
    refine ⟨fun t ht => ?_, ?_⟩
    · have hne : s ≠ t := by
        rintro rfl
        simp at ht
      rw [List.idxOf_cons_self, List.idxOf_cons_ne _ hne]
      exact Nat.succ_pos _
    · refine ((pairwise_idxOf_distinct rest).filter _).imp_of_mem ?_
      intro t u ht hu htu
      have ht' : s ≠ t := by rintro rfl; simp at ht
      have hu' : s ≠ u := by rintro rfl; simp at hu
      rw [List.idxOf_cons_ne _ ht', List.idxOf_cons_ne _ hu']
      exact Nat.succ_lt_succ htu

theorem repeatedTexts_eq_map (texts : List Text) :
    repeatedTexts texts
      = ((distinct texts).filter fun s => 1 < texts.count s).map fun s => (s, texts.count s) := by
  rw [repeatedTexts, List.filter_map]
  rfl

theorem repeatedTexts_eq_nil_iff {texts : List Text} : repeatedTexts texts = [] ↔ texts.Nodup := by
  rw [List.nodup_iff_count_le_one, repeatedTexts_eq_map, List.map_eq_nil_iff,
    List.filter_eq_nil_iff]
  constructor
  · intro h s
    by_cases hs : s ∈ texts
    · have hcount := h s (mem_distinct.mpr hs)
      simpa using hcount
    · rw [List.count_eq_zero_of_not_mem hs]
      exact Nat.zero_le 1
  · intro h s _
    simpa using h s

/-! ## Declarations of one root -/

/-- How many of the declarations stand for a root, however they spell it. -/
def timesDeclared (base : Text) (ds : List Declaration) (root : Text) : Nat :=
  ds.countP fun d => normalizePath (spelledUnder base d.toRecord.root) = root

section

variable {find : Finder} {base workspace : Text} {config : UserConfig} {r : Resolution}

/-- A root is the canonical form of its declaration, spelled out. -/
theorem rootOf_eq_normalizePath (hbase : IsAbsolutePath base) (d : Declaration) :
    rootOf base d = normalizePath (spelledUnder base d.toRecord.root) := by
  rw [rootOf, ← absolutizePath_spelledUnder hbase d.toRecord.root base,
    absolutizePath_of_isAbsolute (isAbsolutePath_spelledUnder hbase _)]

theorem count_rootOf (hbase : IsAbsolutePath base) (ds : List Declaration) (root : Text) :
    (ds.map (rootOf base)).count root = timesDeclared base ds root := by
  rw [List.count_eq_countP, List.countP_map, timesDeclared]
  refine List.countP_congr fun d _ => ?_
  simp [rootOf_eq_normalizePath hbase]

/-- The projects with a root are those that its declarations stand for. -/
theorem map_filter_root (root : Text) : ∀ {ds : List Declaration} {ps : List Project},
    ds.map (resolveProject find base) = ps.map .ok →
      (ps.filter fun p => p.root = root).map .ok
        = (ds.filter fun d => rootOf base d = root).map (resolveProject find base)
  | [], [], _ => rfl
  | [], _ :: _, h => by simp at h
  | _ :: _, [], h => by simp at h
  | d :: ds, p :: ps, h => by
    rw [List.map_cons, List.map_cons, List.cons.injEq] at h
    have hroot : p.root = rootOf base d := (resolveProject_eq_ok_iff.mp h.1).1
    have ih := map_filter_root root h.2
    by_cases hd : rootOf base d = root
    · simp [hroot, hd, h.1, ih]
    · simp [hroot, hd, ih]

/-- **Projects with one root are listed in the order of their declarations.** -/
theorem map_filter_root_resolve (h : resolve find base workspace config = .ok r) (root : Text) :
    (r.config.projects.filter fun p => p.root = root).map .ok
      = ((declarationsOf workspace config).filter fun d => rootOf base d = root).map
          (resolveProject find base) := by
  obtain ⟨ps, hps, hconfig, -⟩ := resolve_eq_ok_iff.mp h
  have hdepth : ∀ p ∈ ps, decide (p.root = root) = true → pathDepth p.root = pathDepth root :=
    fun p _ hp => by rw [of_decide_eq_true hp]
  rw [hconfig, filter_sortByDepth hdepth]
  exact map_filter_root root hps

/-- The project of the first declaration of a root comes before all others with
that root. -/
theorem exists_first_project (h : resolve find base workspace config = .ok r) {root : Text}
    (hroot : root ∈ (declarationsOf workspace config).map (rootOf base)) :
    ∃ before d after p front back,
      declarationsOf workspace config = before ++ d :: after
        ∧ rootOf base d = root
        ∧ (∀ e ∈ before, rootOf base e ≠ root)
        ∧ resolveProject find base d = .ok p
        ∧ r.config.projects = front ++ p :: back
        ∧ ∀ q ∈ front, q.root ≠ root := by
  have hsame := map_filter_root_resolve h root
  cases hds : (declarationsOf workspace config).filter fun d => rootOf base d = root with
  | nil =>
    obtain ⟨d, hd, hdroot⟩ := List.mem_map.mp hroot
    exact absurd (decide_eq_true hdroot) (List.filter_eq_nil_iff.mp hds d hd)
  | cons d ds =>
    rw [hds, List.map_cons] at hsame
    obtain ⟨p, ps, hps, hp, -⟩ := List.map_eq_cons_iff.mp hsame
    obtain ⟨before, after, hsplit, hbefore, hd, -⟩ := List.filter_eq_cons_iff.mp hds
    obtain ⟨front, back, hprojects, hfront, -, -⟩ := List.filter_eq_cons_iff.mp hps
    exact ⟨before, d, after, p, front, back, hsplit, of_decide_eq_true hd,
      fun e he heq => hbefore e he (decide_eq_true heq), hp.symm, hprojects,
      fun q hq heq => hfront q hq (decide_eq_true heq)⟩

/-- **The warnings about repeated roots are exact.** There is one for every root
that is declared more than once, however it is spelled, with the number of its
declarations, and none for any other. They stand in the order of the first
declarations of the roots, and the project of that declaration is listed before
all others with the same root. -/
theorem warnings_resolve (hbase : IsAbsolutePath base)
    (h : resolve find base workspace config = .ok r) :
    ∃ warned : List Text,
      r.warnings = warned.map (fun root =>
          repeatedRootWarning root (timesDeclared base (declarationsOf workspace config) root))
        ∧ (∀ root, root ∈ warned
            ↔ 1 < timesDeclared base (declarationsOf workspace config) root)
        ∧ (warned.Pairwise fun s t =>
            ((declarationsOf workspace config).map (rootOf base)).idxOf s
              < ((declarationsOf workspace config).map (rootOf base)).idxOf t)
        ∧ (r.warnings = [] ↔ ((declarationsOf workspace config).map (rootOf base)).Nodup)
        ∧ (∀ root, (r.config.projects.filter fun p => p.root = root).map .ok
            = ((declarationsOf workspace config).filter fun d => rootOf base d = root).map
                (resolveProject find base))
        ∧ ∀ root ∈ warned, IsCanonical root ∧ ∃ before d after p front back,
            declarationsOf workspace config = before ++ d :: after
              ∧ rootOf base d = root
              ∧ (∀ e ∈ before, rootOf base e ≠ root)
              ∧ resolveProject find base d = .ok p
              ∧ r.config.projects = front ++ p :: back
              ∧ ∀ q ∈ front, q.root ≠ root := by
  have hcount := count_rootOf hbase (declarationsOf workspace config)
  obtain ⟨ps, hps, -, hrepeated⟩ := resolve_eq_ok_iff.mp h
  rw [roots_of_map_eq hps] at hrepeated
  have hmem : ∀ {root}, 1 < ((declarationsOf workspace config).map (rootOf base)).count root →
      root ∈ (declarationsOf workspace config).map (rootOf base) :=
    fun hroot => List.count_pos_iff.mp (Nat.lt_trans Nat.zero_lt_one hroot)
  refine ⟨(distinct ((declarationsOf workspace config).map (rootOf base))).filter fun root =>
      1 < ((declarationsOf workspace config).map (rootOf base)).count root,
    ?_, fun root => ?_, (pairwise_idxOf_distinct _).filter _, ?_, map_filter_root_resolve h,
    fun root hroot => ?_⟩
  · simp only [Resolution.warnings, hrepeated, repeatedTexts_eq_map, List.map_map, ← hcount]
    rfl
  · rw [List.mem_filter, mem_distinct, decide_eq_true_eq, ← hcount]
    exact ⟨And.right, fun hroot => ⟨hmem hroot, hroot⟩⟩
  · rw [Resolution.warnings, List.map_eq_nil_iff, hrepeated]
    exact repeatedTexts_eq_nil_iff
  · have hdeclared := mem_distinct.mp (List.mem_filter.mp hroot).1
    obtain ⟨d, -, rfl⟩ := List.mem_map.mp hdeclared
    exact ⟨isCanonical_absolutizePath hbase _, exists_first_project h hdeclared⟩

end

/-- Two roots of different depth, declared in turns and in several spellings; the
first declaration of one of them has a manifest of its own. -/
def respelledRoots : UserConfig :=
  ⟨none, some [.record ⟨"x", some "p", none⟩, .path "a/b", .path "./x/", .path "y",
    .path "a/./b", .path "y/../x"]⟩

/-- The projects of `respelledRoots` as they are declared. -/
def respelledRootProjects : List Project :=
  [⟨"/ws/x", some "/ws/x/p", none⟩, ⟨"/ws/a/b", none, none⟩, ⟨"/ws/x", none, none⟩,
    ⟨"/ws/y", none, none⟩, ⟨"/ws/a/b", none, none⟩, ⟨"/ws/x", none, none⟩]

theorem resolve_respelledRoots :
    resolve (fun _ _ => .ok none) "/ws" "/ws" respelledRoots
      = .ok ⟨⟨[], sortByDepth respelledRootProjects⟩, [("/ws/x", 3), ("/ws/a/b", 2)]⟩ :=
  rfl

/-- The shallower root is warned about first, and its project with the manifest
comes before its others. -/
theorem warnings_resolve_respelledRoots :
    ∃ r, IsAbsolutePath "/ws"
      ∧ resolve (fun _ _ => .ok none) "/ws" "/ws" respelledRoots = .ok r
      ∧ r.warnings = [Text.ofString "Project root /ws/x is declared 3 times; the first one wins",
          Text.ofString "Project root /ws/a/b is declared 2 times; the first one wins"]
      ∧ 1 < timesDeclared "/ws" (declarationsOf "/ws" respelledRoots) "/ws/x"
      ∧ (r.config.projects.filter fun p => p.root = Text.ofString "/ws/x")
          = [⟨"/ws/x", some "/ws/x/p", none⟩, ⟨"/ws/x", none, none⟩, ⟨"/ws/x", none, none⟩] := by
  have hbase : IsAbsolutePath "/ws" := by decide
  obtain ⟨_, -, -, -, -, hprojects, -⟩ :=
    warnings_resolve hbase resolve_respelledRoots
  refine ⟨_, hbase, resolve_respelledRoots, by decide, ?_, ?_⟩
  · decide
  · exact List.map_injective_iff.mpr (fun _ _ => Except.ok.inj) (hprojects "/ws/x")

end Workspace
