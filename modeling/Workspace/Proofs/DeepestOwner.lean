/-
Workspace.Proofs.DeepestOwner — a file belongs to the deepest root that
covers it.

`findOwner` takes the first project whose root covers the file. In a list
sorted by depth that is the deepest such root: of two roots that cover one
file the less deep one is the ancestor (`Covers.eq_or_isAncestor`), and no
deeper project stands further back. Stability of the sort makes it the first
project with its root that was declared, too
(`findOwner_sortByDepth_eq_some`).

`findOwner_resolve` says this of a resolved configuration, in terms of what
the user declared. There is only one deepest root, so the root of the owner
does not depend on the order of the declarations.
-/
import Workspace.Ownership
import Workspace.Proofs.Containment
import Workspace.Proofs.DepthOrder
import Workspace.Proofs.ResolvedProject

namespace Workspace

/-! ## The first match in a list -/

section

variable {ps : List Project} (hroots : ∀ p ∈ ps, IsCanonical p.root) {file : Text}

include hroots

/-- Nobody owns a file that no root covers, and only such a file. -/
theorem findOwner_eq_none_iff :
    findOwner ps file = none ↔ ∀ p ∈ ps, ¬Covers p.root file := by
  rw [findOwner, List.find?_eq_none]
  constructor
  · intro h p hp hcovers
    exact h p hp ((isPathWithin_iff_covers (hroots p hp) file).mpr hcovers)
  · intro h p hp hwithin
    exact h p hp ((isPathWithin_iff_covers (hroots p hp) file).mp hwithin)

/-- The owner is a project whose root covers the file, and no earlier project
has such a root. -/
theorem findOwner_eq_some {p : Project} (h : findOwner ps file = some p) :
    Covers p.root file
      ∧ ∃ before after, ps = before ++ p :: after ∧ ∀ q ∈ before, ¬Covers q.root file := by
  obtain ⟨hwithin, before, after, hsplit, hbefore⟩ := List.find?_eq_some_iff_append.mp h
  have hp : p ∈ ps := by simp [hsplit]
  refine ⟨(isPathWithin_iff_covers (hroots p hp) file).mp hwithin, before, after, hsplit, ?_⟩
  intro q hq hcovers
  have hqs : q ∈ ps := by simp [hsplit, hq]
  have hmiss := hbefore q hq
  rw [(isPathWithin_iff_covers (hroots q hqs) file).mpr hcovers] at hmiss
  simp at hmiss

/-- **In a list sorted by depth the owner has the deepest root that covers
the file**, and of the projects with that root it is the one that came first
before sorting. -/
theorem findOwner_sortByDepth_eq_some {p : Project}
    (h : findOwner (sortByDepth ps) file = some p) :
    Covers p.root file
      ∧ (∀ q ∈ ps, Covers q.root file → q.root = p.root ∨ IsAncestor q.root p.root)
      ∧ ps.find? (fun q => q.root = p.root) = some p := by
  have hsorted : ∀ q ∈ sortByDepth ps, IsCanonical q.root := fun q hq =>
    hroots q (mem_sortByDepth.mp hq)
  obtain ⟨hcovers, before, after, hsplit, hbefore⟩ := findOwner_eq_some hsorted h
  have hp : p ∈ ps := mem_sortByDepth.mp (by simp [hsplit])
  refine ⟨hcovers, fun q hq hq' => ?_, ?_⟩
  · -- `q` stands after `p`, so its root is not deeper
    have hmem : q ∈ before ++ p :: after := hsplit ▸ mem_sortByDepth.mpr hq
    have horder := pairwise_sortByDepth ps
    rw [hsplit, List.pairwise_append] at horder
    rcases List.mem_append.mp hmem with hq₀ | hq₀
    · exact absurd hq' (hbefore q hq₀)
    · rcases List.mem_cons.mp hq₀ with rfl | hafter
      · exact Or.inl rfl
      · have hdepth : DepthLe p q := (List.pairwise_cons.mp horder.2.1).1 q hafter
        exact hq'.eq_or_isAncestor (hroots q hq) (hroots p hp) hcovers hdepth
  · have hmiss : ∀ q ∈ before, ¬q.root = p.root := by
      intro q hq heq
      exact hbefore q hq (heq ▸ hcovers)
    rw [← find?_root_sortByDepth, hsplit, List.find?_append,
      List.find?_eq_none.mpr fun q hq => by simpa using hmiss q hq]
    simp

end

/-- Of two lists with the same roots, sorted by depth, both give a file to
the same root. -/
theorem map_root_findOwner_sortByDepth {ps qs : List Project}
    (hps : ∀ p ∈ ps, IsCanonical p.root) (hqs : ∀ q ∈ qs, IsCanonical q.root)
    (hperm : ps.Perm qs) (file : Text) :
    (findOwner (sortByDepth ps) file).map Project.root
      = (findOwner (sortByDepth qs) file).map Project.root := by
  have hnone : findOwner (sortByDepth ps) file = none
      ↔ findOwner (sortByDepth qs) file = none := by
    rw [findOwner_eq_none_iff fun p hp => hps p (mem_sortByDepth.mp hp),
      findOwner_eq_none_iff fun q hq => hqs q (mem_sortByDepth.mp hq)]
    simp only [mem_sortByDepth, hperm.mem_iff]
  cases hp : findOwner (sortByDepth ps) file with
  | none => rw [hnone.mp hp]
  | some p =>
    cases hq : findOwner (sortByDepth qs) file with
    | none => rw [hnone.mpr hq] at hp; simp at hp
    | some q =>
      obtain ⟨hpc, hpdeep, hpfirst⟩ := findOwner_sortByDepth_eq_some hps hp
      obtain ⟨hqc, hqdeep, hqfirst⟩ := findOwner_sortByDepth_eq_some hqs hq
      have hpmem : p ∈ ps := List.mem_of_find?_eq_some hpfirst
      have hqmem : q ∈ qs := List.mem_of_find?_eq_some hqfirst
      -- each root is the other one or its ancestor
      have heq : p.root = q.root := by
        rcases hqdeep p (hperm.mem_iff.mp hpmem) hpc with heq | hpq
        · exact heq
        · rcases hpdeep q (hperm.mem_iff.mpr hqmem) hqc with heq | hqp
          · exact heq.symm
          · exact absurd (hpq.1.antisymm hqp.1) hpq.2
      simp [heq]

/-! ## The owner in a resolved configuration -/

/-- Resolving the declarations in another order gives the same projects in
that order. -/
theorem exists_map_eq_of_perm {find : Finder} {base : Text} {ds es : List Declaration}
    {ps : List Project} (hperm : es.Perm ds)
    (h : ds.map (resolveProject find base) = ps.map .ok) :
    ∃ qs : List Project, es.map (resolveProject find base) = qs.map .ok ∧ qs.Perm ps := by
  induction hperm generalizing ps with
  | nil => exact ⟨ps, h, .refl ps⟩
  | cons d _ ih =>
    obtain ⟨p, ps, rfl, hp, hps⟩ := List.map_eq_cons_iff.mp h.symm
    obtain ⟨qs, hqs, hperm⟩ := ih hps.symm
    exact ⟨p :: qs, by rw [List.map_cons, List.map_cons, hqs, hp], hperm.cons p⟩
  | swap d e ds =>
    obtain ⟨p, rest, rfl, hp, hrest⟩ := List.map_eq_cons_iff.mp h.symm
    obtain ⟨q, ps, rfl, hq, hps⟩ := List.map_eq_cons_iff.mp hrest
    refine ⟨q :: p :: ps, ?_, .swap p q ps⟩
    simp only [List.map_cons, hp, hq, hps]
  | trans _ _ ih₁ ih₂ =>
    obtain ⟨qs, hqs, hperm⟩ := ih₂ h
    obtain ⟨rs, hrs, hperm'⟩ := ih₁ hqs
    exact ⟨rs, hrs, hperm'.trans hperm⟩

/-- Declarations in another order stand for the same projects; without any,
the workspace is declared in both cases. -/
theorem declarationsOf_perm {workspace : Text} {config config' : UserConfig}
    (h : (config'.projects.getD []).Perm (config.projects.getD [])) :
    (declarationsOf workspace config').Perm (declarationsOf workspace config) := by
  unfold declarationsOf
  split
  · next hnil =>
    rw [hnil] at h
    rw [h.nil_eq.symm]
  · next hne =>
    split
    · next hnil =>
      rw [hnil] at h
      exact absurd h.eq_nil hne
    · exact h

/-- The first project with a root is what the first declaration with that
root stands for. -/
theorem exists_first_declaration {find : Finder} {base : Text} :
    ∀ {ds : List Declaration} {ps : List Project} {p : Project},
      ds.map (resolveProject find base) = ps.map .ok →
      ps.find? (fun q => q.root = p.root) = some p →
      ∃ before d after, ds = before ++ d :: after ∧ resolveProject find base d = .ok p
        ∧ ∀ e ∈ before, rootOf base e ≠ p.root
  | [], ps, p, h, hp => by
    simp [List.map_eq_nil_iff.mp h.symm] at hp
  | d :: ds, ps, p, h, hp => by
    obtain ⟨q, ps, rfl, hq, hps⟩ := List.map_eq_cons_iff.mp h.symm
    rw [List.find?_cons] at hp
    split at hp
    · simp only [Option.some.injEq] at hp
      subst hp
      exact ⟨[], d, ds, rfl, hq.symm, by simp⟩
    · next hroot =>
      obtain ⟨before, e, after, rfl, he, hbefore⟩ := exists_first_declaration hps.symm hp
      refine ⟨d :: before, e, after, rfl, he, ?_⟩
      intro f hf
      rcases List.mem_cons.mp hf with rfl | hf
      · rw [← (resolveProject_eq_ok_iff.mp hq.symm).1]
        simpa using hroot
      · exact hbefore f hf

/-- **A file belongs to the project with the deepest root that covers it.**
Nobody owns it when no declared root covers it. Otherwise every root that
covers it is the owner's or a proper ancestor of that, the owner is what the
first declaration with its root stands for, and no other order of the
declarations would give the file to another root. -/
theorem findOwner_resolve {find : Finder} {base workspace : Text} {config : UserConfig}
    {r : Resolution} (hbase : IsAbsolutePath base)
    (h : resolve find base workspace config = .ok r) (file : Text) :
    (findOwner r.config.projects file = none ↔
        ∀ d ∈ declarationsOf workspace config, ¬Covers (rootOf base d) file)
      ∧ (∀ p, findOwner r.config.projects file = some p →
          Covers p.root file
            ∧ (∀ q ∈ r.config.projects, Covers q.root file →
                q.root = p.root ∨ IsAncestor q.root p.root)
            ∧ ∃ before d after, declarationsOf workspace config = before ++ d :: after
                ∧ resolveProject find base d = .ok p
                ∧ ∀ e ∈ before, rootOf base e ≠ p.root)
      ∧ ∀ config', (config'.projects.getD []).Perm (config.projects.getD []) →
          ∃ r', resolve find base workspace config' = .ok r'
            ∧ (findOwner r'.config.projects file).map Project.root
              = (findOwner r.config.projects file).map Project.root := by
  obtain ⟨ps, hps, hconfig, -⟩ := resolve_eq_ok_iff.mp h
  have hroots : ∀ p ∈ ps, IsCanonical p.root := by
    intro p hp
    obtain ⟨d, -, hd⟩ := exists_declaration_of_mem hps hp
    rw [(resolveProject_eq_ok_iff.mp hd).1]
    exact isCanonical_absolutizePath hbase _
  rw [hconfig]
  refine ⟨?_, fun p hp => ?_, fun config' hperm => ?_⟩
  · rw [findOwner_eq_none_iff fun p hp => hroots p (mem_sortByDepth.mp hp)]
    have hall : (∀ root ∈ ps.map Project.root, ¬Covers root file)
        ↔ ∀ root ∈ (declarationsOf workspace config).map (rootOf base), ¬Covers root file := by
      rw [roots_of_map_eq hps]
    simpa only [List.forall_mem_map, mem_sortByDepth] using hall
  · obtain ⟨hcovers, hdeep, hfirst⟩ := findOwner_sortByDepth_eq_some hroots hp
    refine ⟨hcovers, fun q hq => hdeep q (mem_sortByDepth.mp hq), ?_⟩
    exact exists_first_declaration hps hfirst
  · obtain ⟨qs, hqs, hqperm⟩ := exists_map_eq_of_perm (declarationsOf_perm hperm) hps
    refine ⟨⟨⟨config'.settings.getD [], sortByDepth qs⟩, repeatedTexts (qs.map Project.root)⟩,
      resolve_eq_ok_iff.mpr ⟨qs, hqs, rfl, rfl⟩, ?_⟩
    exact map_root_findOwner_sortByDepth
      (fun q hq => hroots q (hqperm.mem_iff.mp hq)) hroots hqperm file

/-- A root inside another one, the inner one declared in two spellings. -/
def nestedRoots : UserConfig :=
  ⟨none, some [.path "a", .record ⟨"x/../a/./b/", some "p", none⟩, .path "/w/a/b"]⟩

/-- The projects of `nestedRoots` as they are declared. -/
def nestedProjects : List Project :=
  [⟨"/w/a", none, none⟩, ⟨"/w/a/b", some "/w/a/b/p", none⟩, ⟨"/w/a/b", none, none⟩]

/-- The first declaration of the inner root owns a file in it. -/
theorem findOwner_resolve_nestedRoots :
    ∃ r, IsAbsolutePath "/w"
      ∧ resolve (fun _ _ => .ok none) "/w" "/v" nestedRoots = .ok r
      ∧ findOwner r.config.projects "/w/a/b/c" = some ⟨"/w/a/b", some "/w/a/b/p", none⟩
      ∧ ∀ q ∈ r.config.projects, Covers q.root "/w/a/b/c" →
          q.root = Text.ofString "/w/a/b" ∨ IsAncestor q.root "/w/a/b" := by
  have hbase : IsAbsolutePath "/w" := by decide
  have hr : resolve (fun _ _ => .ok none) "/w" "/v" nestedRoots
      = .ok ⟨⟨[], sortByDepth nestedProjects⟩, [("/w/a/b", 2)]⟩ := rfl
  have houter : pathDepth "/w/a" = 2 := by decide
  have hinner : pathDepth "/w/a/b" = 3 := by decide
  have hsorted : sortByDepth nestedProjects
      = [⟨"/w/a/b", some "/w/a/b/p", none⟩, ⟨"/w/a/b", none, none⟩, ⟨"/w/a", none, none⟩] := by
    simp [sortByDepth, nestedProjects, List.mergeSort, List.MergeSort.Internal.splitInTwo,
      houter, hinner]
  have hfound : findOwner (sortByDepth nestedProjects) "/w/a/b/c"
      = some ⟨"/w/a/b", some "/w/a/b/p", none⟩ := by
    rw [hsorted]
    rfl
  obtain ⟨-, howner, -⟩ := findOwner_resolve hbase hr "/w/a/b/c"
  exact ⟨_, hbase, hr, hfound, (howner _ hfound).2.1⟩

end Workspace
