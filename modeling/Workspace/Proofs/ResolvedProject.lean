/-
Workspace.Proofs.ResolvedProject — what a resolution that succeeds has done.

One statement for each function says exactly when it succeeds and with what:
`resolveProject_eq_ok_iff`, `resolveAll_eq_ok_iff` and `resolve_eq_ok_iff`.
Later modules cite these and do not open the functions.

The second half is about the paths that come out. When the base is absolute
and the search finds nothing but absolute paths (`FindsAbsolute`), a root, a
manifest and a tsconfig file are canonical however they were come by
(`Project.Canonical`, `canonical_of_resolveProject`). Canonical paths are
overrides that stand for themselves, and what was not found is not found
when it is searched for again, so a resolved project that is declared with
all its fields resolves to itself, whatever the base
(`resolveProject_toDeclaration`).
-/
import Workspace.Proofs.CanonicalPath
import Workspace.Proofs.DepthOrder
import Workspace.Resolution

namespace Workspace

/-- A sequence of two steps succeeds when both do. -/
theorem bind_eq_ok_iff {α β ε : Type} {x : Except ε α} {f : α → Except ε β} {b : β} :
    x >>= f = .ok b ↔ ∃ a, x = .ok a ∧ f a = .ok b := by
  cases x <;> simp [bind, Except.bind]

/-- A sequence of two steps fails when one of them does. -/
theorem bind_eq_error_iff {α β ε : Type} {x : Except ε α} {f : α → Except ε β} {e : ε} :
    x >>= f = .error e ↔ x = .error e ∨ ∃ a, x = .ok a ∧ f a = .error e := by
  cases x <;> simp [bind, Except.bind]

/-! ## When a resolution succeeds -/

/-- The root that a declaration stands for. -/
def rootOf (base : Text) (d : Declaration) : Text :=
  absolutizePath d.toRecord.root base

theorem resolveProject_eq_ok_iff {find : Finder} {base : Text} {d : Declaration} {p : Project} :
    resolveProject find base d = .ok p ↔
      p.root = rootOf base d
        ∧ resolvePackage find p.root d.toRecord.package = .ok p.package
        ∧ resolveTsconfig find p.root d.toRecord.tsconfig = .ok p.tsconfig := by
  obtain ⟨root, package, tsconfig⟩ := p
  simp only [resolveProject, bind_eq_ok_iff, pure, Except.pure, Except.ok.injEq,
    Project.mk.injEq, rootOf]
  constructor
  · rintro ⟨_, hpackage, _, htsconfig, rfl, rfl, rfl⟩
    exact ⟨rfl, hpackage, htsconfig⟩
  · rintro ⟨rfl, hpackage, htsconfig⟩
    exact ⟨package, hpackage, tsconfig, htsconfig, rfl, rfl, rfl⟩

theorem resolveAll_eq_ok_iff {find : Finder} {base : Text} :
    ∀ (ds : List Declaration) {ps : List Project},
      resolveAll find base ds = .ok ps ↔ ds.map (resolveProject find base) = ps.map .ok
  | [], ps => by
    cases ps <;> simp [resolveAll]
  | d :: ds, ps => by
    simp only [resolveAll, bind_eq_ok_iff, pure, Except.pure, Except.ok.injEq,
      resolveAll_eq_ok_iff ds]
    cases ps with
    | nil => simp
    | cons p ps =>
      simp only [List.map_cons, List.cons.injEq]
      constructor
      · rintro ⟨_, hd, _, hds, rfl, rfl⟩
        exact ⟨hd, hds⟩
      · rintro ⟨hd, hds⟩
        exact ⟨p, hd, ps, hds, rfl, rfl⟩

theorem resolve_eq_ok_iff {find : Finder} {base workspace : Text} {config : UserConfig}
    {r : Resolution} :
    resolve find base workspace config = .ok r ↔
      ∃ ps, (declarationsOf workspace config).map (resolveProject find base) = ps.map .ok
        ∧ r.config = ⟨config.settings.getD [], sortByDepth ps⟩
        ∧ r.repeated = repeatedTexts (ps.map Project.root) := by
  obtain ⟨config', repeated⟩ := r
  simp only [resolve, bind_eq_ok_iff, resolveAll_eq_ok_iff, pure, Except.pure, Except.ok.injEq,
    Resolution.mk.injEq]
  constructor
  · rintro ⟨ps, hps, rfl, rfl⟩
    exact ⟨ps, hps, rfl, rfl⟩
  · rintro ⟨ps, hps, rfl, rfl⟩
    exact ⟨ps, hps, rfl, rfl⟩

/-- Some declaration stands behind every project, and there is one for each. -/
theorem roots_of_map_eq {find : Finder} {base : Text} :
    ∀ {ds : List Declaration} {ps : List Project},
      ds.map (resolveProject find base) = ps.map .ok → ps.map Project.root = ds.map (rootOf base)
  | [], [], _ => rfl
  | [], _ :: _, h => by simp at h
  | _ :: _, [], h => by simp at h
  | d :: ds, p :: ps, h => by
    simp only [List.map_cons, List.cons.injEq] at h ⊢
    exact ⟨(resolveProject_eq_ok_iff.mp h.1).1, roots_of_map_eq h.2⟩

theorem exists_declaration_of_mem {find : Finder} {base : Text} {ds : List Declaration}
    {ps : List Project} (h : ds.map (resolveProject find base) = ps.map .ok) {p : Project}
    (hp : p ∈ ps) : ∃ d ∈ ds, resolveProject find base d = .ok p := by
  have hmem : Except.ok p ∈ ds.map (resolveProject find base) := h ▸ List.mem_map_of_mem hp
  exact List.mem_map.mp hmem

theorem declarationsOf_ne_nil (workspace : Text) (config : UserConfig) :
    declarationsOf workspace config ≠ [] := by
  unfold declarationsOf
  split
  · simp
  · assumption

/-- A resolved configuration has a project. -/
theorem projects_ne_nil_of_resolve {find : Finder} {base workspace : Text} {config : UserConfig}
    {r : Resolution} (h : resolve find base workspace config = .ok r) : r.config.projects ≠ [] := by
  obtain ⟨ps, hps, hconfig, -⟩ := resolve_eq_ok_iff.mp h
  intro hnil
  have hsorted : sortByDepth ps = [] := by rwa [hconfig] at hnil
  have hperm := sortByDepth_perm ps
  rw [hsorted] at hperm
  rw [← hperm.nil_eq] at hps
  exact declarationsOf_ne_nil workspace config (List.map_eq_nil_iff.mp hps)

/-- Some declaration stands behind every project that is listed. -/
theorem exists_declaration_of_mem_projects {find : Finder} {base workspace : Text}
    {config : UserConfig} {r : Resolution} (h : resolve find base workspace config = .ok r)
    {p : Project} (hp : p ∈ r.config.projects) :
    ∃ d ∈ declarationsOf workspace config, resolveProject find base d = .ok p := by
  obtain ⟨ps, hps, hconfig, -⟩ := resolve_eq_ok_iff.mp h
  rw [hconfig] at hp
  exact exists_declaration_of_mem hps (mem_sortByDepth.mp hp)

/-! ## The paths of a resolved project -/

/-- The search finds nothing but absolute paths. -/
def FindsAbsolute (find : Finder) : Prop :=
  ∀ root name path, find root name = .ok (some path) → IsAbsolutePath path

/-- Every path of the project is canonical. -/
structure Project.Canonical (p : Project) : Prop where
  root : IsCanonical p.root
  package : ∀ x, p.package = some x → IsCanonical x
  tsconfig : ∀ x, p.tsconfig = some x → IsCanonical x

theorem nonEmpty?_eq_some_iff {o : Option Text} {x : Text} :
    nonEmpty? o = some x ↔ o = some x ∧ x ≠ [] := by
  cases o with
  | none => simp [nonEmpty?]
  | some t => cases t <;> simp [nonEmpty?]; rintro rfl; simp

theorem IsAbsolutePath.ne_nil {t : Text} (h : IsAbsolutePath t) : t ≠ [] := by
  rintro rfl
  exact absurd h (by decide)

/-- An absolute path is an override. -/
theorem IsCanonical.nonEmpty?_eq {t : Text} (h : IsCanonical t) : nonEmpty? (some t) = some t :=
  nonEmpty?_eq_some_iff.mpr ⟨rfl, h.isAbsolute.ne_nil⟩

theorem isCanonical_of_findNormalized {find : Finder} (hfind : FindsAbsolute find)
    {root name x : Text} (h : findNormalized find root name = .ok (some x)) : IsCanonical x := by
  unfold findNormalized at h
  cases hf : find root name with
  | error e => simp [hf, Except.map] at h
  | ok found =>
    simp only [hf, Except.map, Except.ok.injEq, Option.map_eq_some_iff] at h
    obtain ⟨y, hy, rfl⟩ := h
    obtain ⟨rfl, -⟩ := nonEmpty?_eq_some_iff.mp hy
    exact isCanonical_normalizePath (hfind _ _ _ hf)

theorem isCanonical_of_resolvePackage {find : Finder} (hfind : FindsAbsolute find) {root : Text}
    (hroot : IsAbsolutePath root) {override : Option Text} {x : Text}
    (h : resolvePackage find root override = .ok (some x)) : IsCanonical x := by
  unfold resolvePackage at h
  split at h
  · simp only [Except.ok.injEq, Option.some.injEq] at h
    rw [← h]
    exact isCanonical_absolutizePath hroot _
  · exact isCanonical_of_findNormalized hfind h

/-- The more specific of two files is one of them. -/
theorem moreSpecific_eq_some {loose strict : Option Text} {x : Text}
    (h : moreSpecific loose strict = some x) : loose = some x ∨ strict = some x := by
  unfold moreSpecific at h
  split at h
  · split at h
    · exact Or.inr h
    · exact Or.inl h
  · exact Or.inr h
  · exact Or.inl h

theorem isCanonical_of_resolveTsconfig {find : Finder} (hfind : FindsAbsolute find) {root : Text}
    (hroot : IsAbsolutePath root) {override : Option Text} {x : Text}
    (h : resolveTsconfig find root override = .ok (some x)) : IsCanonical x := by
  unfold resolveTsconfig at h
  split at h
  · simp only [Except.ok.injEq, Option.some.injEq] at h
    rw [← h]
    exact isCanonical_absolutizePath hroot _
  · simp only [bind_eq_ok_iff, pure, Except.pure, Except.ok.injEq] at h
    obtain ⟨loose, hl, strict, hs, hx⟩ := h
    rcases moreSpecific_eq_some hx with rfl | rfl
    · exact isCanonical_of_findNormalized hfind hl
    · exact isCanonical_of_findNormalized hfind hs

/-- **Every path of a resolved project is canonical.** -/
theorem canonical_of_resolveProject {find : Finder} (hfind : FindsAbsolute find) {base : Text}
    (hbase : IsAbsolutePath base) {d : Declaration} {p : Project}
    (h : resolveProject find base d = .ok p) : p.Canonical := by
  obtain ⟨hroot, hpackage, htsconfig⟩ := resolveProject_eq_ok_iff.mp h
  have hcanonical : IsCanonical p.root := by
    rw [hroot]
    exact isCanonical_absolutizePath hbase _
  refine ⟨hcanonical, fun x hx => ?_, fun x hx => ?_⟩
  · rw [hx] at hpackage
    exact isCanonical_of_resolvePackage hfind hcanonical.isAbsolute hpackage
  · rw [hx] at htsconfig
    exact isCanonical_of_resolveTsconfig hfind hcanonical.isAbsolute htsconfig

/-! ## Resolving a resolved project -/

/-- A resolved project, declared with everything that was resolved. -/
def Project.toDeclaration (p : Project) : Declaration :=
  .record ⟨p.root, p.package, p.tsconfig⟩

theorem resolvePackage_resolved {find : Finder} {root : Text} {override found : Option Text}
    (h : resolvePackage find root override = .ok found)
    (hcanonical : ∀ x, found = some x → IsCanonical x) :
    resolvePackage find root found = .ok found := by
  cases found with
  | some x =>
    have hx : IsCanonical x := hcanonical x rfl
    simp only [resolvePackage, hx.nonEmpty?_eq, hx.absolutizePath_eq]
  | none =>
    -- nothing was found, so nothing was overridden and the search is the same one
    unfold resolvePackage at h
    split at h
    · simp at h
    · exact h

theorem resolveTsconfig_resolved {find : Finder} {root : Text} {override found : Option Text}
    (h : resolveTsconfig find root override = .ok found)
    (hcanonical : ∀ x, found = some x → IsCanonical x) :
    resolveTsconfig find root found = .ok found := by
  cases found with
  | some x =>
    have hx : IsCanonical x := hcanonical x rfl
    simp only [resolveTsconfig, hx.nonEmpty?_eq, hx.absolutizePath_eq]
  | none =>
    unfold resolveTsconfig at h
    split at h
    · simp at h
    · exact h

/-- **A resolved project that is declared with all its fields resolves to
itself, whatever the base.** -/
theorem resolveProject_toDeclaration {find : Finder} {base : Text} {d : Declaration} {p : Project}
    (h : resolveProject find base d = .ok p) (hp : p.Canonical) (base' : Text) :
    resolveProject find base' p.toDeclaration = .ok p := by
  obtain ⟨-, hpackage, htsconfig⟩ := resolveProject_eq_ok_iff.mp h
  refine resolveProject_eq_ok_iff.mpr ⟨?_, ?_, ?_⟩
  · exact (hp.root.absolutizePath_eq base').symm
  · exact resolvePackage_resolved hpackage hp.package
  · exact resolveTsconfig_resolved htsconfig hp.tsconfig

end Workspace
