/-
Workspace.Proofs.ResolutionFixpoint — a resolved configuration resolves to
itself.

Written out, a resolved configuration declares every project with all the
fields that were found (`ofValue_toValue`). Each of these declarations
resolves to its own project, whatever the base
(`resolveProject_toDeclaration`), and the list is sorted already
(`sortByDepth_sortByDepth`). So the second resolution succeeds and ends where
the first one did (`resolve_toValue`).
-/
import Workspace.Proofs.DepthOrder
import Workspace.Proofs.WrittenConfig

namespace Workspace

/-- Declared projects are all there is to resolve. -/
theorem declarationsOf_toUserConfig {c : FullConfig} (h : c.projects ≠ []) (workspace : Text) :
    declarationsOf workspace c.toUserConfig = c.projects.map Project.toDeclaration := by
  unfold declarationsOf FullConfig.toUserConfig
  cases hp : c.projects with
  | nil => exact absurd hp h
  | cons p ps => rfl

/-- Canonical projects, each of which some declaration stands for, resolve to
themselves when they are declared. -/
theorem map_resolveProject_toDeclaration {find : Finder} {base : Text} {ps : List Project}
    (hresolved : ∀ p ∈ ps, ∃ d, resolveProject find base d = .ok p)
    (hcanonical : ∀ p ∈ ps, p.Canonical) (base' : Text) :
    (ps.map Project.toDeclaration).map (resolveProject find base') = ps.map .ok := by
  rw [List.map_map]
  refine List.map_congr_left fun p hp => ?_
  obtain ⟨d, hd⟩ := hresolved p hp
  exact resolveProject_toDeclaration hd (hcanonical p hp) base'

/-- **A resolved configuration is a fixpoint of resolution.** Written out it
is accepted, and it resolves to the same settings and the same projects in
the same order from every base and every workspace. -/
theorem resolve_toValue {find : Finder} {base workspace : Text} {v : Value} {config : UserConfig}
    {r : Resolution} (hfind : FindsAbsolute find) (hbase : IsAbsolutePath base)
    (haccepted : UserConfig.ofValue v = .ok config)
    (h : resolve find base workspace config = .ok r) :
    ∃ written, UserConfig.ofValue r.config.toValue = .ok written
      ∧ UserConfig.ofArgument r.config.toValue = .ok written
      ∧ ∀ base' workspace', ∃ r', resolve find base' workspace' written = .ok r'
          ∧ r'.config = r.config := by
  have hresolved : ∀ p ∈ r.config.projects, ∃ d, resolveProject find base d = .ok p := by
    intro p hp
    obtain ⟨d, -, hd⟩ := exists_declaration_of_mem_projects h hp
    exact ⟨d, hd⟩
  have hcanonical : ∀ p ∈ r.config.projects, p.Canonical := by
    intro p hp
    obtain ⟨d, hd⟩ := hresolved p hp
    exact canonical_of_resolveProject hfind hbase hd
  obtain ⟨ps, -, hconfig, -⟩ := resolve_eq_ok_iff.mp h
  have hnames : (r.config.settings.map Prod.fst).Nodup := by
    rw [hconfig]
    exact nodup_names_of_ofValue haccepted
  have hsorted : sortByDepth r.config.projects = r.config.projects := by
    rw [hconfig]
    exact sortByDepth_sortByDepth ps
  obtain ⟨hvalue, hargument⟩ := ofValue_toValue hnames hcanonical
  refine ⟨r.config.toUserConfig, hvalue, hargument, fun base' workspace' => ?_⟩
  refine ⟨⟨r.config, repeatedTexts (r.config.projects.map Project.root)⟩,
    resolve_eq_ok_iff.mpr ⟨r.config.projects, ?_, ?_, rfl⟩, rfl⟩
  · rw [declarationsOf_toUserConfig (projects_ne_nil_of_resolve h)]
    exact map_resolveProject_toDeclaration hresolved hcanonical base'
  · rw [hsorted]
    rfl

/-- A search that finds every tsconfig file, and in a roundabout way. -/
def roundaboutFinder : Finder := fun _ name =>
  if name = Text.ofString "tsconfig.json" then .ok (some "/w//t/../tsconfig.json") else .ok none

/-- Settings, a root that goes up and down, and overrides of which one is
empty. -/
def roundaboutValue : Value :=
  .map [(.str "settings", .map [(.str "x", .bool true), (.str "y", .int 1)]),
    (.str "projects", .list [.str "b/..//a",
      .map [(.str "root", .str "."), (.str "package", .str "../p"), (.str "tsconfig", .str "")]])]

def roundaboutConfig : UserConfig :=
  ⟨some [("x", .bool true), ("y", .int 1)],
    some [.path "b/..//a", .record ⟨".", some "../p", some ""⟩]⟩

theorem resolve_toValue_roundabout :
    FindsAbsolute roundaboutFinder ∧ IsAbsolutePath "/w"
      ∧ UserConfig.ofValue roundaboutValue = .ok roundaboutConfig
      ∧ ∃ r written r', resolve roundaboutFinder "/w" "/v" roundaboutConfig = .ok r
          ∧ UserConfig.ofArgument r.config.toValue = .ok written
          ∧ resolve roundaboutFinder "elsewhere" "" written = .ok r'
          ∧ r'.config = r.config := by
  have hfind : FindsAbsolute roundaboutFinder := by
    intro root name path h
    unfold roundaboutFinder at h
    split at h
    · simp only [Except.ok.injEq, Option.some.injEq] at h
      subst h
      decide
    · simp at h
  have hbase : IsAbsolutePath "/w" := by decide
  have hvalue : UserConfig.ofValue roundaboutValue = .ok roundaboutConfig := rfl
  have hr : resolve roundaboutFinder "/w" "/v" roundaboutConfig = .ok _ := rfl
  obtain ⟨written, -, hwritten, hagain⟩ := resolve_toValue hfind hbase hvalue hr
  obtain ⟨r', hr', heq⟩ := hagain "elsewhere" ""
  exact ⟨hfind, hbase, hvalue, _, written, r', hr, hwritten, hr', heq⟩

end Workspace
