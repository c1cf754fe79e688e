/-
Workspace.Proofs.FlattenedLeaves — laying a tree of settings out flat loses
nothing.

`Value.leafPaths` lists what is no mapping in nested mappings, each leaf with
the names that lead to it; `Value.HasLeaf` says the same without a list. The
dotted name of a leaf joins these names behind a prefix, if there is one
(`dottedName`).

Different leaves can have one dotted name: `b` below `a`, and `a.b`. They have
not in a tree that is `Separable`: where a mapping holds mappings, the names in
it are neither empty nor dotted, so that the name of a leaf shows the first of
its steps; where it holds none, any names will do, as long as they are
different. The settings of the server are such a tree, and so is a resolved
configuration, whose names of settings can be any texts. Flattened, both are
just their leaves under their dotted names (`flattened_laysOut`).
-/
import Workspace.Proofs.BucketContent
import Workspace.Proofs.JsonRoundTrip
import Workspace.Proofs.WrittenConfig
import Workspace.ServerSettings

namespace Workspace

open Text (joinWith)

/-! ## Leaves and the way to them -/

namespace Value

def IsMapping : Value → Prop
  | .map _ => True
  | _ => False

mutual

/-- Everything in nested mappings that is no mapping, in order, with the names
of the keys that lead to it. -/
def leafPaths : Value → List (List Text × Value)
  | .map entries => entryLeafPaths entries
  | v => [([], v)]

def entryLeafPaths : List (Value × Value) → List (List Text × Value)
  | [] => []
  | (k, v) :: rest => (v.leafPaths.map fun l => (k.plain :: l.1, l.2)) ++ entryLeafPaths rest

end

/-- The names of the path lead from the value to `leaf`, which is no mapping. -/
inductive HasLeaf : Value → List Text → Value → Prop
  | here {v : Value} (h : ¬v.IsMapping) : HasLeaf v [] v
  | within {entries : List (Value × Value)} {k v leaf : Value} {path : List Text}
      (hentry : (k, v) ∈ entries) (h : HasLeaf v path leaf) :
      HasLeaf (.map entries) (k.plain :: path) leaf

theorem leafPaths_of_not_isMapping {v : Value} (h : ¬v.IsMapping) : v.leafPaths = [([], v)] := by
  cases v with
  | map entries => exact absurd trivial h
  | null | bool | int | float | str | bytes | date | moment | list | set => rfl

theorem mem_entryLeafPaths_iff {path : List Text} {leaf : Value} :
    ∀ {entries : List (Value × Value)}, (path, leaf) ∈ entryLeafPaths entries
      ↔ ∃ e ∈ entries, ∃ rest, (rest, leaf) ∈ e.2.leafPaths ∧ path = e.1.plain :: rest
  | [] => by simp [entryLeafPaths]
  | (k, v) :: entries => by
    rw [entryLeafPaths, List.mem_append, mem_entryLeafPaths_iff, List.exists_mem_cons_iff]
    refine or_congr ?_ Iff.rfl
    simp only [List.mem_map, Prod.exists, Prod.mk.injEq]
    constructor
    · rintro ⟨rest, _, h, rfl, rfl⟩
      exact ⟨rest, h, rfl⟩
    · rintro ⟨rest, h, rfl⟩
      exact ⟨rest, leaf, h, rfl, rfl⟩

theorem hasLeaf_of_mem {leaf : Value} :
    ∀ (v : Value) {path : List Text}, (path, leaf) ∈ v.leafPaths → v.HasLeaf path leaf
  | .map entries, path, h => by
    obtain ⟨⟨k, w⟩, hentry, rest, hrest, rfl⟩ := mem_entryLeafPaths_iff.mp h
    exact .within hentry (hasLeaf_of_mem w hrest)
  | .null, _, h | .bool _, _, h | .int _, _, h | .float _, _, h | .str _, _, h | .bytes _, _, h
  | .date _, _, h | .moment _, _, h | .list _, _, h | .set _, _, h => by
    obtain ⟨rfl, rfl⟩ : _ = [] ∧ leaf = _ := by simpa [leafPaths] using h
    exact .here id
termination_by v => sizeOf v
decreasing_by
  have hsize := List.sizeOf_lt_of_mem hentry
  simp only [Prod.mk.sizeOf_spec, map.sizeOf_spec] at hsize ⊢
  omega

/-- **The leaves are listed with just the paths that lead to them.** -/
theorem mem_leafPaths_iff {v leaf : Value} {path : List Text} :
    (path, leaf) ∈ v.leafPaths ↔ v.HasLeaf path leaf := by
  constructor
  · exact hasLeaf_of_mem v
  · intro h
    induction h with
    | here h => simp [leafPaths_of_not_isMapping h]
    | within hentry _ ih => exact mem_entryLeafPaths_iff.mpr ⟨_, hentry, _, ih, rfl⟩

end Value

/-! ## Dotted names -/

/-- The names of a path joined by dots, behind a prefix if there is one. -/
def dottedName (start : Text) (path : List Text) : Text :=
  joinWith (.char '.') (if start = [] then path else start :: path)

namespace Text

variable {α : Type} {sep : α}

/-- A joined text goes on behind a separator, or not at all. -/
theorem joinWith_cons_eq (p : List α) (ps : List (List α)) :
    joinWith sep (p :: ps) = p ++ (if ps = [] then [] else sep :: joinWith sep ps) := by
  by_cases hps : ps = []
  · subst hps
    simp [joinWith]
  · rw [joinWith_cons hps, if_neg hps]

theorem joinWith_cons_cons (p q : List α) (ps : List (List α)) :
    joinWith sep (p :: q :: ps) = joinWith sep ((p ++ sep :: q) :: ps) := by
  rw [joinWith_cons (by simp), joinWith_cons_eq q, joinWith_cons_eq (p ++ sep :: q)]
  simp

/-- What is joined behind the same piece is the same. -/
theorem joinWith_cons_injective {p : List α} {ps qs : List (List α)}
    (h : joinWith sep (p :: ps) = joinWith sep (p :: qs)) : joinWith sep ps = joinWith sep qs := by
  rw [joinWith_cons_eq, joinWith_cons_eq, List.append_cancel_left_eq] at h
  by_cases hps : ps = [] <;> by_cases hqs : qs = []
  · rw [hps, hqs]
  · simp [hps, hqs] at h
  · simp [hps, hqs] at h
  · simpa [hps, hqs] using h

/-- A piece without the separator shows in the joined text. -/
theorem takeWhile_joinWith [DecidableEq α] {p : List α} (h : sep ∉ p) (ps : List (List α)) :
    (joinWith sep (p :: ps)).takeWhile (· ≠ sep) = p := by
  have hp : ∀ c ∈ p, decide (c ≠ sep) = true := by
    intro c hc
    exact decide_eq_true fun heq => h (heq ▸ hc)
  rw [joinWith_cons_eq, List.takeWhile_append_of_pos hp]
  split <;> simp

end Text

theorem dotted_of_ne_nil {path : Text} (h : path ≠ []) (key : Text) :
    dotted path key = path ++ .char '.' :: key := by
  rw [dotted, if_neg h]
  simp [Text.ofString]

namespace Value

mutual

theorem leaves_of_ne_nil {start : Text} (h : start ≠ []) :
    ∀ v : Value, v.leaves start
      = v.leafPaths.map fun l => (joinWith (.char '.') (start :: l.1), l.2)
  | .map entries => by
    rw [leaves, leafPaths]
    exact entryLeaves_of_ne_nil h entries
  | .null | .bool _ | .int _ | .float _ | .str _ | .bytes _ | .date _ | .moment _ | .list _
  | .set _ => rfl

theorem entryLeaves_of_ne_nil {start : Text} (h : start ≠ []) :
    ∀ entries : List (Value × Value), entryLeaves start entries
      = (entryLeafPaths entries).map fun l => (joinWith (.char '.') (start :: l.1), l.2)
  | [] => rfl
  | (k, v) :: rest => by
    have hdotted : dotted start k.plain ≠ [] := by
      rw [dotted_of_ne_nil h]
      simp
    rw [entryLeaves, entryLeafPaths, List.map_append, List.map_map,
      leaves_of_ne_nil hdotted v, entryLeaves_of_ne_nil h rest, dotted_of_ne_nil h]
    simp only [Function.comp_def, Text.joinWith_cons_cons]

end

/-! ## Trees whose leaves have different names -/

/-- The names of the keys of a mapping. -/
def keyNames (entries : List (Value × Value)) : List Text :=
  entries.map fun e => e.1.plain

/-- No two leaves have one dotted name: mappings hold different names, and those
beside which a mapping stands are neither empty nor dotted. -/
inductive Separable : Value → Prop
  | leaf {v : Value} (h : ¬v.IsMapping) : Separable v
  | flat {entries : List (Value × Value)} (hleaves : ∀ e ∈ entries, ¬e.2.IsMapping)
      (hnames : (keyNames entries).Nodup) : Separable (.map entries)
  | nested {entries : List (Value × Value)}
      (hplain : ∀ name ∈ keyNames entries, name ≠ [] ∧ .char '.' ∉ name)
      (hnames : (keyNames entries).Nodup) (h : ∀ e ∈ entries, Separable e.2) :
      Separable (.map entries)

/-- The entries of a mapping without mappings are its leaves. -/
theorem entryLeafPaths_of_leaves {entries : List (Value × Value)}
    (h : ∀ e ∈ entries, ¬e.2.IsMapping) :
    entryLeafPaths entries = entries.map fun e => ([e.1.plain], e.2) := by
  induction entries with
  | nil => rfl
  | cons e rest ih =>
    have hrest : ∀ e ∈ rest, ¬e.2.IsMapping := fun e he => h e (List.mem_cons_of_mem _ he)
    rw [entryLeafPaths, leafPaths_of_not_isMapping (h e (by simp)), ih hrest]
    rfl

theorem leaves_of_not_isMapping {v : Value} (h : ¬v.IsMapping) (start : Text) :
    v.leaves start = [(start, v)] := by
  cases v with
  | map entries => exact absurd trivial h
  | null | bool | int | float | str | bytes | date | moment | list | set => rfl

/-- Without a prefix, names are joined alike unless an empty one leads to a
mapping, where it would count as no name. -/
theorem entryLeaves_nil {entries : List (Value × Value)}
    (h : ∀ e ∈ entries, e.1.plain ≠ [] ∨ ¬e.2.IsMapping) :
    entryLeaves [] entries
      = (entryLeafPaths entries).map fun l => (joinWith (.char '.') l.1, l.2) := by
  induction entries with
  | nil => rfl
  | cons e rest ih =>
    obtain ⟨k, v⟩ := e
    have hrest : ∀ e ∈ rest, e.1.plain ≠ [] ∨ ¬e.2.IsMapping :=
      fun e he => h e (List.mem_cons_of_mem _ he)
    have hfirst : v.leaves k.plain
        = v.leafPaths.map fun l => (joinWith (.char '.') (k.plain :: l.1), l.2) := by
      rcases h (k, v) (by simp) with hk | hv
      · exact leaves_of_ne_nil hk v
      · rw [leaves_of_not_isMapping hv, leafPaths_of_not_isMapping hv]
        rfl
    rw [entryLeaves, entryLeafPaths, List.map_append, List.map_map, ih hrest]
    show v.leaves k.plain ++ _ = _
    rw [hfirst]
    rfl

theorem Separable.leaves_nil {v : Value} (h : v.Separable) :
    v.leaves [] = v.leafPaths.map fun l => (joinWith (.char '.') l.1, l.2) := by
  cases h with
  | leaf h =>
    rw [leaves_of_not_isMapping h, leafPaths_of_not_isMapping h]
    rfl
  | flat hleaves _ => exact entryLeaves_nil fun e he => Or.inr (hleaves e he)
  | nested hplain _ _ =>
    exact entryLeaves_nil fun e he => Or.inl (hplain _ (List.mem_map_of_mem he)).1

/-- **Leaves are named by the names that lead to them**, whatever the prefix. -/
theorem Separable.leaves_eq {v : Value} (h : v.Separable) (start : Text) :
    v.leaves start = v.leafPaths.map fun l => (dottedName start l.1, l.2) := by
  unfold dottedName
  by_cases hstart : start = []
  · subst hstart
    exact h.leaves_nil
  · rw [leaves_of_ne_nil hstart]
    simp only [if_neg hstart]

/-- A list without repetition stays so under a function that tells apart what
another one told apart. -/
theorem nodup_map_of_nodup_map {α β γ : Type} {f : α → β} {g : α → γ} {l : List α}
    (h : (l.map f).Nodup) (hfg : ∀ a ∈ l, ∀ b ∈ l, g a = g b → f a = f b) :
    (l.map g).Nodup := by
  rw [List.Nodup, List.pairwise_map] at h ⊢
  exact h.imp_of_mem fun {a b} ha hb hne heq => hne (hfg a ha b hb heq)

/-- Below different names without dots, different leaves stay different. -/
theorem nodup_entryLeafPaths {entries : List (Value × Value)}
    (hplain : ∀ name ∈ keyNames entries, .char '.' ∉ name) (hnames : (keyNames entries).Nodup)
    (h : ∀ e ∈ entries, (e.2.leafPaths.map fun l => joinWith (.char '.') l.1).Nodup) :
    ((entryLeafPaths entries).map fun l => joinWith (.char '.') l.1).Nodup := by
  induction entries with
  | nil => simp [entryLeafPaths]
  | cons e rest ih =>
    obtain ⟨k, v⟩ := e
    obtain ⟨hk, hrest⟩ : k.plain ∉ keyNames rest ∧ (keyNames rest).Nodup :=
      List.nodup_cons.mp hnames
    have hplainRest : ∀ name ∈ keyNames rest, .char '.' ∉ name :=
      fun name hname => hplain name (List.mem_cons_of_mem _ hname)
    have hfirst : (v.leafPaths.map fun l => joinWith (.char '.') (k.plain :: l.1)).Nodup :=
      nodup_map_of_nodup_map (h (k, v) (by simp)) fun _ _ _ _ => Text.joinWith_cons_injective
    have hlater := ih hplainRest hrest fun e he => h e (List.mem_cons_of_mem _ he)
    rw [entryLeafPaths, List.map_append, List.map_map, List.nodup_append]
    refine ⟨hfirst, hlater, ?_⟩
    -- the first step of a leaf is what its name shows before any dot
    intro a ha b hb heq
    obtain ⟨l, -, rfl⟩ := List.mem_map.mp ha
    obtain ⟨⟨path, leaf⟩, hpath, rfl⟩ := List.mem_map.mp hb
    obtain ⟨e, he, steps, -, rfl⟩ := mem_entryLeafPaths_iff.mp hpath
    have hmem : e.1.plain ∈ keyNames rest := List.mem_map_of_mem he
    refine hk ?_
    have hsteps := congrArg (List.takeWhile (· ≠ .char '.')) heq
    simp only [Function.comp_def] at hsteps
    rw [Text.takeWhile_joinWith (hplain k.plain (by simp [keyNames])),
      Text.takeWhile_joinWith (hplainRest _ hmem)] at hsteps
    rwa [hsteps]

theorem Separable.nodup_joined {v : Value} (h : v.Separable) :
    (v.leafPaths.map fun l => joinWith (.char '.') l.1).Nodup := by
  induction h with
  | leaf h => simp [leafPaths_of_not_isMapping h]
  | flat hleaves hnames =>
    rw [leafPaths, entryLeafPaths_of_leaves hleaves, List.map_map]
    exact hnames
  | nested hplain hnames _ ih =>
    rw [leafPaths]
    exact nodup_entryLeafPaths (fun name hname => (hplain name hname).2) hnames ih

/-- **Different leaves have different names**, whatever the prefix. -/
theorem Separable.nodup_dottedName {v : Value} (h : v.Separable) (start : Text) :
    (v.leafPaths.map fun l => dottedName start l.1).Nodup := by
  unfold dottedName
  by_cases hstart : start = []
  · simp only [if_pos hstart]
    exact h.nodup_joined
  · simp only [if_neg hstart]
    exact nodup_map_of_nodup_map h.nodup_joined fun _ _ _ _ => Text.joinWith_cons_injective

/-- Flattened, a tree is its leaves under their names. -/
theorem Separable.flattened_eq {v : Value} (h : v.Separable) (start : Text) :
    v.flattened start = .ofFields (v.leafPaths.map fun l => (dottedName start l.1, l.2)) := by
  rw [flattened, h.leaves_eq]
  refine mapping_of_nodup ?_
  rw [List.map_map]
  exact h.nodup_dottedName start

/-- Behind a prefix, the name of a leaf of a mapping follows after a dot. -/
theorem dottedName_of_ne_nil {start : Text} (hstart : start ≠ []) {path : List Text}
    (hpath : path ≠ []) : dottedName start path = start ++ "." ++ dottedName [] path := by
  rw [dottedName, dottedName, if_neg hstart, if_pos rfl, Text.joinWith_cons hpath]
  simp [Text.ofString]

theorem ne_nil_of_mem_entryLeafPaths {entries : List (Value × Value)} {l : List Text × Value}
    (h : l ∈ entryLeafPaths entries) : l.1 ≠ [] := by
  obtain ⟨e, -, steps, -, hl⟩ := mem_entryLeafPaths_iff.mp h
  simp [hl]

end Value

/-! ## The settings of the server and resolved configurations -/

/-- `flat` lays the tree out flat, behind any prefix, and nothing is lost. -/
structure LaysOut (tree : Value) (flat : Text → Value) : Prop where
  /-- The leaves are listed with the paths that lead to them. -/
  leaves : ∀ path leaf, (path, leaf) ∈ tree.leafPaths ↔ tree.HasLeaf path leaf
  /-- Each leaf is there under its name, in order, and nothing else is. -/
  entries : ∀ start,
    flat start = .ofFields (tree.leafPaths.map fun l => (dottedName start l.1, l.2))
  /-- No two leaves have one name. -/
  distinct : ∀ start, (tree.leafPaths.map fun l => dottedName start l.1).Nodup
  /-- A prefix is put before every name, with a dot behind it. -/
  behind : ∀ start, start ≠ [] → ∃ fields, flat [] = .ofFields fields
    ∧ flat start = .ofFields (fields.map fun f => (start ++ "." ++ f.1, f.2))

/-- A mapping is laid out when no two leaves have one name. -/
theorem laysOut_map {entries : List (Value × Value)} (h : (Value.map entries).Separable) :
    LaysOut (.map entries) fun start => (Value.map entries).flattened start where
  leaves := fun _ _ => Value.mem_leafPaths_iff
  entries := h.flattened_eq
  distinct := h.nodup_dottedName
  behind := by
    intro start hstart
    refine ⟨_, h.flattened_eq [], ?_⟩
    rw [h.flattened_eq start, List.map_map]
    congr 1
    refine List.map_congr_left fun l hl => ?_
    have hpath : l.1 ≠ [] := Value.ne_nil_of_mem_entryLeafPaths hl
    simp only [Function.comp_def, Value.dottedName_of_ne_nil hstart hpath]

/-- A record is separable when its values are and its fields have proper names. -/
theorem Value.separable_record {entries : List (Value × Value)} (labels : List Label)
    (hkeys : Value.keyNames entries = labels.map fun label => Text.ofString label.editor)
    (hplain : ∀ label ∈ labels, Text.ofString label.editor ≠ []
      ∧ .char '.' ∉ Text.ofString label.editor)
    (hnames : (labels.map fun label => Text.ofString label.editor).Nodup)
    (h : ∀ e ∈ entries, e.2.Separable) : (Value.map entries).Separable := by
  refine .nested ?_ (hkeys ▸ hnames) h
  rw [hkeys]
  exact List.forall_mem_map.mpr hplain

/-- A single leaf has no other to be told apart from. -/
theorem Value.separable_single {k v : Value} (h : ¬v.IsMapping) :
    (Value.map [(k, v)]).Separable :=
  .flat (by simpa using h) (by simp [Value.keyNames])

theorem TraceLevel.not_isMapping_toValue (level : TraceLevel) : ¬level.toValue.IsMapping := by
  cases level <;> exact id

theorem LogLevel.not_isMapping_toValue (level : LogLevel) : ¬level.toValue.IsMapping := by
  cases level <;> exact id

theorem CoreSettings.separable_toValue (s : CoreSettings) : (s.toValue .editor).Separable := by
  have hfeatures : (Value.map [
      (Label.codeActions.key .editor, .bool s.languageFeatures.codeActions),
      (Label.updateImportOnFileMove.key .editor,
        .bool s.languageFeatures.updateImportOnFileMove)]).Separable := by
    refine Value.separable_record [.codeActions, .updateImportOnFileMove] rfl (by decide)
      (by decide) ?_
    simp only [List.forall_mem_cons]
    exact ⟨.leaf id, .leaf id, by simp⟩
  have hdev : (Value.map [(Label.lspPath.key .editor, .str s.dev.lspPath),
      (Label.lspPort.key .editor, .int s.dev.lspPort),
      (Label.logLevel.key .editor, s.dev.logLevel.toValue)]).Separable := by
    refine Value.separable_record [.lspPath, .lspPort, .logLevel] rfl (by decide) (by decide) ?_
    simp only [List.forall_mem_cons]
    exact ⟨.leaf id, .leaf id, .leaf s.dev.logLevel.not_isMapping_toValue, by simp⟩
  refine Value.separable_record [.ignoreProjectWarning, .useWorkspaceDependencies, .completion,
    .validation, .languageFeatures, .trace, .dev] rfl (by decide) (by decide) ?_
  simp only [List.forall_mem_cons]
  exact ⟨.leaf id, .leaf id, Value.separable_single id, Value.separable_single id, hfeatures,
    Value.separable_single s.trace.server.not_isMapping_toValue, hdev, by simp⟩

theorem TypeScriptSettings.separable_toValue (s : TypeScriptSettings) :
    (s.toValue .editor).Separable := by
  refine Value.separable_single ?_
  cases s.tsdk <;> exact id

theorem ServerSettings.separable_toValue (s : ServerSettings) :
    (s.toValue .editor).Separable := by
  refine Value.separable_record [.coffeesense, .typescript] rfl (by decide) (by decide) ?_
  simp only [List.forall_mem_cons]
  exact ⟨s.core.separable_toValue, s.typescript.separable_toValue, by simp⟩

/-- Settings are separable under any names, dotted or empty. -/
theorem Settings.separable_toValue {settings : Settings} (h : (settings.map Prod.fst).Nodup) :
    settings.toValue.Separable := by
  refine .flat ?_ ?_
  · intro e he
    obtain ⟨⟨name, value⟩, -, rfl⟩ := List.mem_map.mp he
    cases value <;> exact id
  · rw [Value.keyNames, List.map_map]
    exact h

theorem FullConfig.separable_toFullValue {c : FullConfig}
    (h : (c.settings.map Prod.fst).Nodup) : c.toFullValue.Separable := by
  refine .nested ?_ ?_ ?_
  · show ∀ name ∈ [Text.ofString "settings", Text.ofString "projects"], _
    decide
  · show [Text.ofString "settings", Text.ofString "projects"].Nodup
    decide
  · simp only [List.forall_mem_cons]
    exact ⟨Settings.separable_toValue h, .leaf id, by simp⟩

/-- A configuration that is made from fields has settings under different
names. -/
theorem FullConfig.nodup_names_of_ofFields {settings projects : Option Value} {c : FullConfig}
    (h : FullConfig.ofFields settings projects = .ok c) : (c.settings.map Prod.fst).Nodup := by
  unfold FullConfig.ofFields at h
  dsimp only at h
  cases settings with
  | none =>
    split at h
    · next names members hboth =>
      rw [← Except.ok.inj h]
      have hnone : [] = names := Except.ok.inj (Checked.both_eq_ok_iff.mp hboth).1
      simp [← hnone]
    · cases h
  | some v =>
    split at h
    · next names members hboth =>
      rw [← Except.ok.inj h]
      have hsettings : Checked.under (.name "settings") (settingsOf v) = .ok names :=
        (Checked.both_eq_ok_iff.mp hboth).1
      exact nodup_names_of_settingsOf (Checked.under_eq_ok_iff.mp hsettings)
    · cases h

/-- **Flattening is lossless.** The settings of the server, and every resolved
configuration, are laid out flat, behind any prefix, as just their leaves in
order, each under its dotted name, and these names are all different: also when
settings have names that are dotted or empty or go on from one another. A
configuration has its settings under different names, as mappings have, if it is
made from fields; one that was resolved has so too. -/
theorem flattened_laysOut :
    (∀ s : ServerSettings, LaysOut (s.toValue .editor) s.flattened)
      ∧ (∀ c : FullConfig, (c.settings.map Prod.fst).Nodup → LaysOut c.toFullValue c.flattened)
      ∧ ∀ settings projects c, FullConfig.ofFields settings projects = .ok c →
          (c.settings.map Prod.fst).Nodup := by
  refine ⟨fun s => ?_, fun c h => ?_, fun _ _ _ h => FullConfig.nodup_names_of_ofFields h⟩
  · exact laysOut_map s.separable_toValue
  · exact laysOut_map (FullConfig.separable_toFullValue h)

/-- Settings under names that are dotted, empty, or go on from one another. -/
def awkwardConfig : FullConfig where
  settings := [("a.b", .int 1), ("a", .bool false), ("", .str ""), ("a.", .str "x")]
  projects := [⟨"/w", none, some "/w/tsconfig.json"⟩]

theorem flattened_laysOut_awkwardConfig :
    (awkwardConfig.settings.map Prod.fst).Nodup
      ∧ awkwardConfig.flattened "p" = .map [(.str "p.settings.a.b", .int 1),
          (.str "p.settings.a", .bool false), (.str "p.settings.", .str ""),
          (.str "p.settings.a.", .str "x"),
          (.str "p.projects", .list [.map [(.str "root", .str "/w"), (.str "package", .null),
            (.str "tsconfig", .str "/w/tsconfig.json")]])]
      ∧ FullConfig.ofFields (some awkwardConfig.settings.toValue) none
          = .ok ⟨awkwardConfig.settings, []⟩ := by
  have hnames : (awkwardConfig.settings.map Prod.fst).Nodup := by decide
  obtain ⟨-, hconfig, -⟩ := flattened_laysOut
  refine ⟨hnames, ?_, rfl⟩
  rw [(hconfig awkwardConfig hnames).entries "p"]
  rfl

end Workspace
