/-
Workspace.Proofs.SettingPrecedence — which value a setting has.

A setting that the user writes comes through validation and resolution with its
value unchanged, so that a reader of the resolved configuration gets just what
was written, be it false, zero or empty (`Writes`). A setting that is not
written has the server's default, if its name leads to a leaf of the default
settings that is not null (`defaultSetting?_eq_some_iff`), and otherwise what the
reader falls back on. Nothing else has a say (`setting?_of_resolve`).

In a mapping whose keys are texts, a name is written once. Bytes are taken for
the text that they spell, so then a name may be written more than once, and the
last of these entries counts (`Assigns`).
-/
import Workspace.Proofs.DocumentedShape
import Workspace.Proofs.FlattenedLeaves

namespace Workspace

open Text (joinWith)

/-! ## What is written -/

/-- Among the entries, the last one whose key spells the name has the value. -/
inductive Assigns : List (Value × Value) → Text → Value → Prop
  | last {k v : Value} {rest : List (Value × Value)} {name : Text} (hkey : laxText k = .ok name)
      (hrest : ∀ e ∈ rest, laxText e.1 ≠ .ok name) : Assigns ((k, v) :: rest) name v
  | later {e : Value × Value} {rest : List (Value × Value)} {name : Text} {v : Value}
      (h : Assigns rest name v) : Assigns (e :: rest) name v

/-- The settings of a written configuration give the value to the name. -/
def Writes (entries : List (Value × Value)) (name : Text) (v : Value) : Prop :=
  ∃ settings, Value.lookup? entries "settings" = some (.map settings) ∧ Assigns settings name v

theorem assigns_cons_iff {k v w : Value} {rest : List (Value × Value)} {name : Text} :
    Assigns ((k, v) :: rest) name w
      ↔ (laxText k = .ok name ∧ w = v ∧ ∀ e ∈ rest, laxText e.1 ≠ .ok name)
        ∨ Assigns rest name w := by
  constructor
  · intro h
    cases h with
    | last hkey hrest => exact Or.inl ⟨hkey, rfl, hrest⟩
    | later h => exact Or.inr h
  · rintro (⟨hkey, rfl, hrest⟩ | h)
    · exact .last hkey hrest
    · exact .later h

/-- Under keys that are different texts, a name is written where it is the key. -/
theorem assigns_fields_iff {name : Text} {v : Value} :
    ∀ {fields : List (Text × Value)}, (fields.map Prod.fst).Nodup →
      (Assigns (fields.map fun f => (.str f.1, f.2)) name v ↔ (name, v) ∈ fields)
  | [], _ => by
    constructor
    · intro h
      cases h
    · simp
  | (n, w) :: rest, h => by
    obtain ⟨hn, hrest⟩ : n ∉ rest.map Prod.fst ∧ (rest.map Prod.fst).Nodup := List.nodup_cons.mp h
    have ih : Assigns (rest.map fun f => (.str f.1, f.2)) name v ↔ (name, v) ∈ rest :=
      assigns_fields_iff hrest
    have hkeys : ∀ e ∈ rest.map fun f => ((.str f.1, f.2) : Value × Value),
        laxText e.1 ≠ .ok n := by
      intro e he hkey
      obtain ⟨f, hf, rfl⟩ := List.mem_map.mp he
      have hname : f.1 = n := Except.ok.inj hkey
      exact hn (List.mem_map.mpr ⟨f, hf, hname⟩)
    rw [List.map_cons, assigns_cons_iff, ih, List.mem_cons, Prod.mk.injEq]
    refine or_congr ?_ Iff.rfl
    constructor
    · rintro ⟨hkey, rfl, -⟩
      exact ⟨(Except.ok.inj hkey).symm, rfl⟩
    · rintro ⟨rfl, rfl⟩
      exact ⟨rfl, rfl, hkeys⟩

/-! ## What validation makes of it -/

theorem Settings.lookup_insert (settings : Settings) (name other : Text) (value : Setting) :
    (settings.insert name value).lookup other
      = if other = name then some value else settings.lookup other := by
  induction settings with
  | nil =>
    rw [Settings.insert, List.lookup_cons]
    by_cases h : other = name
    · simp [h]
    · simp [h, beq_eq_false_iff_ne.mpr h]
  | cons p rest ih =>
    obtain ⟨n, v⟩ := p
    rw [Settings.insert]
    by_cases hn : n = name
    · rw [if_pos hn, hn, List.lookup_cons, List.lookup_cons]
      by_cases h : other = name
      · simp [h]
      · simp [h, beq_eq_false_iff_ne.mpr h]
    · rw [if_neg hn, List.lookup_cons, List.lookup_cons, ih]
      by_cases h : other = n
      · simp [h, hn]
      · simp [beq_eq_false_iff_ne.mpr h]

/-- An entry that is read has a key that spells the name, and the value itself. -/
theorem settingEntry_eq_ok {e : Value × Value} {p : Text × Setting}
    (h : settingEntry e = .ok p) : laxText e.1 = .ok p.1 ∧ e.2 = p.2.toValue := by
  obtain ⟨name, s⟩ := p
  rw [settingEntry, Checked.under_eq_ok_iff, Checked.both_eq_ok_iff, Checked.under_eq_ok_iff,
    settingOf_eq_ok_iff] at h
  exact h

/-- **Assigning one pair after the other keeps the last value of each name**, and
what was there before under names that no entry spells. -/
theorem lookup_foldl_insert_iff {name : Text} {w : Value} :
    ∀ {entries : List (Value × Value)} {pairs settings : Settings},
      List.Forall₂ (fun e p => settingEntry e = .ok p) entries pairs →
        (((pairs.foldl (fun acc p => acc.insert p.1 p.2) settings).lookup name).map Setting.toValue
            = some w
          ↔ Assigns entries name w
            ∨ (∀ e ∈ entries, laxText e.1 ≠ .ok name)
              ∧ (settings.lookup name).map Setting.toValue = some w)
  | [], _, settings, h => by
    rw [List.forall₂_nil_left_iff.mp h]
    constructor
    · intro hlookup
      exact Or.inr ⟨by simp, hlookup⟩
    · rintro (h | ⟨-, hlookup⟩)
      · cases h
      · exact hlookup
  | (k, v) :: rest, _, settings, h => by
    obtain ⟨⟨n, t⟩, pairs, hentry, hrest, rfl⟩ := List.forall₂_cons_left_iff.mp h
    obtain ⟨hkey, rfl⟩ := settingEntry_eq_ok hentry
    rw [List.foldl_cons, lookup_foldl_insert_iff hrest, Settings.lookup_insert,
      List.forall_mem_cons, assigns_cons_iff]
    by_cases hname : name = n
    · subst hname
      have hlast : (∀ e ∈ rest, laxText e.1 ≠ .ok name) ∧ (some t).map Setting.toValue = some w
          ↔ w = t.toValue ∧ ∀ e ∈ rest, laxText e.1 ≠ .ok name := by
        rw [and_comm, Option.map_some, Option.some.injEq, eq_comm]
      rw [if_pos rfl, hlast]
      simp only [hkey, ne_eq, not_true, false_and, or_false, true_and]
      exact or_comm
    · have hother : laxText k ≠ .ok name := by
        rw [hkey]
        exact fun h => hname (Except.ok.inj h).symm
      rw [if_neg hname]
      simp only [hother, false_and, false_or, ne_eq, not_false_iff, true_and]

/-- The settings of an accepted configuration are those of its field. -/
theorem spellsOptional_settings {entries : List (Value × Value)} {config : UserConfig}
    (h : UserConfig.ofValue (.map entries) = .ok config) :
    SpellsOptional (fun v settings => settingsOf v = .ok settings)
      (Value.lookup? entries "settings") config.settings := by
  rw [ofValue_map, ofMapping_eq_ok_iff, UserConfig.ofEntries, map_eq_ok_iff] at h
  obtain ⟨⟨settings, projects⟩, hboth, rfl⟩ := h
  have hnull : ∀ settings : Settings, settingsOf .null ≠ .ok settings := by
    simp [settingsOf, Checked.issue]
  exact (optionalField_eq_ok_iff hnull fun _ _ _ => Iff.rfl).mp (Checked.both_eq_ok_iff.mp hboth).1

/-- **Validation keeps every setting as it was written**, and adds none. -/
theorem lookup_settings_iff {entries : List (Value × Value)} {config : UserConfig}
    (h : UserConfig.ofValue (.map entries) = .ok config) {name : Text} {v : Value} :
    ((config.settings.getD []).lookup name).map Setting.toValue = some v
      ↔ Writes entries name v := by
  have hspells := spellsOptional_settings h
  unfold Writes
  generalize Value.lookup? entries "settings" = found, config.settings = settings at hspells
  cases hspells with
  | absent => simp
  | null => simp
  | @given written settings hwritten =>
    cases written with
    | map written =>
      obtain ⟨pairs, hpairs, rfl⟩ := map_eq_ok_iff.mp hwritten
      rw [Option.getD_some, Settings.ofPairs,
        lookup_foldl_insert_iff (Checked.all_map_eq_ok_iff.mp hpairs)]
      simp
    | null | bool | int | float | str | bytes | date | moment | list | set =>
      simp [settingsOf, Checked.issue] at hwritten

/-! ## What the server has by default -/

/-- The default settings of the server, under the names of editors. -/
def defaultSettings : Value :=
  ServerSettings.toValue .editor {}

theorem defaultSettings_nodup_names : ((defaultSettings.leaves []).map Prod.fst).Nodup := by
  have hseparable : defaultSettings.Separable := ServerSettings.separable_toValue {}
  rw [hseparable.leaves_eq, List.map_map]
  exact hseparable.nodup_dottedName []

theorem mem_leaves_defaultSettings_iff {name : Text} {v : Value} :
    (name, v) ∈ defaultSettings.leaves []
      ↔ ∃ path, defaultSettings.HasLeaf path v ∧ name = joinWith (.char '.') path := by
  have hseparable : defaultSettings.Separable := ServerSettings.separable_toValue {}
  rw [hseparable.leaves_nil, List.mem_map]
  constructor
  · rintro ⟨⟨path, leaf⟩, hmem, heq⟩
    obtain ⟨rfl, rfl⟩ := Prod.mk.inj heq
    exact ⟨path, Value.mem_leafPaths_iff.mp hmem, rfl⟩
  · rintro ⟨path, hleaf, rfl⟩
    exact ⟨(path, v), Value.mem_leafPaths_iff.mpr hleaf, rfl⟩

/-- A default is what the leaves have under the name, except for null. -/
theorem defaultSetting?_eq_some_iff_lookup {name : Text} {v : Value} :
    defaultSetting? name = some v
      ↔ (defaultSettings.leaves []).lookup name = some v ∧ v ≠ .null := by
  unfold defaultSetting? defaultSettings
  split
  · next hnone => simp [hnone]
  · next hnull =>
    rw [hnull, Option.some.injEq]
    constructor
    · intro h
      cases h
    · rintro ⟨rfl, h⟩
      exact absurd rfl h
  · next w hw hsome =>
    rw [hsome, Option.some.injEq]
    constructor
    · rintro rfl
      exact ⟨rfl, hw⟩
    · exact And.left

/-- **A setting has a default** if its name leads to a leaf of the default
settings that is not null. -/
theorem defaultSetting?_eq_some_iff {name : Text} {v : Value} :
    defaultSetting? name = some v
      ↔ ∃ path, defaultSettings.HasLeaf path v ∧ name = joinWith (.char '.') path ∧ v ≠ .null := by
  rw [defaultSetting?_eq_some_iff_lookup, lookup_eq_some_iff_mem defaultSettings_nodup_names,
    mem_leaves_defaultSettings_iff]
  constructor
  · rintro ⟨⟨path, hleaf, hname⟩, hv⟩
    exact ⟨path, hleaf, hname, hv⟩
  · rintro ⟨path, hleaf, hname, hv⟩
    exact ⟨⟨path, hleaf, hname⟩, hv⟩

theorem defaultSetting?_eq_none_iff {name : Text} :
    defaultSetting? name = none
      ↔ ∀ path leaf, defaultSettings.HasLeaf path leaf → name = joinWith (.char '.') path →
          leaf = .null := by
  rw [Option.eq_none_iff_forall_ne_some]
  constructor
  · intro h path leaf hleaf hname
    by_contra hset
    exact h leaf (defaultSetting?_eq_some_iff.mpr ⟨path, hleaf, hname, hset⟩)
  · intro h leaf hsome
    obtain ⟨path, hleaf, hname, hset⟩ := defaultSetting?_eq_some_iff.mp hsome
    exact hset (h path leaf hleaf hname)

/-! ## What a reader is told -/

/-- The value that a reader of the setting is told who would take `usual` for
want of a better one. -/
inductive ReadsAs (entries : List (Value × Value)) (key : Text) (usual : Value) : Value → Prop
  | written {v : Value} (h : Writes entries key v) : ReadsAs entries key usual v
  | byDefault {path : List Text} {leaf : Value} (hfree : ∀ v, ¬Writes entries key v)
      (hleaf : defaultSettings.HasLeaf path leaf) (hkey : key = joinWith (.char '.') path)
      (hset : leaf ≠ .null) : ReadsAs entries key usual leaf
  | usual (hfree : ∀ v, ¬Writes entries key v)
      (hunset : ∀ path leaf, defaultSettings.HasLeaf path leaf →
        key = joinWith (.char '.') path → leaf = .null) : ReadsAs entries key usual usual

/-- The configuration tells its readers what is written in the entries. -/
structure PassesOn (entries : List (Value × Value)) (c : FullConfig) : Prop where
  /-- It has the settings that are written, with their values, and no others. -/
  kept : ∀ key v, (c.settings.lookup key).map Setting.toValue = some v ↔ Writes entries key v
  /-- To check the settings once more changes nothing. -/
  rechecked : settingsOf c.settings.toValue = .ok c.settings
  told : ∀ key usual v, (setting? (some c) key).getD usual = v ↔ ReadsAs entries key usual v
  required : ∀ key message v, requireSetting (some c) key message = .ok v
    ↔ ReadsAs entries key .null v ∧ v ≠ .null
  missing : ∀ key message e, requireSetting (some c) key message = .error e
    ↔ ReadsAs entries key .null .null ∧ e = .settingMissing key message

theorem Setting.toValue_ne_null (s : Setting) : s.toValue ≠ .null := by
  cases s <;> exact Value.noConfusion

/-- Null is never the value of a setting: a setting without a value has none. -/
theorem setting?_ne_null (config : Option FullConfig) (key : Text) :
    setting? config key ≠ some .null := by
  unfold setting?
  split
  · next s _ => exact fun h => s.toValue_ne_null (Option.some.inj h)
  · intro h
    obtain ⟨-, -, -, hnull⟩ := defaultSetting?_eq_some_iff.mp h
    exact hnull rfl

/-- A required setting is the setting, or its want is the error. -/
theorem requireSetting_eq_iff (config : Option FullConfig) (key : Text) (message : Option Text) :
    (∀ v, requireSetting config key message = .ok v
        ↔ (setting? config key).getD .null = v ∧ v ≠ .null)
      ∧ ∀ e, requireSetting config key message = .error e
        ↔ (setting? config key).getD .null = .null ∧ e = .settingMissing key message := by
  have hnull := setting?_ne_null config key
  unfold requireSetting
  split
  · next w hw =>
    have hw' : w ≠ .null := fun h => hnull (h ▸ hw)
    rw [hw, Option.getD_some]
    refine ⟨fun v => ?_, fun e => ?_⟩
    · rw [Except.ok.injEq]
      exact ⟨fun h => ⟨h, h ▸ hw'⟩, And.left⟩
    · simp [hw']
  · next hnone =>
    rw [hnone, Option.getD_none]
    refine ⟨fun v => ?_, fun e => ?_⟩
    · constructor
      · intro h
        cases h
      · rintro ⟨rfl, h⟩
        exact absurd rfl h
    · rw [Except.error.injEq, eq_comm]
      simp

/-- What a configuration has for a name goes before any default. -/
theorem setting?_some (c : FullConfig) (key : Text) :
    setting? (some c) key
      = ((c.settings.lookup key).map Setting.toValue).or (defaultSetting? key) := by
  unfold setting?
  rw [Option.bind_some]
  cases c.settings.lookup key <;> rfl

/-- Where a configuration has just the written settings, it is read as they say. -/
theorem getD_setting?_iff {entries : List (Value × Value)} {c : FullConfig} {key : Text}
    (hkept : ∀ v, (c.settings.lookup key).map Setting.toValue = some v ↔ Writes entries key v)
    (usual v : Value) :
    (setting? (some c) key).getD usual = v ↔ ReadsAs entries key usual v := by
  have hnone : (c.settings.lookup key).map Setting.toValue = none ↔ ∀ v, ¬Writes entries key v := by
    simp only [Option.eq_none_iff_forall_ne_some, ne_eq, hkept]
  rw [setting?_some]
  constructor
  · rintro rfl
    cases hfound : (c.settings.lookup key).map Setting.toValue with
    | some w => exact .written ((hkept w).mp hfound)
    | none =>
      have hfree := hnone.mp hfound
      cases hdefault : defaultSetting? key with
      | some w =>
        obtain ⟨path, hleaf, hkey, hset⟩ := defaultSetting?_eq_some_iff.mp hdefault
        exact .byDefault hfree hleaf hkey hset
      | none => exact .usual hfree (defaultSetting?_eq_none_iff.mp hdefault)
  · intro h
    cases h with
    | written h => rw [(hkept v).mpr h, Option.some_or, Option.getD_some]
    | byDefault hfree hleaf hkey hset =>
      rw [hnone.mpr hfree, Option.none_or, defaultSetting?_eq_some_iff.mpr ⟨_, hleaf, hkey, hset⟩,
        Option.getD_some]
    | usual hfree hunset =>
      rw [hnone.mpr hfree, defaultSetting?_eq_none_iff.mpr hunset, Option.none_or, Option.getD_none]

/-- **A setting that is written reaches its readers unchanged, and nothing
shadows it.** Whatever mapping is accepted, handed over as it is or checked
before, and wherever it is resolved: each name reads as what is written for it,
then as the default of the server, then as what the reader would take, and a
required setting is an error just when none of these gives a value. Where all
keys are different texts, what is written for a name is the value at that key. -/
theorem setting?_of_resolve {entries : List (Value × Value)} {config : UserConfig} {find : Finder}
    {base workspace : Text} {r : Resolution}
    (haccepted : UserConfig.ofValue (.map entries) = .ok config)
    (h : resolve find base workspace config = .ok r) :
    PassesOn entries r.config
      ∧ UserConfig.ofArgument (.map entries) = .ok config
      ∧ ∀ fields : List (Text × Value), (fields.map Prod.fst).Nodup →
          Value.lookup? entries "settings" = some (.ofFields fields) →
          ∀ key v, Writes entries key v ↔ (key, v) ∈ fields := by
  obtain ⟨ps, -, hconfig, -⟩ := resolve_eq_ok_iff.mp h
  have hsettings : r.config.settings = config.settings.getD [] := by rw [hconfig]
  have hkept : ∀ key v,
      (r.config.settings.lookup key).map Setting.toValue = some v ↔ Writes entries key v := by
    intro key v
    rw [hsettings]
    exact lookup_settings_iff haccepted
  have htold := fun key => getD_setting?_iff (hkept key)
  refine ⟨⟨hkept, ?_, htold, fun key message v => ?_, fun key message e => ?_⟩, ?_, ?_⟩
  · rw [hsettings]
    exact settingsOf_toValue (nodup_names_of_ofValue haccepted)
  · rw [(requireSetting_eq_iff _ key message).1, htold]
  · rw [(requireSetting_eq_iff _ key message).2, htold]
  · exact (ofValue_map entries).symm.trans haccepted
  · intro fields hnames hlookup key v
    unfold Writes
    rw [hlookup]
    constructor
    · rintro ⟨written, hwritten, hassigns⟩
      cases hwritten
      exact (assigns_fields_iff hnames).mp hassigns
    · intro hmem
      exact ⟨_, rfl, (assigns_fields_iff hnames).mpr hmem⟩

/-- Settings that are false, zero or empty, among them one that has another
default and one under the name of a whole section. -/
def falsyFields : List (Text × Value) :=
  [("coffeesense.dev.logLevel", .bool false), ("coffeesense", .int 0), ("", .str "")]

def falsyConfig : UserConfig where
  settings := some [("coffeesense.dev.logLevel", .bool false), ("coffeesense", .int 0),
    ("", .str "")]
  projects := none

theorem setting?_of_resolve_falsyFields :
    UserConfig.ofValue (.map [(.str "settings", .ofFields falsyFields)]) = .ok falsyConfig
      ∧ ∃ r, resolve (fun _ _ => .ok none) "/w" "/w" falsyConfig = .ok r
        ∧ PassesOn [(.str "settings", .ofFields falsyFields)] r.config
        ∧ Writes [(.str "settings", .ofFields falsyFields)] "coffeesense" (.int 0)
        ∧ setting? (some r.config) "coffeesense.dev.logLevel" = some (.bool false)
        ∧ setting? (some r.config) "coffeesense.dev.lspPort" = some (.int (-1))
        ∧ setting? (some r.config) "coffeesense.dev" = none
        ∧ setting? (some r.config) "typescript.tsdk" = none := by
  have haccepted : UserConfig.ofValue (.map [(.str "settings", .ofFields falsyFields)])
      = .ok falsyConfig := rfl
  have hresolved : resolve (fun _ _ => .ok none) "/w" "/w" falsyConfig = .ok _ := rfl
  obtain ⟨hpasses, -, hwrites⟩ := setting?_of_resolve haccepted hresolved
  refine ⟨haccepted, _, hresolved, hpasses, ?_, rfl, rfl, rfl, rfl⟩
  exact (hwrites falsyFields (by decide) rfl "coffeesense" (.int 0)).mpr (by simp [falsyFields])

end Workspace
