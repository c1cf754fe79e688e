/-
Workspace.Proofs.DocumentedShape — validation accepts the documented shape of
a configuration, and reads what is written there.

`Documented` is the shape itself, said of the entries of a mapping: settings
under texts, and a list of projects that are texts or records with a root.
`Spells` relates the entries to the configuration that they spell: the settings
are the same pairs, each value of the same kind, and the projects are the same
entries in the same order. One statement for each check of the validation
says when it succeeds and with what (`settingsOf_eq_ok_iff`,
`declarationOf_eq_ok_iff`, `projectsOf_eq_ok_iff`), and together they are
`ofEntries_eq_ok_iff`.

The statements are about plain values (`Value.isPlain`). Beyond these,
validation takes bytes for the name of a setting and a set for a list of
projects.
-/
import Mathlib.Data.List.Forall2
import Workspace.Proofs.WrittenConfig

namespace Workspace

/-! ## Plain values -/

namespace Value

/-- The texts among the keys of a mapping. -/
def textKeys : List (Value × Value) → List Text
  | [] => []
  | (.str s, _) :: rest => s :: textKeys rest
  | _ :: rest => textKeys rest

mutual

/-- A value built from null, booleans, numbers, texts, lists and mappings; no
text is the key of two entries of one mapping. -/
def isPlain : Value → Bool
  | .null | .bool _ | .int _ | .float _ | .str _ => true
  | .list items => arePlain items
  | .map entries => arePlainEntries entries && decide (textKeys entries).Nodup
  | .bytes _ | .date _ | .moment _ | .set _ => false

def arePlain : List Value → Bool
  | [] => true
  | v :: vs => v.isPlain && arePlain vs

def arePlainEntries : List (Value × Value) → Bool
  | [] => true
  | (k, v) :: rest => k.isPlain && v.isPlain && arePlainEntries rest

end

theorem isPlain_of_mem : ∀ {entries : List (Value × Value)} {e : Value × Value},
    arePlainEntries entries = true → e ∈ entries → e.1.isPlain = true ∧ e.2.isPlain = true
  | (k, v) :: rest, e, h, he => by
    simp only [arePlainEntries, Bool.and_eq_true] at h
    rcases List.mem_cons.mp he with rfl | he
    · exact h.1
    · exact isPlain_of_mem h.2 he

/-- What is found in a plain mapping is plain. -/
theorem isPlain_of_lookup? {entries : List (Value × Value)} {name : String} {v : Value}
    (h : (Value.map entries).isPlain = true) (hv : lookup? entries name = some v) :
    v.isPlain = true := by
  simp only [isPlain, Bool.and_eq_true] at h
  obtain ⟨e, he, rfl⟩ := Option.map_eq_some_iff.mp hv
  exact (isPlain_of_mem h.1 (List.mem_of_find?_eq_some he)).2

end Value

/-! ## The documented shape -/

def IsText : Value → Prop
  | .str _ => True
  | _ => False

/-- A text that is more than white space. -/
def IsFilledText : Value → Prop
  | .str s => Text.isBlank s = false
  | _ => False

/-- A boolean, an integer, a floating-point number or a text. -/
def IsSettingValue : Value → Prop
  | .bool _ | .int _ | .float _ | .str _ => True
  | _ => False

/-- Absent, null or of the required shape. -/
def Optionally (shape : Value → Prop) : Option Value → Prop
  | none => True
  | some v => v = .null ∨ shape v

def IsSettings : Value → Prop
  | .map entries => ∀ e ∈ entries, IsText e.1 ∧ IsSettingValue e.2
  | _ => False

/-- A text that is not blank, or a record with such a root and with texts for
overrides. -/
def IsDeclaration : Value → Prop
  | .str s => Text.isBlank s = false
  | .map entries =>
    (∃ root, Value.lookup? entries "root" = some root ∧ IsFilledText root)
      ∧ Optionally IsText (Value.lookup? entries "package")
      ∧ Optionally IsText (Value.lookup? entries "tsconfig")
  | _ => False

def IsProjectList : Value → Prop
  | .list items => ∀ v ∈ items, IsDeclaration v
  | _ => False

/-- The shape of the entries of a configuration. Nothing is said of entries
under other keys. -/
structure Documented (entries : List (Value × Value)) : Prop where
  settings : Optionally IsSettings (Value.lookup? entries "settings")
  projects : Optionally IsProjectList (Value.lookup? entries "projects")

/-! ## What a configuration spells -/

/-- What a field spells that may be absent or null, given what a value spells. -/
inductive SpellsOptional {α : Type} (spells : Value → α → Prop) : Option Value → Option α → Prop
  | absent : SpellsOptional spells none none
  | null : SpellsOptional spells (some .null) none
  | given {v : Value} {a : α} (h : spells v a) : SpellsOptional spells (some v) (some a)

def SpellsText (v : Value) (s : Text) : Prop :=
  v = .str s

/-- The value has the same pairs in the same order, with values of the same
kinds. -/
def SpellsSettings (v : Value) (settings : Settings) : Prop :=
  v = settings.toValue

inductive SpellsDeclaration : Value → Declaration → Prop
  | path {s : Text} (filled : Text.isBlank s = false) : SpellsDeclaration (.str s) (.path s)
  | record {entries : List (Value × Value)} {fields : ProjectRecord}
      (root : Value.lookup? entries "root" = some (.str fields.root))
      (filled : Text.isBlank fields.root = false)
      (package : SpellsOptional SpellsText (Value.lookup? entries "package") fields.package)
      (tsconfig : SpellsOptional SpellsText (Value.lookup? entries "tsconfig") fields.tsconfig) :
      SpellsDeclaration (.map entries) (.record fields)

/-- The value lists the declarations one by one. -/
def SpellsProjects (v : Value) (ds : List Declaration) : Prop :=
  ∃ items, v = .list items ∧ List.Forall₂ SpellsDeclaration items ds

structure Spells (entries : List (Value × Value)) (config : UserConfig) : Prop where
  settings : SpellsOptional SpellsSettings (Value.lookup? entries "settings") config.settings
  projects : SpellsOptional SpellsProjects (Value.lookup? entries "projects") config.projects

/-! ## The documented shape spells something -/

theorem exists_spellsOptional_iff {α : Type} {spells : Value → α → Prop} {shape : Value → Prop}
    (h : ∀ v, (∃ a, spells v a) ↔ shape v) (found : Option Value) :
    (∃ a, SpellsOptional spells found a) ↔ Optionally shape found := by
  constructor
  · rintro ⟨a, hsays⟩
    cases hsays with
    | absent => trivial
    | null => exact Or.inl rfl
    | given hv => exact Or.inr ((h _).mp ⟨_, hv⟩)
  · intro hshape
    cases found with
    | none => exact ⟨none, .absent⟩
    | some v =>
      rcases hshape with rfl | hv
      · exact ⟨none, .null⟩
      · obtain ⟨a, ha⟩ := (h v).mpr hv
        exact ⟨some a, .given ha⟩

theorem exists_spellsText_iff (v : Value) : (∃ s, SpellsText v s) ↔ IsText v := by
  cases v <;> simp [SpellsText, IsText]

theorem exists_toValue_eq_iff (v : Value) : (∃ s : Setting, v = s.toValue) ↔ IsSettingValue v := by
  constructor
  · rintro ⟨s, rfl⟩
    cases s <;> trivial
  · intro h
    cases v with
    | bool b => exact ⟨.bool b, rfl⟩
    | int i => exact ⟨.int i, rfl⟩
    | float x => exact ⟨.float x, rfl⟩
    | str s => exact ⟨.str s, rfl⟩
    | null | bytes | date | moment | list | set | map => exact absurd h id

/-- Entries of the right shape are settings that were written. -/
theorem exists_settings_of_forall : ∀ {entries : List (Value × Value)},
    (∀ e ∈ entries, IsText e.1 ∧ IsSettingValue e.2) →
      ∃ settings : Settings, Value.map entries = settings.toValue
  | [], _ => ⟨[], rfl⟩
  | (k, v) :: rest, h => by
    obtain ⟨hkey, hvalue⟩ := h (k, v) (by simp)
    obtain ⟨name, rfl⟩ := (exists_spellsText_iff k).mpr hkey
    obtain ⟨s, rfl⟩ := (exists_toValue_eq_iff v).mpr hvalue
    have hrest : ∀ e ∈ rest, IsText e.1 ∧ IsSettingValue e.2 :=
      fun e he => h e (List.mem_cons_of_mem _ he)
    obtain ⟨settings, hsettings⟩ := exists_settings_of_forall hrest
    refine ⟨(name, s) :: settings, ?_⟩
    rw [Settings.toValue, Value.map.injEq] at hsettings ⊢
    rw [hsettings, List.map_cons]

theorem exists_spellsSettings_iff (v : Value) : (∃ s, SpellsSettings v s) ↔ IsSettings v := by
  constructor
  · rintro ⟨settings, rfl⟩ e he
    obtain ⟨p, -, rfl⟩ := List.mem_map.mp he
    exact ⟨trivial, (exists_toValue_eq_iff _).mp ⟨p.2, rfl⟩⟩
  · intro h
    cases v with
    | map entries => exact exists_settings_of_forall h
    | null | bool | int | float | str | bytes | date | moment | list | set => exact absurd h id

theorem exists_spellsDeclaration_iff (v : Value) :
    (∃ d, SpellsDeclaration v d) ↔ IsDeclaration v := by
  constructor
  · rintro ⟨d, h⟩
    cases h with
    | path filled => exact filled
    | record root filled package tsconfig =>
      exact ⟨⟨_, root, filled⟩, (exists_spellsOptional_iff exists_spellsText_iff _).mp ⟨_, package⟩,
        (exists_spellsOptional_iff exists_spellsText_iff _).mp ⟨_, tsconfig⟩⟩
  · intro h
    cases v with
    | str s => exact ⟨.path s, .path h⟩
    | map entries =>
      obtain ⟨⟨v, hroot, hfilled⟩, hpackage, htsconfig⟩ := h
      obtain ⟨package, hpackage⟩ :=
        (exists_spellsOptional_iff exists_spellsText_iff _).mpr hpackage
      obtain ⟨tsconfig, htsconfig⟩ :=
        (exists_spellsOptional_iff exists_spellsText_iff _).mpr htsconfig
      cases v with
      | str root =>
        exact ⟨.record ⟨root, package, tsconfig⟩, .record hroot hfilled hpackage htsconfig⟩
      | null | bool | int | float | bytes | date | moment | list | set | map =>
        exact absurd hfilled id
    | null | bool | int | float | bytes | date | moment | list | set => exact absurd h id

/-- Each member of a list is related to something when the list as a whole is. -/
theorem exists_forall₂_iff {α β : Type} {R : α → β → Prop} :
    ∀ {as : List α}, (∃ bs, List.Forall₂ R as bs) ↔ ∀ a ∈ as, ∃ b, R a b
  | [] => by simp
  | a :: as => by
    have ih : (∃ bs, List.Forall₂ R as bs) ↔ ∀ a ∈ as, ∃ b, R a b := exists_forall₂_iff
    simp only [List.forall₂_cons_left_iff, List.forall_mem_cons, ← ih]
    constructor
    · rintro ⟨_, b, bs, hb, hbs, -⟩
      exact ⟨⟨b, hb⟩, bs, hbs⟩
    · rintro ⟨⟨b, hb⟩, bs, hbs⟩
      exact ⟨_, b, bs, hb, hbs, rfl⟩

theorem exists_spellsProjects_iff (v : Value) : (∃ ds, SpellsProjects v ds) ↔ IsProjectList v := by
  constructor
  · rintro ⟨ds, items, rfl, hall⟩ item hitem
    exact (exists_spellsDeclaration_iff item).mp (exists_forall₂_iff.mp ⟨ds, hall⟩ item hitem)
  · intro h
    cases v with
    | list items =>
      have hitems : ∀ v ∈ items, ∃ d, SpellsDeclaration v d :=
        fun v hv => (exists_spellsDeclaration_iff v).mpr (h v hv)
      obtain ⟨ds, hds⟩ := exists_forall₂_iff.mpr hitems
      exact ⟨ds, items, rfl, hds⟩
    | null | bool | int | float | str | bytes | date | moment | set | map => exact absurd h id

/-- Entries of the documented shape, and no others, spell a configuration. -/
theorem exists_spells_iff {entries : List (Value × Value)} :
    (∃ config, Spells entries config) ↔ Documented entries := by
  constructor
  · rintro ⟨config, h⟩
    exact ⟨(exists_spellsOptional_iff exists_spellsSettings_iff _).mp ⟨_, h.settings⟩,
      (exists_spellsOptional_iff exists_spellsProjects_iff _).mp ⟨_, h.projects⟩⟩
  · intro h
    obtain ⟨settings, hsettings⟩ :=
      (exists_spellsOptional_iff exists_spellsSettings_iff _).mpr h.settings
    obtain ⟨projects, hprojects⟩ :=
      (exists_spellsOptional_iff exists_spellsProjects_iff _).mpr h.projects
    exact ⟨⟨settings, projects⟩, hsettings, hprojects⟩

/-! ## Checks that succeed -/

theorem map_eq_ok_iff {α β ε : Type} {x : Except ε α} {f : α → β} {b : β} :
    x.map f = .ok b ↔ ∃ a, x = .ok a ∧ f a = b := by
  cases x <;> simp [Except.map]

theorem Checked.all_cons_eq_ok_iff {α : Type} {c : Checked α} {cs : List (Checked α)}
    {as : List α} :
    Checked.all (c :: cs) = .ok as
      ↔ ∃ a rest, c = .ok a ∧ Checked.all cs = .ok rest ∧ as = a :: rest := by
  rw [Checked.all]
  cases hboth : Checked.both c (Checked.all cs) with
  | ok both =>
    obtain ⟨hc, hcs⟩ := Checked.both_eq_ok_iff.mp hboth
    simp [hc, hcs, eq_comm]
  | error issues =>
    simp only [reduceCtorEq, false_iff]
    rintro ⟨a, rest, rfl, hcs, -⟩
    simp [hcs, Checked.both] at hboth

/-- A list of checks succeeds when every one of them does. -/
theorem Checked.all_map_eq_ok_iff {α β : Type} {check : α → Checked β} :
    ∀ {vs : List α} {as : List β},
      Checked.all (vs.map check) = .ok as ↔ List.Forall₂ (fun v a => check v = .ok a) vs as
  | [], as => by simp [Checked.all, eq_comm]
  | v :: vs, as => by
    simp only [List.map_cons, Checked.all_cons_eq_ok_iff, Checked.all_map_eq_ok_iff,
      List.forall₂_cons_left_iff]

theorem all_indexed_eq_ok_iff {β : Type} {check : Value → Checked β} :
    ∀ {vs : List Value} {first : Nat} {as : List β},
      Checked.all (indexed check first vs) = .ok as
        ↔ List.Forall₂ (fun v a => check v = .ok a) vs as
  | [], _, as => by simp [Checked.all, indexed, eq_comm]
  | v :: vs, first, as => by
    simp only [indexed, Checked.all_cons_eq_ok_iff, Checked.under_eq_ok_iff, all_indexed_eq_ok_iff,
      List.forall₂_cons_left_iff]

theorem strictText_eq_ok_iff {v : Value} {s : Text} : strictText v = .ok s ↔ SpellsText v s := by
  cases v <;> simp [strictText, SpellsText, Checked.issue]

/-- A field that may be absent or null succeeds when it is, and when its value
does; null itself must not be such a value. -/
theorem optionalField_eq_ok_iff {α : Type} {check : Value → Checked α} {spells : Value → α → Prop}
    {entries : List (Value × Value)} {name : String} {o : Option α}
    (hnull : ∀ a, ¬spells .null a)
    (hcheck : ∀ v, Value.lookup? entries name = some v → ∀ a, check v = .ok a ↔ spells v a) :
    field entries name (.ok none) (optional check) = .ok o
      ↔ SpellsOptional spells (Value.lookup? entries name) o := by
  rw [field, Checked.under_eq_ok_iff]
  cases hfound : Value.lookup? entries name with
  | none =>
    constructor
    · rintro ⟨⟩
      exact .absent
    · rintro ⟨⟩
      rfl
  | some v =>
    by_cases hv : v = .null
    · subst hv
      constructor
      · rintro ⟨⟩
        exact .null
      · intro h
        cases h with
        | null => rfl
        | given h => exact absurd h (hnull _)
    · have hoptional : optional check v = (check v).map some := by
        cases v <;> first | rfl | exact absurd rfl hv
      simp only [hoptional, map_eq_ok_iff, hcheck v hfound]
      constructor
      · rintro ⟨a, ha, rfl⟩
        exact .given ha
      · intro h
        cases h with
        | null => exact absurd rfl hv
        | given h => exact ⟨_, h, rfl⟩

/-! ## Settings -/

theorem settingOf_eq_ok_iff {v : Value} {s : Setting} : settingOf v = .ok s ↔ v = s.toValue := by
  cases v <;> cases s <;> simp [settingOf, Setting.toValue]

/-- A plain key is a name only if it is a text. -/
theorem settingEntry_eq_ok_iff {e : Value × Value} (hkey : e.1.isPlain = true)
    {p : Text × Setting} : settingEntry e = .ok p ↔ e = (.str p.1, p.2.toValue) := by
  obtain ⟨k, v⟩ := e
  obtain ⟨name, s⟩ := p
  have hname : laxText k = .ok name ↔ k = .str name := by
    cases k <;> simp [laxText, strictText, Checked.issue, Value.isPlain] at hkey ⊢
  simp only [settingEntry, Checked.under_eq_ok_iff, Checked.both_eq_ok_iff, hname,
    settingOf_eq_ok_iff, Prod.mk.injEq]

theorem textKeys_map (settings : Settings) :
    Value.textKeys (settings.map fun p => (.str p.1, p.2.toValue)) = settings.map Prod.fst := by
  induction settings with
  | nil => rfl
  | cons p settings ih => rw [List.map_cons, Value.textKeys, ih, List.map_cons]

/-- Entries that are read one by one are those that the settings are written as. -/
theorem entries_eq_of_forall₂ : ∀ {entries : List (Value × Value)} {settings : Settings},
    List.Forall₂ (fun e p => settingEntry e = .ok p) entries settings →
      Value.arePlainEntries entries = true →
        entries = settings.map fun p => (.str p.1, p.2.toValue)
  | [], _, h, _ => by
    rw [List.forall₂_nil_left_iff.mp h]
    rfl
  | (k, v) :: rest, _, h, hplain => by
    obtain ⟨p, settings, hp, hrest, rfl⟩ := List.forall₂_cons_left_iff.mp h
    simp only [Value.arePlainEntries, Bool.and_eq_true] at hplain
    rw [(settingEntry_eq_ok_iff hplain.1.1).mp hp, entries_eq_of_forall₂ hrest hplain.2,
      List.map_cons]

/-- **Settings are read as they stand.** -/
theorem settingsOf_eq_ok_iff {v : Value} (hv : v.isPlain = true) {settings : Settings} :
    settingsOf v = .ok settings ↔ SpellsSettings v settings := by
  constructor
  · intro h
    cases v with
    | map entries =>
      simp only [Value.isPlain, Bool.and_eq_true, decide_eq_true_eq] at hv
      obtain ⟨pairs, hpairs, rfl⟩ := map_eq_ok_iff.mp h
      have hentries := entries_eq_of_forall₂ (Checked.all_map_eq_ok_iff.mp hpairs) hv.1
      -- names that are all different are assigned once each
      have hnames : (pairs.map Prod.fst).Nodup := by
        rw [← textKeys_map, ← hentries]
        exact hv.2
      rw [Settings.ofPairs_of_nodup hnames]
      exact congrArg Value.map hentries
    | null | bool | int | float | str | bytes | date | moment | list | set =>
      simp [settingsOf, Checked.issue] at h
  · rintro rfl
    simp only [Settings.toValue, Value.isPlain, Bool.and_eq_true, decide_eq_true_eq] at hv
    exact settingsOf_toValue (textKeys_map settings ▸ hv.2)

/-! ## Projects -/

theorem rootText_eq_ok_iff {v : Value} {s : Text} :
    rootText v = .ok s ↔ v = .str s ∧ Text.isBlank s = false := by
  cases v with
  | str t =>
    by_cases ht : Text.isBlank t = true
    · simp only [rootText, strictText, ht, if_true, Checked.issue, reduceCtorEq, Value.str.injEq,
        false_iff, not_and]
      rintro rfl
      simp [ht]
    · simp only [rootText, strictText, ht, if_false, Except.ok.injEq, Value.str.injEq,
        Bool.false_eq_true]
      constructor
      · rintro rfl
        exact ⟨rfl, by simpa using ht⟩
      · exact fun h => h.1
  | null | bool | int | float | bytes | date | moment | list | set | map =>
    simp [rootText, strictText, Checked.issue]

theorem rootField_eq_ok_iff {entries : List (Value × Value)} {root : Text} :
    field entries "root" (.issue .missing) rootText = .ok root
      ↔ Value.lookup? entries "root" = some (.str root) ∧ Text.isBlank root = false := by
  rw [field, Checked.under_eq_ok_iff]
  cases Value.lookup? entries "root" with
  | none => simp [Checked.issue]
  | some v => simp only [rootText_eq_ok_iff, Option.some.injEq]

theorem textField_eq_ok_iff {entries : List (Value × Value)} {name : String} {o : Option Text} :
    field entries name (.ok none) (optional strictText) = .ok o
      ↔ SpellsOptional SpellsText (Value.lookup? entries name) o :=
  optionalField_eq_ok_iff (by simp [SpellsText]) fun _ _ _ => strictText_eq_ok_iff

theorem recordOf_eq_ok_iff {entries : List (Value × Value)} {fields : ProjectRecord} :
    recordOf entries = .ok fields ↔ SpellsDeclaration (.map entries) (.record fields) := by
  obtain ⟨root, package, tsconfig⟩ := fields
  simp only [recordOf, map_eq_ok_iff, Prod.exists, Checked.both_eq_ok_iff, rootField_eq_ok_iff,
    textField_eq_ok_iff, ProjectRecord.mk.injEq]
  constructor
  · rintro ⟨_, _, _, ⟨⟨hroot, hfilled⟩, hpackage, htsconfig⟩, rfl, rfl, rfl⟩
    exact .record hroot hfilled hpackage htsconfig
  · intro h
    cases h with
    | record hroot hfilled hpackage htsconfig =>
      exact ⟨root, package, tsconfig, ⟨⟨hroot, hfilled⟩, hpackage, htsconfig⟩, rfl, rfl, rfl⟩

/-- A declaration that is accepted, and is no blank path, is the one that its
value spells. -/
theorem declarationOf_eq_ok_iff {v : Value} {d : Declaration} :
    declarationOf v = .ok d ∧ d.isBlankPath = false ↔ SpellsDeclaration v d := by
  cases v with
  | str s =>
    simp only [declarationOf, strictText, Except.ok.injEq]
    constructor
    · rintro ⟨rfl, hfilled⟩
      exact .path hfilled
    · intro h
      cases h with
      | path filled => exact ⟨rfl, filled⟩
  | map entries =>
    have hrecord : declarationOf (.map entries) = .ok d
        ↔ ∃ fields, recordOf entries = .ok fields ∧ d = .record fields := by
      simp only [declarationOf, strictText, Checked.issue, recordOfValue]
      cases recordOf entries <;> simp [eq_comm]
    rw [hrecord]
    constructor
    · rintro ⟨⟨r, hr, rfl⟩, -⟩
      exact recordOf_eq_ok_iff.mp hr
    · intro h
      cases h with
      | record hroot hfilled hpackage htsconfig =>
        exact ⟨⟨_, recordOf_eq_ok_iff.mpr (.record hroot hfilled hpackage htsconfig), rfl⟩, rfl⟩
  | null | bool | int | float | bytes | date | moment | list | set =>
    constructor
    · rintro ⟨h, -⟩
      simp [declarationOf, strictText, recordOfValue, Checked.issue] at h
    · rintro ⟨⟩

theorem forall₂_declarationOf_iff : ∀ {items : List Value} {ds : List Declaration},
    List.Forall₂ (fun v d => declarationOf v = .ok d) items ds
        ∧ ds.any Declaration.isBlankPath = false
      ↔ List.Forall₂ SpellsDeclaration items ds
  | [], ds => by
    simp only [List.forall₂_nil_left_iff]
    exact ⟨fun h => h.1, fun h => ⟨h, by rw [h]; rfl⟩⟩
  | v :: items, ds => by
    have ih : ∀ rest : List Declaration,
        List.Forall₂ (fun v d => declarationOf v = .ok d) items rest
            ∧ rest.any Declaration.isBlankPath = false
          ↔ List.Forall₂ SpellsDeclaration items rest := fun _ => forall₂_declarationOf_iff
    simp only [List.forall₂_cons_left_iff, ← declarationOf_eq_ok_iff, ← ih]
    constructor
    · rintro ⟨⟨d, rest, hd, hrest, rfl⟩, hblank⟩
      simp only [List.any_cons, Bool.or_eq_false_iff] at hblank
      exact ⟨d, rest, ⟨hd, hblank.1⟩, ⟨hrest, hblank.2⟩, rfl⟩
    · rintro ⟨d, rest, ⟨hd, hfilled⟩, ⟨hrest, hblank⟩, rfl⟩
      refine ⟨⟨d, rest, hd, hrest, rfl⟩, ?_⟩
      simp only [List.any_cons, hfilled, hblank, Bool.or_false]

/-- **Projects are read entry by entry.** -/
theorem projectsOf_eq_ok_iff {v : Value} (hv : v.isPlain = true) {ds : List Declaration} :
    projectsOf v = .ok ds ↔ SpellsProjects v ds := by
  cases v with
  | list items =>
    have hread : projectsOf (.list items) = .ok ds ↔
        Checked.all (indexed declarationOf 0 items) = .ok ds
          ∧ ds.any Declaration.isBlankPath = false := by
      simp only [projectsOf, listMembers?]
      cases Checked.all (indexed declarationOf 0 items) with
      | error issues => simp
      | ok declared =>
        by_cases hblank : declared.any Declaration.isBlankPath = true
        · simp only [hblank, if_true, Checked.issue, reduceCtorEq, Except.ok.injEq, false_iff,
            not_and]
          rintro rfl
          simp [hblank]
        · simp only [hblank, Bool.false_eq_true, if_false, Except.ok.injEq]
          constructor
          · rintro rfl
            exact ⟨rfl, by simpa using hblank⟩
          · exact fun h => h.1
    rw [hread, all_indexed_eq_ok_iff, forall₂_declarationOf_iff]
    constructor
    · exact fun h => ⟨items, rfl, h⟩
    · rintro ⟨_, hitems, h⟩
      exact Value.list.inj hitems ▸ h
  | set items => simp [Value.isPlain] at hv
  | null | bool | int | float | str | bytes | date | moment | map =>
    simp [projectsOf, listMembers?, Checked.issue, SpellsProjects]

/-! ## The configuration as a whole -/

/-- **Validation succeeds with the configuration that the entries spell.** -/
theorem ofEntries_eq_ok_iff {entries : List (Value × Value)}
    (hplain : (Value.map entries).isPlain = true) {config : UserConfig} :
    UserConfig.ofEntries entries = .ok config ↔ Spells entries config := by
  obtain ⟨settings, projects⟩ := config
  have hsettings : field entries "settings" (.ok none) (optional settingsOf) = .ok settings
      ↔ SpellsOptional SpellsSettings (Value.lookup? entries "settings") settings :=
    optionalField_eq_ok_iff (by simp [SpellsSettings, Settings.toValue])
      fun _ hfound _ => settingsOf_eq_ok_iff (Value.isPlain_of_lookup? hplain hfound)
  have hprojects : field entries "projects" (.ok none) (optional projectsOf) = .ok projects
      ↔ SpellsOptional SpellsProjects (Value.lookup? entries "projects") projects :=
    optionalField_eq_ok_iff (by simp [SpellsProjects])
      fun _ hfound _ => projectsOf_eq_ok_iff (Value.isPlain_of_lookup? hplain hfound)
  simp only [UserConfig.ofEntries, map_eq_ok_iff, Prod.exists, Checked.both_eq_ok_iff,
    UserConfig.mk.injEq]
  constructor
  · rintro ⟨_, _, ⟨hs, hp⟩, rfl, rfl⟩
    exact ⟨hsettings.mp hs, hprojects.mp hp⟩
  · rintro ⟨hs, hp⟩
    exact ⟨settings, projects, ⟨hsettings.mpr hs, hprojects.mpr hp⟩, rfl, rfl⟩

/-- A mapping is validated by its entries. -/
theorem ofValue_map (entries : List (Value × Value)) :
    UserConfig.ofValue (.map entries) = UserConfig.ofMapping entries := by
  cases entries <;> rfl

theorem ofMapping_eq_ok_iff {entries : List (Value × Value)} {config : UserConfig} :
    UserConfig.ofMapping entries = .ok config ↔ UserConfig.ofEntries entries = .ok config := by
  unfold UserConfig.ofMapping
  split
  · next h => simp [h]
  · next h => simp [h]

theorem ofMapping_eq_error {entries : List (Value × Value)} {e : Error}
    (h : UserConfig.ofMapping entries = .error e) : ∃ issues, e = .invalidConfig issues := by
  unfold UserConfig.ofMapping at h
  split at h
  · simp at h
  · next issues _ =>
    cases h
    exact ⟨issues, rfl⟩

/-- **Validation accepts exactly the documented shape and changes nothing that
it accepts.** A mapping of plain values is accepted if and only if it is
documented, and then as the configuration that it spells: the settings are the
same pairs in the same order, with values of the same kinds, and the projects
the same entries in the same order with the same fields. Otherwise the issues
are reported as an invalid configuration. Entries under other keys make no
difference to either outcome. -/
theorem ofValue_map_iff_documented {entries : List (Value × Value)}
    (hplain : (Value.map entries).isPlain = true) :
    ((∃ config, UserConfig.ofValue (.map entries) = .ok config) ↔ Documented entries)
      ∧ (∀ config, UserConfig.ofValue (.map entries) = .ok config ↔ Spells entries config)
      ∧ (¬Documented entries →
          ∃ issues, UserConfig.ofValue (.map entries) = .error (.invalidConfig issues))
      ∧ ∀ others, Value.lookup? others "settings" = Value.lookup? entries "settings" →
          Value.lookup? others "projects" = Value.lookup? entries "projects" →
          UserConfig.ofValue (.map others) = UserConfig.ofValue (.map entries) := by
  have hok : ∀ config, UserConfig.ofValue (.map entries) = .ok config ↔ Spells entries config := by
    intro config
    rw [ofValue_map, ofMapping_eq_ok_iff, ofEntries_eq_ok_iff hplain]
  have haccepted : (∃ config, UserConfig.ofValue (.map entries) = .ok config)
      ↔ Documented entries := by
    simp only [hok]
    exact exists_spells_iff
  refine ⟨haccepted, hok, fun hbad => ?_, fun others hsettings hprojects => ?_⟩
  · rw [ofValue_map, UserConfig.ofMapping]
    cases hentries : UserConfig.ofEntries entries with
    | ok config =>
      refine absurd (haccepted.mp ⟨config, ?_⟩) hbad
      rw [ofValue_map, ofMapping_eq_ok_iff, hentries]
    | error issues => exact ⟨issues, rfl⟩
  · simp only [ofValue_map, UserConfig.ofMapping, UserConfig.ofEntries, field, hsettings,
      hprojects]

/-- Settings of all four kinds, a path, a record whose override is null, and
entries of which nothing is said. -/
def assortedEntries : List (Value × Value) :=
  [(.int 1, .list [.null]),
    (.str "settings", .map [(.str "t", .bool true), (.str "i", .int 1), (.str "x", .float 1),
      (.str "s", .str "")]),
    (.str "projects", .list [.str " a", .map [(.str "tsconfig", .null), (.str "root", .str "b"),
      (.str "note", .map [(.null, .list [])]), (.str "package", .str "")]])]

/-- What the assorted entries spell. -/
def assortedConfig : UserConfig where
  settings := some [("t", .bool true), ("i", .int 1), ("x", .float 1), ("s", .str "")]
  projects := some [.path " a", .record ⟨"b", some "", none⟩]

theorem ofValue_assortedEntries :
    (Value.map assortedEntries).isPlain = true
      ∧ Documented assortedEntries
      ∧ UserConfig.ofValue (.map assortedEntries) = .ok assortedConfig := by
  have hplain : (Value.map assortedEntries).isPlain = true := by decide
  have hspells : Spells assortedEntries assortedConfig := by
    refine ⟨.given rfl, .given ⟨_, rfl, ?_⟩⟩
    exact .cons (.path rfl) (.cons (.record rfl rfl (.given rfl) .null) .nil)
  obtain ⟨haccepted, hok, -⟩ := ofValue_map_iff_documented hplain
  have hvalue := (hok assortedConfig).mpr hspells
  exact ⟨hplain, haccepted.mp ⟨_, hvalue⟩, hvalue⟩

end Workspace
