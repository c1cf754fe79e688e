/-
Workspace.Proofs.ReportedIssues — a rejected configuration is reported with
every entry at fault, and with no other.

A validation goes through all entries and puts the issues of each behind those of
the entry before (`Checked.issues_all`). `ReportsEach` says so of a list of
issues: they are the issues of the members one after the other, a member has
issues if and only if it is at fault, and all of them are located at its place.
The settings are reported this way, and so are the projects
(`reportsEach_settings`, `reportsEach_projects`); only when every project is
well-formed by itself it is looked for blank paths, which are one issue together.
`reported_ofValue` puts both parts side by side.

A location names a setting by its key. A surrogate in a key is shown as three
replacement characters there, so such a key is not found in any location
(`not_located_surrogateKey`), and different keys may look alike.
-/
import Mathlib.Data.List.Infix
import Workspace.Proofs.DocumentedShape

namespace Workspace

/-! ## Issues of combined checks -/

namespace Issue

/-- The issue lies at a place or below it. -/
def IsAt (place : List Step) (i : Issue) : Prop :=
  place <+: i.location

theorem isAt_of_mem_within {step : Step} {place : List Step} {issues : List Issue}
    (h : ∀ i ∈ issues, i.IsAt place) : ∀ i ∈ within step issues, i.IsAt (step :: place) := by
  intro i hi
  obtain ⟨j, hj, rfl⟩ := List.mem_map.mp hi
  exact (List.prefix_cons_inj step).mpr (h j hj)

theorem within_eq_nil_iff {step : Step} {issues : List Issue} :
    within step issues = [] ↔ issues = [] :=
  List.map_eq_nil_iff

end Issue

namespace Checked

variable {α β : Type}

theorem issues_map (f : α → β) (c : Checked α) : issues (c.map f) = c.issues := by
  cases c <;> rfl

theorem issues_under (step : Step) (c : Checked α) :
    (under step c).issues = Issue.within step c.issues := by
  cases c <;> rfl

theorem issues_both (c : Checked α) (d : Checked β) :
    (both c d).issues = c.issues ++ d.issues := by
  cases c <;> cases d <;> simp [both, issues]

/-- **Issues are collected in order.** -/
theorem issues_all : ∀ cs : List (Checked α), (all cs).issues = cs.flatMap issues
  | [] => rfl
  | c :: cs => by
    have hboth : (all (c :: cs)).issues = (both c (all cs)).issues := by
      rw [all]
      cases both c (all cs) <;> rfl
    rw [hboth, issues_both, issues_all cs, List.flatMap_cons]

/-- The check fails only with issues. -/
def IsTelling (c : Checked α) : Prop :=
  c.issues = [] → ∃ a, c = .ok a

/-- A list of checks without issues succeeds. -/
theorem exists_all_eq_ok : ∀ {cs : List (Checked α)}, (∀ c ∈ cs, c.IsTelling) →
    (all cs).issues = [] → ∃ as, all cs = .ok as
  | [], _, _ => ⟨[], rfl⟩
  | c :: cs, h, hnone => by
    rw [issues_all, List.flatMap_cons, List.append_eq_nil_iff, ← issues_all] at hnone
    obtain ⟨a, rfl⟩ := h c (by simp) hnone.1
    obtain ⟨as, has⟩ := exists_all_eq_ok (fun d hd => h d (by simp [hd])) hnone.2
    exact ⟨a :: as, all_cons_eq_ok_iff.mpr ⟨a, as, rfl, has, rfl⟩⟩

end Checked

/-- The members of a list, each under its index. -/
theorem flatMap_issues_indexed {α : Type} (check : Value → Checked α) :
    ∀ (vs : List Value) (first : Nat), (indexed check first vs).flatMap Checked.issues
      = (vs.zipIdx first).flatMap fun p => Issue.within (.index p.2) (check p.1).issues
  | [], _ => rfl
  | v :: vs, first => by
    rw [indexed, List.zipIdx_cons, List.flatMap_cons, List.flatMap_cons, Checked.issues_under,
      flatMap_issues_indexed check vs (first + 1)]

/-! ## Issues of the members of a list -/

/-- The issues are those of the members one after the other. A member has some if
and only if it is at fault, and they are all located at its place. -/
def ReportsEach {α : Type} (members : List α) (place : α → List Step) (atFault : α → Prop)
    (issues : List Issue) : Prop :=
  ∃ issuesOf : α → List Issue, issues = members.flatMap issuesOf
    ∧ ∀ a ∈ members, (issuesOf a ≠ [] ↔ atFault a) ∧ ∀ i ∈ issuesOf a, i.IsAt (place a)

section

variable {α : Type} {members : List α} {place : α → List Step} {atFault : α → Prop}
  {issues : List Issue}

/-- Something is reported at the place of a member if and only if a member with
this place is at fault. Places are told apart by their length. -/
theorem ReportsEach.exists_isAt_iff (h : ReportsEach members place atFault issues)
    (hlength : ∀ a ∈ members, ∀ b ∈ members, (place a).length = (place b).length) {a : α}
    (ha : a ∈ members) :
    (∃ i ∈ issues, i.IsAt (place a)) ↔ ∃ b ∈ members, place b = place a ∧ atFault b := by
  obtain ⟨issuesOf, rfl, hof⟩ := h
  constructor
  · rintro ⟨i, hi, hat⟩
    obtain ⟨b, hb, hib⟩ := List.mem_flatMap.mp hi
    obtain ⟨hfault, hplace⟩ := hof b hb
    refine ⟨b, hb, ?_, hfault.mp (List.ne_nil_of_mem hib)⟩
    exact (List.prefix_of_prefix_length_le (hplace i hib) hat (hlength b hb a ha).le).eq_of_length
      (hlength b hb a ha)
  · rintro ⟨b, hb, hplace, hfault⟩
    obtain ⟨hsome, hat⟩ := hof b hb
    obtain ⟨i, hi⟩ := List.exists_mem_of_ne_nil _ (hsome.mpr hfault)
    exact ⟨i, List.mem_flatMap.mpr ⟨b, hb, hi⟩, hplace ▸ hat i hi⟩

theorem ReportsEach.isAt (h : ReportsEach members place atFault issues) {step : Step}
    (hstep : ∀ a ∈ members, (place a).head? = some step) : ∀ i ∈ issues, i.IsAt [step] := by
  obtain ⟨issuesOf, rfl, hof⟩ := h
  intro i hi
  obtain ⟨a, ha, hia⟩ := List.mem_flatMap.mp hi
  obtain ⟨rest, hrest⟩ := List.head?_eq_some_iff.mp (hstep a ha)
  have hat := (hof a ha).2 i hia
  rw [hrest] at hat
  exact (List.prefix_append [step] rest).trans hat

end

/-! ## Settings -/

theorem issues_settingOf_ne_nil_iff {v : Value} :
    (settingOf v).issues ≠ [] ↔ ¬IsSettingValue v := by
  cases v <;> simp [settingOf, Checked.issues, settingIssues, IsSettingValue]

/-- **Every setting with a value of no such kind is reported**, under its key. -/
theorem reportsEach_settings {settings : List (Value × Value)}
    (hkeys : ∀ e ∈ settings, IsText e.1) :
    ReportsEach settings (fun e => [.name "settings", e.1.step]) (fun e => ¬IsSettingValue e.2)
      (Issue.within (.name "settings") (settingsOf (.map settings)).issues) := by
  refine ⟨fun e => Issue.within (.name "settings") (settingEntry e).issues, ?_, ?_⟩
  · rw [settingsOf, Checked.issues_map, Checked.issues_all, List.flatMap_map, Issue.within,
      List.map_flatMap]
    rfl
  · rintro ⟨k, v⟩ he
    obtain ⟨key, rfl⟩ := (exists_spellsText_iff k).mpr (hkeys _ he)
    have hentry : (settingEntry (.str key, v)).issues
        = Issue.within (Value.str key).step (settingOf v).issues := by
      rw [settingEntry, Checked.issues_under, Checked.issues_both]
      rfl
    dsimp only
    rw [hentry]
    refine ⟨?_, Issue.isAt_of_mem_within (Issue.isAt_of_mem_within fun i _ => List.nil_prefix)⟩
    rw [← issues_settingOf_ne_nil_iff, ne_eq, ne_eq, Issue.within_eq_nil_iff,
      Issue.within_eq_nil_iff]

/-! ## Projects -/

/-- A text, blank or not, or a record of the documented shape. -/
def IsPathOrRecord (v : Value) : Prop :=
  IsText v ∨ IsDeclaration v

def IsBlankText : Value → Prop
  | .str s => Text.isBlank s = true
  | _ => False

theorem isBlankPath_iff {v : Value} {d : Declaration} (h : declarationOf v = .ok d) :
    d.isBlankPath = true ↔ IsBlankText v := by
  unfold declarationOf at h
  cases v with
  | str s =>
    obtain rfl := Except.ok.inj h
    exact Iff.rfl
  | null | bool | int | float | bytes | date | moment | list | set | map =>
    simp only [strictText, Checked.issue] at h
    split at h
    · obtain rfl := Except.ok.inj h
      simp [Declaration.isBlankPath, IsBlankText]
    · cases h

theorem exists_declarationOf_iff {v : Value} :
    (∃ d, declarationOf v = .ok d) ↔ IsPathOrRecord v := by
  cases v with
  | str s => exact ⟨fun _ => Or.inl trivial, fun _ => ⟨.path s, rfl⟩⟩
  | map entries =>
    constructor
    · rintro ⟨d, hd⟩
      have hpath : d.isBlankPath = false := Bool.eq_false_iff.mpr (isBlankPath_iff hd).mp
      exact Or.inr ((exists_spellsDeclaration_iff _).mp ⟨d, declarationOf_eq_ok_iff.mp ⟨hd, hpath⟩⟩)
    · rintro (htext | hrecord)
      · exact absurd htext id
      · obtain ⟨d, hd⟩ := (exists_spellsDeclaration_iff _).mpr hrecord
        exact ⟨d, (declarationOf_eq_ok_iff.mpr hd).1⟩
  | null | bool | int | float | bytes | date | moment | list | set =>
    simp [declarationOf, strictText, recordOfValue, Checked.issue, IsPathOrRecord, IsText,
      IsDeclaration]

theorem isTelling_declarationOf (v : Value) : (declarationOf v).IsTelling := by
  intro h
  unfold declarationOf at h ⊢
  cases htext : strictText v with
  | ok s => exact ⟨.path s, rfl⟩
  | error textIssues =>
    cases hrecord : recordOfValue v with
    | ok r => exact ⟨.record r, rfl⟩
    | error recordIssues =>
      -- what is no text has an issue as a text
      cases v <;> simp [strictText, Checked.issue] at htext <;>
        simp [strictText, Checked.issue, hrecord, Checked.issues, Issue.within] at h

theorem issues_declarationOf_ne_nil_iff {v : Value} :
    (declarationOf v).issues ≠ [] ↔ ¬IsPathOrRecord v := by
  rw [← exists_declarationOf_iff, not_iff_not]
  refine ⟨isTelling_declarationOf v, ?_⟩
  rintro ⟨d, hd⟩
  rw [hd]
  rfl

/-- The issues of the entries of a project list, before it is looked for blank
paths. -/
theorem reportsEach_projects (projects : List Value) :
    ReportsEach projects.zipIdx (fun p => [.name "projects", .index p.2])
      (fun p => ¬IsPathOrRecord p.1)
      (Issue.within (.name "projects")
        (Checked.all (indexed declarationOf 0 projects)).issues) := by
  refine ⟨fun p => Issue.within (.name "projects")
    (Issue.within (.index p.2) (declarationOf p.1).issues), ?_, ?_⟩
  · rw [Checked.issues_all, flatMap_issues_indexed, Issue.within, List.map_flatMap]
    rfl
  · rintro ⟨v, n⟩ -
    dsimp only
    refine ⟨?_, Issue.isAt_of_mem_within (Issue.isAt_of_mem_within fun i _ => List.nil_prefix)⟩
    rw [← issues_declarationOf_ne_nil_iff, ne_eq, ne_eq, Issue.within_eq_nil_iff,
      Issue.within_eq_nil_iff]

theorem issues_projectsOf_of_fault {projects : List Value}
    (h : ∃ v ∈ projects, ¬IsPathOrRecord v) :
    (projectsOf (.list projects)).issues
      = (Checked.all (indexed declarationOf 0 projects)).issues := by
  simp only [projectsOf, listMembers?]
  cases hall : Checked.all (indexed declarationOf 0 projects) with
  | error issues => rfl
  | ok ds =>
    obtain ⟨v, hv, hfault⟩ := h
    obtain ⟨d, hd⟩ := exists_forall₂_iff.mp ⟨ds, all_indexed_eq_ok_iff.mp hall⟩ v hv
    exact absurd (exists_declarationOf_iff.mp ⟨d, hd⟩) hfault

theorem any_isBlankPath_iff {vs : List Value} {ds : List Declaration}
    (h : List.Forall₂ (fun v d => declarationOf v = .ok d) vs ds) :
    ds.any Declaration.isBlankPath = true ↔ ∃ v ∈ vs, IsBlankText v := by
  induction h with
  | nil => simp
  | cons hd _ ih =>
    simp only [List.any_cons, Bool.or_eq_true, isBlankPath_iff hd, ih, List.mem_cons,
      exists_eq_or_imp]

/-- Entries that are well-formed one by one have one issue together if a path
among them is blank, and otherwise none. -/
theorem issues_projectsOf_of_forall {projects : List Value}
    (h : ∀ v ∈ projects, IsPathOrRecord v) :
    ((∃ v ∈ projects, IsBlankText v) → (projectsOf (.list projects)).issues
        = [⟨[], .rule "project path must not be empty"⟩])
      ∧ ((∀ v ∈ projects, ¬IsBlankText v) → (projectsOf (.list projects)).issues = []) := by
  have hall : ∀ v ∈ projects, ∃ d, declarationOf v = .ok d :=
    fun v hv => exists_declarationOf_iff.mpr (h v hv)
  obtain ⟨ds, hds⟩ := exists_forall₂_iff.mpr hall
  have hany := any_isBlankPath_iff hds
  simp only [projectsOf, listMembers?, all_indexed_eq_ok_iff.mpr hds]
  constructor
  · intro hblank
    rw [if_pos (hany.mpr hblank)]
    rfl
  · intro hfilled
    rw [if_neg fun hblank => not_exists.mpr (fun v hv => hfilled v hv.1 hv.2) (hany.mp hblank)]
    rfl

/-- What is reported about a list of projects: the entries at fault, or else the
blank paths among them as one issue. -/
structure ReportsProjects (projects : List Value) (issues : List Issue) : Prop where
  faults : (∃ v ∈ projects, ¬IsPathOrRecord v) →
    ReportsEach projects.zipIdx (fun p => [.name "projects", .index p.2])
      (fun p => ¬IsPathOrRecord p.1) issues
  blanks : (∀ v ∈ projects, IsPathOrRecord v) → (∃ v ∈ projects, IsBlankText v) →
    issues = [⟨[.name "projects"], .rule "project path must not be empty"⟩]
  nothing : (∀ v ∈ projects, IsPathOrRecord v) → (∀ v ∈ projects, ¬IsBlankText v) → issues = []

theorem reportsProjects_projectsOf (projects : List Value) :
    ReportsProjects projects
      (Issue.within (.name "projects") (projectsOf (.list projects)).issues) where
  faults h := by
    rw [issues_projectsOf_of_fault h]
    exact reportsEach_projects projects
  blanks h hblank := by
    rw [(issues_projectsOf_of_forall h).1 hblank]
    rfl
  nothing h hfilled := by
    rw [(issues_projectsOf_of_forall h).2 hfilled]
    rfl

/-- An index is reported if and only if the entry there is at fault. -/
theorem ReportsProjects.exists_isAt_iff {projects : List Value} {issues : List Issue}
    (h : ReportsProjects projects issues) {n : Nat} {v : Value} (hn : projects[n]? = some v) :
    (∃ i ∈ issues, i.IsAt [.name "projects", .index n]) ↔ ¬IsPathOrRecord v := by
  by_cases hall : ∀ v ∈ projects, IsPathOrRecord v
  · refine iff_of_false ?_ (not_not.mpr (hall v (List.mem_of_getElem? hn)))
    rintro ⟨i, hi, hat⟩
    by_cases hblank : ∃ v ∈ projects, IsBlankText v
    · rw [h.blanks hall hblank, List.mem_singleton] at hi
      subst hi
      exact absurd hat.length_le (by simp)
    · rw [h.nothing hall fun v hv hb => hblank ⟨v, hv, hb⟩] at hi
      simp at hi
  · have hplace : (v, n) ∈ projects.zipIdx := List.mk_mem_zipIdx_iff_getElem?.mpr hn
    have heach := h.faults (by simpa using hall)
    rw [heach.exists_isAt_iff (fun _ _ _ _ => rfl) hplace]
    constructor
    · rintro ⟨⟨v', n'⟩, hmem, hsame, hfault⟩
      obtain rfl : n' = n := by
        simpa only [List.cons.injEq, Step.index.injEq, Int.natCast_inj, true_and, and_true]
          using hsame
      have hv' := List.mk_mem_zipIdx_iff_getElem?.mp hmem
      rw [hn] at hv'
      rwa [Option.some.inj hv']
    · exact fun hfault => ⟨_, hplace, rfl, hfault⟩

/-! ## The configuration as a whole -/

/-- The settings that a configuration gives: a mapping under texts, each of them
once. -/
inductive GivesSettings : Option Value → List (Value × Value) → Prop
  | absent : GivesSettings none []
  | null : GivesSettings (some .null) []
  | given {settings : List (Value × Value)} (texts : ∀ e ∈ settings, IsText e.1)
      (once : (Value.textKeys settings).Nodup) : GivesSettings (some (.map settings)) settings

theorem GivesSettings.nodup {found : Option Value} {settings : List (Value × Value)}
    (h : GivesSettings found settings) : (Value.textKeys settings).Nodup := by
  cases h with
  | absent => exact List.nodup_nil
  | null => exact List.nodup_nil
  | given _ once => exact once

/-- The projects that a configuration lists. -/
inductive ListsProjects : Option Value → List Value → Prop
  | absent : ListsProjects none []
  | null : ListsProjects (some .null) []
  | given (projects : List Value) : ListsProjects (some (.list projects)) projects

section

variable {entries settings : List (Value × Value)} {projects : List Value}

theorem reportsEach_settingsField (h : GivesSettings (Value.lookup? entries "settings") settings) :
    ReportsEach settings (fun e => [.name "settings", e.1.step]) (fun e => ¬IsSettingValue e.2)
      (field entries "settings" (.ok none) (optional settingsOf)).issues := by
  rw [field, Checked.issues_under]
  generalize Value.lookup? entries "settings" = found at h
  cases h with
  | absent => exact ⟨fun _ => [], rfl, by simp⟩
  | null => exact ⟨fun _ => [], rfl, by simp⟩
  | given htexts =>
    simp only [optional, Checked.issues_map]
    exact reportsEach_settings htexts

theorem issues_projectsField (h : ListsProjects (Value.lookup? entries "projects") projects) :
    (field entries "projects" (.ok none) (optional projectsOf)).issues
      = Issue.within (.name "projects") (projectsOf (.list projects)).issues := by
  rw [field, Checked.issues_under]
  generalize Value.lookup? entries "projects" = found at h
  cases h with
  | absent => rfl
  | null => rfl
  | given => simp only [optional, Checked.issues_map]

theorem issues_ofEntries (entries : List (Value × Value)) :
    (UserConfig.ofEntries entries).issues
      = (field entries "settings" (.ok none) (optional settingsOf)).issues
        ++ (field entries "projects" (.ok none) (optional projectsOf)).issues := by
  rw [UserConfig.ofEntries, Checked.issues_map, Checked.issues_both]

/-- A rejected mapping is reported with the issues of its entries. -/
theorem ofValue_map_eq_error {e : Error} (h : UserConfig.ofValue (.map entries) = .error e) :
    e = .invalidConfig (UserConfig.ofEntries entries).issues := by
  rw [ofValue_map, UserConfig.ofMapping] at h
  split at h
  · cases h
  · next issues hissues =>
    rw [← Except.error.inj h, hissues]
    rfl

/-- A string has no surrogates to replace. -/
theorem withReplacements_ofString (name : String) (count : Nat) :
    (Text.ofString name).withReplacements count = name := by
  rw [Text.withReplacements, Text.ofString, List.flatMap_map]
  simp

theorem mem_textKeys {key : Text} {v : Value} :
    ∀ {settings : List (Value × Value)}, (.str key, v) ∈ settings → key ∈ Value.textKeys settings
  | (k, u) :: rest, h => by
    rcases List.mem_cons.mp h with heq | h
    · obtain ⟨rfl, -⟩ := Prod.mk.inj heq
      simp [Value.textKeys]
    · have hrest := mem_textKeys h
      cases k <;> simp [Value.textKeys, hrest]

/-- Entries under texts, each once, hold one value under a key. -/
theorem eq_of_mem_of_nodup {key : Text} {v v' : Value} :
    ∀ {settings : List (Value × Value)}, (Value.textKeys settings).Nodup →
      (.str key, v) ∈ settings → (.str key, v') ∈ settings → v = v'
  | (k, u) :: rest, hnodup, h, h' => by
    rcases List.mem_cons.mp h with heq | hv <;> rcases List.mem_cons.mp h' with heq' | hv'
    · rw [(Prod.mk.inj heq).2, (Prod.mk.inj heq').2]
    · obtain ⟨rfl, -⟩ := Prod.mk.inj heq
      exact absurd (mem_textKeys hv') (List.nodup_cons.mp hnodup).1
    · obtain ⟨rfl, -⟩ := Prod.mk.inj heq'
      exact absurd (mem_textKeys hv) (List.nodup_cons.mp hnodup).1
    · refine eq_of_mem_of_nodup ?_ hv hv'
      cases k with
      | str s => exact (List.nodup_cons.mp hnodup).2
      | null | bool | int | float | bytes | date | moment | list | set | map => exact hnodup

/-- Nothing that lies at one step lies at another one. -/
theorem not_isAt_of_ne {step other : Step} {place : List Step} (h : step ≠ other) {i : Issue}
    (hi : i.IsAt [step]) : ¬i.IsAt (other :: place) := by
  obtain ⟨rest, hrest⟩ := hi
  rintro ⟨rest', hrest'⟩
  rw [← hrest] at hrest'
  exact h (List.cons.inj hrest').1.symm

/-- A place of one part of the issues is looked for in that part only. -/
theorem exists_isAt_append_iff {before behind : List Issue} {place : List Step} :
    ((∀ i ∈ behind, ¬i.IsAt place) →
        ((∃ i ∈ before ++ behind, i.IsAt place) ↔ ∃ i ∈ before, i.IsAt place))
      ∧ ((∀ i ∈ before, ¬i.IsAt place) →
        ((∃ i ∈ before ++ behind, i.IsAt place) ↔ ∃ i ∈ behind, i.IsAt place)) := by
  have hsplit : (∃ i ∈ before ++ behind, i.IsAt place)
      ↔ (∃ i ∈ before, i.IsAt place) ∨ ∃ i ∈ behind, i.IsAt place := by
    simp only [List.mem_append, or_and_right, exists_or]
  rw [hsplit]
  exact ⟨fun h => or_iff_left fun ⟨i, hi, hat⟩ => h i hi hat,
    fun h => or_iff_right fun ⟨i, hi, hat⟩ => h i hi hat⟩

/-- Settings whose keys hold no surrogates are reported at their keys. -/
theorem exists_isAt_key_iff {issues : List Issue}
    (hsettings : GivesSettings (Value.lookup? entries "settings") settings)
    (hkeys : ∀ e ∈ settings, ((∃ i ∈ issues, i.IsAt [.name "settings", e.1.step])
      ↔ ∃ e' ∈ settings, e'.1.step = e.1.step ∧ ¬IsSettingValue e'.2))
    (hnames : ∀ e ∈ settings, ∃ name : String, e.1 = .str name) {name : String} {v : Value}
    (hv : (.str name, v) ∈ settings) :
    (∃ i ∈ issues, i.IsAt [.name "settings", .name name]) ↔ ¬IsSettingValue v := by
  have hstep : ∀ name : String, (Value.str name).step = .name name := fun name => by
    rw [Value.step, withReplacements_ofString]
  rw [← hstep name, hkeys _ hv]
  constructor
  · rintro ⟨⟨k, v'⟩, he', hsame, hfault⟩
    obtain ⟨name', rfl⟩ := hnames _ he'
    rw [hstep, hstep, Step.name.injEq] at hsame
    subst hsame
    rwa [eq_of_mem_of_nodup hsettings.nodup hv he']
  · exact fun hfault => ⟨_, hv, rfl, hfault⟩

/-- **A rejected configuration is reported with every entry at fault and with no
other.** The issues of the settings come before those of the projects, each in
the order of the entries. A setting is reported, at its key as locations show it,
if and only if its value or that of a key that looks the same is of no kind that
a setting may have; a key without surrogates is shown as it is. A project is
reported, at its index, if and only if it is neither a text nor a record of the
documented shape. If all projects are, and some of them are blank, there is one
issue about the list as a whole. The message begins with the number of all
issues. -/
theorem reported_ofValue (hsettings : GivesSettings (Value.lookup? entries "settings") settings)
    (hprojects : ListsProjects (Value.lookup? entries "projects") projects) {e : Error}
    (h : UserConfig.ofValue (.map entries) = .error e) :
    ∃ ofSettings ofProjects issues : List Issue,
      e = .invalidConfig issues
        ∧ issues = ofSettings ++ ofProjects
        ∧ e.message = Text.ofString "Invalid CoffeeSense configuration: "
            ++ Text.ofString (String.ofList (Decimal.natDigits issues.length)
              ++ (if issues.length = 1 then " validation error for " else " validation errors for ")
              ++ "CoffeeSenseConfig")
        ∧ ReportsEach settings (fun e => [.name "settings", e.1.step])
            (fun e => ¬IsSettingValue e.2) ofSettings
        ∧ ReportsProjects projects ofProjects
        ∧ (∀ e ∈ settings, ((∃ i ∈ issues, i.IsAt [.name "settings", e.1.step])
            ↔ ∃ e' ∈ settings, e'.1.step = e.1.step ∧ ¬IsSettingValue e'.2))
        ∧ ((∀ e ∈ settings, ∃ name : String, e.1 = .str name) →
            ∀ (name : String) (v : Value), (.str name, v) ∈ settings →
              ((∃ i ∈ issues, i.IsAt [.name "settings", .name name]) ↔ ¬IsSettingValue v))
        ∧ ∀ (n : Nat) (v : Value), projects[n]? = some v →
            ((∃ i ∈ issues, i.IsAt [.name "projects", .index n]) ↔ ¬IsPathOrRecord v) := by
  obtain rfl := ofValue_map_eq_error h
  have heach := reportsEach_settingsField hsettings
  have hlist := reportsProjects_projectsOf projects
  have hbelow : ∀ i ∈ Issue.within (.name "projects") (projectsOf (.list projects)).issues,
      i.IsAt [.name "projects"] :=
    Issue.isAt_of_mem_within fun i _ => List.nil_prefix
  rw [← issues_projectsField hprojects] at hlist hbelow
  rw [issues_ofEntries]
  have hkeys : ∀ e ∈ settings, ((∃ i ∈ (field entries "settings" (.ok none)
        (optional settingsOf)).issues ++ (field entries "projects" (.ok none)
          (optional projectsOf)).issues, i.IsAt [.name "settings", e.1.step])
      ↔ ∃ e' ∈ settings, e'.1.step = e.1.step ∧ ¬IsSettingValue e'.2) := by
    intro e he
    rw [exists_isAt_append_iff.1 fun i hi => not_isAt_of_ne (by decide) (hbelow i hi),
      heach.exists_isAt_iff (fun _ _ _ _ => rfl) he]
    simp only [List.cons.injEq, true_and, and_true]
  refine ⟨_, _, _, rfl, rfl, rfl, heach, hlist, hkeys,
    fun hnames name v hv => exists_isAt_key_iff hsettings hkeys hnames hv, fun n v hn => ?_⟩
  rw [exists_isAt_append_iff.2 fun i hi =>
    not_isAt_of_ne (by decide) (heach.isAt (fun _ _ => rfl) i hi)]
  exact hlist.exists_isAt_iff hn

end

/-- Settings of which every other one is at fault. -/
def faultySettings : List (Value × Value) :=
  [(.str "t", .bool true), (.str "n", .null), (.str "s", .str ""), (.str "l", .list [.int 1])]

/-- Projects of which every other one is at fault. -/
def faultyProjects : List Value :=
  [.str "", .int 3, .map [(.str "root", .str "a")],
    .map [(.str "root", .str " "), (.str "tsconfig", .int 1)], .str "b", .null]

def faultyEntries : List (Value × Value) :=
  [(.str "projects", .list faultyProjects), (.str "settings", .map faultySettings)]

/-- The second setting and the fourth project are reported, but neither the empty
text among the settings nor the blank path among the projects. -/
theorem reported_ofValue_faultyEntries :
    ∃ issues, UserConfig.ofValue (.map faultyEntries) = .error (.invalidConfig issues)
      ∧ issues.length = 15
      ∧ (∃ i ∈ issues, i.IsAt [.name "settings", .name "n"])
      ∧ ¬(∃ i ∈ issues, i.IsAt [.name "settings", .name "s"])
      ∧ (∃ i ∈ issues, i.IsAt [.name "projects", .index 3])
      ∧ ¬(∃ i ∈ issues, i.IsAt [.name "projects", .index 0]) := by
  have hrejected : UserConfig.ofValue (.map faultyEntries)
      = .error (.invalidConfig (UserConfig.ofEntries faultyEntries).issues) := rfl
  have hkeys : ∀ e ∈ faultySettings, ∃ name : String, e.1 = .str name := by
    intro e he
    simp only [faultySettings, List.mem_cons, List.not_mem_nil, or_false] at he
    rcases he with rfl | rfl | rfl | rfl <;> exact ⟨_, rfl⟩
  have htexts : ∀ e ∈ faultySettings, IsText e.1 := by
    intro e he
    obtain ⟨name, hname⟩ := hkeys e he
    rw [hname]
    trivial
  have hsettings : GivesSettings (Value.lookup? faultyEntries "settings") faultySettings :=
    .given htexts (by decide)
  have hprojects : ListsProjects (Value.lookup? faultyEntries "projects") faultyProjects :=
    .given faultyProjects
  obtain ⟨_, _, issues, herror, -, -, -, -, -, hnames, hindices⟩ :=
    reported_ofValue hsettings hprojects hrejected
  obtain rfl := Error.invalidConfig.inj herror
  refine ⟨_, hrejected, by decide, (hnames hkeys "n" .null ?_).mpr id, ?_,
    (hindices 3 _ rfl).mpr ?_, ?_⟩
  · simp [faultySettings]
  · refine fun hat => (hnames hkeys "s" (.str "") ?_).mp hat trivial
    simp [faultySettings]
  · rintro (htext | ⟨⟨root, hroot, hfilled⟩, -⟩)
    · exact htext
    · obtain rfl := Option.some.inj hroot
      exact nomatch (show Text.isBlank " " = false from hfilled)
  · exact fun hat => (hindices 0 _ rfl).mp hat (Or.inl trivial)

/-- A setting of no allowed kind under a key that is half of a surrogate pair. -/
def surrogateKeyEntries : List (Value × Value) :=
  [(.str "settings", .map [(.str (.ofCodes [0xd800]), .null)])]

/-- The setting is at fault, but all that is reported lies at another key, and no
location can name this one. -/
theorem not_located_surrogateKey :
    ∃ issues, UserConfig.ofValue (.map surrogateKeyEntries) = .error (.invalidConfig issues)
      ∧ ¬IsSettingValue .null
      ∧ (∀ i ∈ issues, i.location.take 2 = [.name "settings", .name "\ufffd\ufffd\ufffd"])
      ∧ ¬∃ i ∈ issues, ∃ name : String, Text.ofString name = .ofCodes [0xd800]
          ∧ i.IsAt [.name "settings", .name name] := by
  refine ⟨_, rfl, id, by decide, ?_⟩
  rintro ⟨i, -, name, hname, -⟩
  have hchars : Text.toString? (Text.ofCodes [0xd800]) = some name :=
    Text.toString?_eq_some_iff.mpr hname.symm
  exact nomatch hchars

end Workspace
