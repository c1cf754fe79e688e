/-
Workspace.Proofs.WrittenConfig — a resolved configuration, written out, is a
configuration that validation accepts as it stands.

Settings are kept under distinct names (`nodup_names_of_ofValue`), so reading
the written pairs in order assigns each name once and gives the same list
back (`settingsOf_toValue`). A project is written with the fields that are
set and read as the declaration of all its fields
(`declarationOf_toValue`), provided its root is no blank text; a canonical
root starts with a slash. Together this is `ofValue_toValue`.
-/
import Workspace.Proofs.ResolvedProject

namespace Workspace

/-! ## Checks that all succeed -/

theorem Checked.all_map_ok {α : Type} : ∀ as : List α, Checked.all (as.map .ok) = .ok as
  | [] => rfl
  | a :: as => by
    rw [List.map_cons, Checked.all, Checked.all_map_ok as]
    rfl

/-- The members of a list are checked one by one. -/
theorem all_indexed_map {α β : Type} {check : Value → Checked β} {f : α → Value} {g : α → β} :
    ∀ (as : List α) (first : Nat), (∀ a ∈ as, check (f a) = .ok (g a)) →
      Checked.all (indexed check first (as.map f)) = .ok (as.map g)
  | [], _, _ => rfl
  | a :: as, first, h => by
    rw [List.map_cons, indexed, h a (by simp), Checked.all,
      all_indexed_map as (first + 1) fun b hb => h b (by simp [hb])]
    rfl

/-! ## Settings -/

theorem Settings.mem_names_insert {name x : Text} {value : Setting} :
    ∀ {settings : Settings},
      x ∈ (settings.insert name value).map Prod.fst ↔ x = name ∨ x ∈ settings.map Prod.fst
  | [] => by simp [Settings.insert]
  | (n, v) :: rest => by
    unfold Settings.insert
    split
    · next h => simp [h]
    · rw [List.map_cons, List.mem_cons, Settings.mem_names_insert, List.map_cons, List.mem_cons]
      exact or_left_comm

/-- Assigning a setting keeps the names distinct. -/
theorem Settings.nodup_names_insert {name : Text} {value : Setting} :
    ∀ {settings : Settings}, (settings.map Prod.fst).Nodup →
      ((settings.insert name value).map Prod.fst).Nodup
  | [], _ => by simp [Settings.insert]
  | (n, v) :: rest, h => by
    rw [List.map_cons, List.nodup_cons] at h
    unfold Settings.insert
    split
    · rw [List.map_cons, List.nodup_cons]
      exact h
    · next hne =>
      rw [List.map_cons, List.nodup_cons, Settings.mem_names_insert]
      refine ⟨?_, Settings.nodup_names_insert h.2⟩
      rintro (heq | hmem)
      · exact hne heq
      · exact h.1 hmem

theorem Settings.nodup_names_foldl :
    ∀ (pairs : List (Text × Setting)) {settings : Settings}, (settings.map Prod.fst).Nodup →
      ((pairs.foldl (fun s p => s.insert p.1 p.2) settings).map Prod.fst).Nodup
  | [], _, h => h
  | p :: pairs, _, h => by
    rw [List.foldl_cons]
    exact Settings.nodup_names_foldl pairs (Settings.nodup_names_insert h)

/-- A new name goes to the end. -/
theorem Settings.insert_of_not_mem {name : Text} {value : Setting} :
    ∀ {settings : Settings}, name ∉ settings.map Prod.fst →
      settings.insert name value = settings ++ [(name, value)]
  | [], _ => rfl
  | (n, v) :: rest, h => by
    rw [List.map_cons, List.mem_cons, not_or] at h
    rw [Settings.insert, if_neg (Ne.symm h.1), Settings.insert_of_not_mem h.2]
    rfl

theorem Settings.foldl_insert_of_nodup :
    ∀ (pairs : List (Text × Setting)) (settings : Settings),
      ((settings ++ pairs).map Prod.fst).Nodup →
      pairs.foldl (fun s p => s.insert p.1 p.2) settings = settings ++ pairs
  | [], settings, _ => by simp
  | (n, v) :: pairs, settings, h => by
    have hsplit : settings ++ (n, v) :: pairs = (settings ++ [(n, v)]) ++ pairs := by simp
    have hnew : n ∉ settings.map Prod.fst := by
      intro hmem
      rw [List.map_append, List.nodup_append] at h
      exact h.2.2 n hmem n (by simp) rfl
    rw [List.foldl_cons, Settings.insert_of_not_mem hnew, hsplit]
    exact Settings.foldl_insert_of_nodup pairs _ (hsplit ▸ h)

theorem Settings.ofPairs_of_nodup {settings : Settings} (h : (settings.map Prod.fst).Nodup) :
    Settings.ofPairs settings = settings :=
  Settings.foldl_insert_of_nodup settings [] h

/-- The setting that a value was written from is read off it. -/
theorem settingEntry_toValue (p : Text × Setting) :
    settingEntry (.str p.1, p.2.toValue) = .ok p := by
  obtain ⟨name, value⟩ := p
  cases value <;> rfl

/-- Written settings are read as they were. -/
theorem settingsOf_toValue {settings : Settings} (h : (settings.map Prod.fst).Nodup) :
    settingsOf settings.toValue = .ok settings := by
  have hentries : (settings.map fun p => ((.str p.1, p.2.toValue) : Value × Value)).map settingEntry
      = settings.map .ok := by
    rw [List.map_map]
    exact List.map_congr_left fun p _ => settingEntry_toValue p
  show (Checked.all (List.map settingEntry _)).map Settings.ofPairs = _
  rw [hentries, Checked.all_map_ok]
  exact congrArg Except.ok (Settings.ofPairs_of_nodup h)

/-- Settings that were read have distinct names. -/
theorem nodup_names_of_settingsOf {v : Value} {settings : Settings}
    (h : settingsOf v = .ok settings) : (settings.map Prod.fst).Nodup := by
  unfold settingsOf at h
  split at h
  · next entries =>
    cases hall : Checked.all (entries.map settingEntry) with
    | error issues => simp [hall, Except.map] at h
    | ok pairs =>
      simp only [hall, Except.map, Except.ok.injEq] at h
      rw [← h]
      exact Settings.nodup_names_foldl pairs (by simp)
  · simp [Checked.issue] at h

theorem optional_eq_some {α : Type} {check : Value → Checked α} {v : Value} {a : α}
    (h : optional check v = .ok (some a)) : check v = .ok a := by
  unfold optional at h
  split at h
  · simp at h
  · cases hc : check v with
    | error issues => simp [hc, Except.map] at h
    | ok b =>
      simp only [hc, Except.map, Except.ok.injEq, Option.some.injEq] at h
      rw [h]

/-- **An accepted configuration has settings with distinct names.** -/
theorem nodup_names_of_ofValue {v : Value} {config : UserConfig}
    (h : UserConfig.ofValue v = .ok config) : ((config.settings.getD []).map Prod.fst).Nodup := by
  unfold UserConfig.ofValue at h
  split at h
  · next entries _ =>
    unfold UserConfig.ofMapping at h
    split at h
    · next config' hentries =>
      rw [← Except.ok.inj h]
      unfold UserConfig.ofEntries at hentries
      cases hboth : Checked.both (field entries "settings" (.ok none) (optional settingsOf))
          (field entries "projects" (.ok none) (optional projectsOf)) with
      | error issues => simp [hboth, Except.map] at hentries
      | ok parts =>
        obtain ⟨settings, projects⟩ := parts
        simp only [hboth, Except.map, Except.ok.injEq] at hentries
        rw [← hentries]
        have hfield := (Checked.both_eq_ok_iff.mp hboth).1
        unfold field at hfield
        rw [Checked.under_eq_ok_iff] at hfield
        cases settings with
        | none => simp
        | some s =>
          split at hfield
          · simp at hfield
          · exact nodup_names_of_settingsOf (optional_eq_some hfield)
    · simp at h
  · simp at h

/-! ## Projects -/

/-- An absolute path is no blank text. -/
theorem isBlank_of_isAbsolutePath {t : Text} (h : IsAbsolutePath t) : Text.isBlank t = false := by
  have hslash : t.head? = some (.char '/') := by
    unfold IsAbsolutePath Path.isAbsolute Path.parse Anchor.ofText at h
    split at h <;> simp_all [Anchor.isAbsolute]
  cases t with
  | nil => simp at hslash
  | cons c cs =>
    have hc : c = .char '/' := by simpa using hslash
    subst hc
    rfl

/-- The entries of a written project. -/
def Project.entries (p : Project) : List (Value × Value) :=
  match p.toValue with
  | .map entries => entries
  | _ => []

theorem recordOf_entries {p : Project} (h : p.Canonical) :
    recordOf p.entries = .ok ⟨p.root, p.package, p.tsconfig⟩ := by
  obtain ⟨root, package, tsconfig⟩ := p
  have hroot : field (Project.entries ⟨root, package, tsconfig⟩) "root" (.issue .missing) rootText
      = .ok root := by
    have hblank : Text.isBlank root = false := isBlank_of_isAbsolutePath h.root.isAbsolute
    show Checked.under (.name "root") (if Text.isBlank root then _ else _) = _
    rw [hblank]
    rfl
  have hpackage : field (Project.entries ⟨root, package, tsconfig⟩) "package" (.ok none)
      (optional strictText) = .ok package := by
    cases package <;> cases tsconfig <;> rfl
  have htsconfig : field (Project.entries ⟨root, package, tsconfig⟩) "tsconfig" (.ok none)
      (optional strictText) = .ok tsconfig := by
    cases package <;> cases tsconfig <;> rfl
  rw [recordOf, hroot, hpackage, htsconfig]
  rfl

/-- **A written project is read as the declaration of all its fields.** -/
theorem declarationOf_toValue {p : Project} (h : p.Canonical) :
    declarationOf p.toValue = .ok p.toDeclaration := by
  have htext : strictText p.toValue = .issue .stringType := rfl
  have hrecord : recordOfValue p.toValue = recordOf p.entries := rfl
  simp only [declarationOf, htext, hrecord, recordOf_entries h, Checked.issue]
  rfl

theorem projectsOf_map_toValue {ps : List Project} (h : ∀ p ∈ ps, p.Canonical) :
    projectsOf (.list (ps.map Project.toValue)) = .ok (ps.map Project.toDeclaration) := by
  have hpaths : (ps.map Project.toDeclaration).any Declaration.isBlankPath = false := by
    simp [List.any_eq_false, Project.toDeclaration, Declaration.isBlankPath]
  have hall := all_indexed_map ps 0 fun p hp => declarationOf_toValue (h p hp)
  unfold projectsOf
  simp only [listMembers?, hall, hpaths]
  rfl

/-! ## The configuration as a whole -/

/-- The configuration that declares everything that was resolved. -/
def FullConfig.toUserConfig (c : FullConfig) : UserConfig :=
  ⟨some c.settings, some (c.projects.map Project.toDeclaration)⟩

theorem ofEntries_toValue {c : FullConfig} (hnames : (c.settings.map Prod.fst).Nodup)
    (hprojects : ∀ p ∈ c.projects, p.Canonical) :
    UserConfig.ofEntries [(.str "settings", c.settings.toValue),
        (.str "projects", .list (c.projects.map Project.toValue))]
      = .ok c.toUserConfig := by
  have hsettings : optional settingsOf c.settings.toValue = .ok (some c.settings) := by
    show (settingsOf c.settings.toValue).map some = _
    rw [settingsOf_toValue hnames]
    rfl
  have hlist : optional projectsOf (.list (c.projects.map Project.toValue))
      = .ok (some (c.projects.map Project.toDeclaration)) := by
    show (projectsOf _).map some = _
    rw [projectsOf_map_toValue hprojects]
    rfl
  show (Checked.both (.under (.name "settings") (optional settingsOf c.settings.toValue))
    (.under (.name "projects") (optional projectsOf _))).map _ = _
  rw [hsettings, hlist]
  rfl

/-- **A written configuration is accepted**, as an argument and as data. -/
theorem ofValue_toValue {c : FullConfig} (hnames : (c.settings.map Prod.fst).Nodup)
    (hprojects : ∀ p ∈ c.projects, p.Canonical) :
    UserConfig.ofValue c.toValue = .ok c.toUserConfig
      ∧ UserConfig.ofArgument c.toValue = .ok c.toUserConfig := by
  have hmapping : UserConfig.ofMapping [(.str "settings", c.settings.toValue),
      (.str "projects", .list (c.projects.map Project.toValue))] = .ok c.toUserConfig := by
    rw [UserConfig.ofMapping, ofEntries_toValue hnames hprojects]
  exact ⟨hmapping, hmapping⟩

end Workspace
