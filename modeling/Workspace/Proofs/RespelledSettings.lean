/-
Workspace.Proofs.RespelledSettings — the names under which the settings of the
server stand make no difference.

Every field of a record goes by two names (`Label`). `Respelled fields` relates
two values of which one comes from the other by writing some of the known keys
under their other names, in the record itself and in the records inside it; no
field may be given twice then. A field is read from the one value that is given
for it, under whichever name (`Label.toOption_read`), so a record reads as
before, field by field (`agreesOn_readRecord`), as long as the names of its
fields are apart.

Settings that are written out give every field once, so they are read as they
were, under either naming (`ServerSettings.check_toValue`). Whatever a value had
to be read as, a boolean, an integer or a text, is written as just that, and no
default is left to be filled in.
-/
import Mathlib.Data.List.Pairwise
import Workspace.Proofs.DocumentedShape
import Workspace.ServerSettings

namespace Workspace

/-! ## Fields under either name -/

namespace Label

/-- The two names as texts. -/
def texts (label : Label) : List Text :=
  [label.editor, label.plain]

/-- The key is one of the two names. -/
def names (label : Label) : Value → Bool
  | .str s => s ∈ label.texts
  | _ => false

/-- No text names both fields. -/
def Apart (label other : Label) : Prop :=
  ∀ t ∈ label.texts, t ∉ other.texts

instance (label other : Label) : Decidable (label.Apart other) :=
  inferInstanceAs (Decidable (∀ t ∈ label.texts, t ∉ other.texts))

instance : Std.Symm Apart where
  symm _ _ h := fun t ht ht' => h t ht' ht

/-- What the entries give for the field, under either name. -/
def given (label : Label) (entries : List (Value × Value)) : List Value :=
  (entries.filter fun e => label.names e.1).map Prod.snd

theorem names_key (label : Label) (naming : Naming) : label.names (label.key naming) = true := by
  cases naming <;> simp [names, key, texts]

theorem Apart.names_key {label other : Label} (h : label.Apart other) (naming : Naming) :
    label.names (other.key naming) = false := by
  have hother : other.Apart label := Std.Symm.symm _ _ h
  cases naming with
  | editor => exact decide_eq_false (hother _ (by simp [texts]))
  | plain => exact decide_eq_false (hother _ (by simp [texts]))

theorem given_cons_of_names {label : Label} {e : Value × Value} (h : label.names e.1 = true)
    (entries : List (Value × Value)) : label.given (e :: entries) = e.2 :: label.given entries := by
  show ((e :: entries).filter fun e => label.names e.1).map Prod.snd = _
  rw [List.filter_cons_of_pos (by simpa using h)]
  rfl

theorem given_cons_of_not_names {label : Label} {e : Value × Value}
    (h : label.names e.1 = false) (entries : List (Value × Value)) :
    label.given (e :: entries) = label.given entries := by
  rw [given, List.filter_cons_of_neg (by simp [h])]
  rfl

theorem mem_given_of_lookup? {label : Label} {entries : List (Value × Value)} {name : String}
    {v : Value} (hname : Text.ofString name ∈ label.texts)
    (h : Value.lookup? entries name = some v) : v ∈ label.given entries := by
  obtain ⟨e, he, rfl⟩ := Option.map_eq_some_iff.mp h
  have hkey := List.find?_some he
  have hnames : label.names e.1 = true := by
    cases hk : e.1 with
    | str s =>
      have hs : s = Text.ofString name := by simpa [hk] using hkey
      simpa [names, hs] using hname
    | null | bool | int | float | bytes | date | moment | list | set | map => simp [hk] at hkey
  exact List.mem_map_of_mem (List.mem_filter.mpr ⟨List.mem_of_find?_eq_some he, hnames⟩)

theorem given_eq_nil_of_lookup? {label : Label} {entries : List (Value × Value)}
    (heditor : Value.lookup? entries label.editor = none)
    (hplain : Value.lookup? entries label.plain = none) : label.given entries = [] := by
  rw [given, List.map_eq_nil_iff, List.filter_eq_nil_iff]
  intro e he hnames
  have hunnamed : ∀ name : String, Value.lookup? entries name = none →
      e.1 ≠ .str (Text.ofString name) := by
    intro name hnone hkey
    have hmiss := List.find?_eq_none.mp (Option.map_eq_none_iff.mp hnone) e he
    simp [hkey] at hmiss
  cases hk : e.1 with
  | str s =>
    have hs : s = Text.ofString label.editor ∨ s = Text.ofString label.plain := by
      simpa [hk, names, texts] using hnames
    rcases hs with rfl | rfl
    · exact hunnamed _ heditor hk
    · exact hunnamed _ hplain hk
  | null | bool | int | float | bytes | date | moment | list | set | map =>
    simp [hk, names] at hnames

end Label

/-! ## Readings that succeed -/

theorem toOption_map {α β : Type} (c : Checked α) (f : α → β) :
    (c.map f).toOption = c.toOption.map f := by
  cases c <;> rfl

theorem toOption_both {α β : Type} (c : Checked α) (d : Checked β) :
    (Checked.both c d).toOption = c.toOption.bind fun a => d.toOption.map fun b => (a, b) := by
  cases c <;> cases d <;> rfl

theorem toOption_under {α : Type} (step : Step) (c : Checked α) :
    (Checked.under step c).toOption = c.toOption := by
  cases c <;> rfl

theorem toOption_eq_some_iff {α : Type} {c : Checked α} {a : α} :
    c.toOption = some a ↔ c = .ok a := by
  cases c <;> simp [Except.toOption]

/-- **A field that is given at most once** is read from what is given for it,
and has its default otherwise. -/
theorem Label.toOption_read {α : Type} {label : Label} {entries : List (Value × Value)}
    (h : (label.given entries).length ≤ 1) (default : α) (check : Value → Checked α) :
    (label.read entries default check).toOption
      = match label.given entries with
        | [] => some default
        | v :: _ => (check v).toOption := by
  have hgiven : ∀ v ∈ label.given entries, label.given entries = [v] := by
    intro v hv
    match hall : label.given entries with
    | [] => simp [hall] at hv
    | [w] => simp_all
    | w :: w' :: more => simp [hall] at h
  unfold Label.read
  split
  · next v hv =>
    rw [hgiven v (mem_given_of_lookup? (by simp [texts]) hv), toOption_under]
  · next heditor =>
    split
    · next v hv =>
      rw [hgiven v (mem_given_of_lookup? (by simp [texts]) hv), toOption_under]
    · next hplain =>
      rw [given_eq_nil_of_lookup? heditor hplain]
      rfl

/-- A field that is given once is what its value is read as. -/
theorem Label.read_of_given {α : Type} {label : Label} {entries : List (Value × Value)}
    {v : Value} (h : label.given entries = [v]) {default : α} {check : Value → Checked α} {a : α}
    (hv : check v = .ok a) : label.read entries default check = .ok a := by
  rw [← toOption_eq_some_iff, label.toOption_read (by simp [h]), h, toOption_eq_some_iff]
  exact hv

/-! ## Values that are spelled otherwise -/

/-- The fields of a record, and which values of theirs are spelled otherwise. -/
abbrev Fields := List (Label × (Value → Value → Prop))

/-- The same entry, or an entry of the same field under either of its names, with
a value that may itself be spelled otherwise. -/
inductive RespelledEntry (fields : Fields) : Value × Value → Value × Value → Prop
  | other {e : Value × Value} (h : ∀ f ∈ fields, f.1.names e.1 = false) :
      RespelledEntry fields e e
  | field {f : Label × (Value → Value → Prop)} (hf : f ∈ fields) (naming naming' : Naming)
      {v v' : Value} (h : f.2 v v') :
      RespelledEntry fields (f.1.key naming, v) (f.1.key naming', v')

/-- The same value, or a record with some of its known keys under their other
names; then no field of it is given twice. -/
inductive Respelled (fields : Fields) : Value → Value → Prop
  | same (v : Value) : Respelled fields v v
  | entries {es es' : List (Value × Value)} (each : List.Forall₂ (RespelledEntry fields) es es')
      (once : ∀ f ∈ fields, (f.1.given es').length ≤ 1) : Respelled fields (.map es) (.map es')

/-- No two fields have a name in common. -/
def Fields.Apart (fields : Fields) : Prop :=
  (fields.map Prod.fst).Pairwise Label.Apart

instance (fields : Fields) : Decidable fields.Apart :=
  inferInstanceAs (Decidable (List.Pairwise _ _))

theorem Fields.Apart.of_ne {fields : Fields} (h : fields.Apart)
    {f g : Label × (Value → Value → Prop)} (hf : f ∈ fields) (hg : g ∈ fields) (hne : f ≠ g) :
    f.1.Apart g.1 := by
  have hpairwise : fields.Pairwise fun f g => f.1.Apart g.1 := List.pairwise_map.mp h
  exact List.Pairwise.forall (R := Function.onFun Label.Apart Prod.fst) hpairwise hf hg hne

/-- The entries give the same for a field, up to its spelling, and give it at
most once. -/
structure SameField (f : Label × (Value → Value → Prop)) (es es' : List (Value × Value)) :
    Prop where
  given : List.Forall₂ f.2 (f.1.given es) (f.1.given es')
  once : (f.1.given es').length ≤ 1

theorem forall₂_given {fields : Fields} (hapart : fields.Apart) {es es' : List (Value × Value)}
    (h : List.Forall₂ (RespelledEntry fields) es es') {f : Label × (Value → Value → Prop)}
    (hf : f ∈ fields) : List.Forall₂ f.2 (f.1.given es) (f.1.given es') := by
  induction h with
  | nil => exact .nil
  | cons hentry _ ih =>
    cases hentry with
    | other hnone =>
      rw [Label.given_cons_of_not_names (hnone f hf), Label.given_cons_of_not_names (hnone f hf)]
      exact ih
    | @field g hg naming naming' v v' hv =>
      by_cases hfg : f = g
      · subst hfg
        rw [Label.given_cons_of_names (f.1.names_key naming),
          Label.given_cons_of_names (f.1.names_key naming')]
        exact .cons hv ih
      · have hfg : f.1.Apart g.1 := hapart.of_ne hf hg hfg
        rw [Label.given_cons_of_not_names (hfg.names_key naming),
          Label.given_cons_of_not_names (hfg.names_key naming')]
        exact ih

/-- Values that are related are read as the same, or neither is accepted. -/
def AgreesOn {α : Type} (check : Value → Checked α) (R : Value → Value → Prop) : Prop :=
  ∀ v v', R v v' → (check v).toOption = (check v').toOption

theorem agreesOn_eq {α : Type} (check : Value → Checked α) : AgreesOn check Eq := by
  intro v v' h
  rw [h]

/-- A field reads alike where it is given alike. -/
theorem SameField.toOption_read {α : Type} {label : Label} {R : Value → Value → Prop}
    {es es' : List (Value × Value)} (h : SameField (label, R) es es') (default : α)
    {check : Value → Checked α} (hcheck : AgreesOn check R) :
    (label.read es default check).toOption = (label.read es' default check).toOption := by
  have hgiven : List.Forall₂ R (label.given es) (label.given es') := h.given
  have honce : (label.given es).length ≤ 1 := hgiven.length_eq ▸ h.once
  rw [label.toOption_read honce, label.toOption_read h.once]
  generalize label.given es = vs, label.given es' = vs' at hgiven
  cases hgiven with
  | nil => rfl
  | cons hv _ => exact hcheck _ _ hv

/-- **A record reads alike when its fields do.** -/
theorem agreesOn_readRecord {α : Type} {fields : Fields} (hapart : fields.Apart) (record : String)
    {read : List (Value × Value) → Checked α}
    (hread : ∀ es es', (∀ f ∈ fields, SameField f es es') →
      (read es).toOption = (read es').toOption) :
    AgreesOn (readRecord record read) (Respelled fields) := by
  intro v v' h
  cases h with
  | same => rfl
  | entries each once =>
    refine hread _ _ fun f hf => ?_
    exact ⟨forall₂_given hapart each hf, once f hf⟩

/-! ## The records of the settings -/

def CompletionSettings.fields : Fields := [(.autoImport, Eq)]

def ValidationSettings.fields : Fields := [(.script, Eq)]

def LanguageFeatureSettings.fields : Fields :=
  [(.codeActions, Eq), (.updateImportOnFileMove, Eq)]

def TraceSettings.fields : Fields := [(.server, Eq)]

def DevSettings.fields : Fields := [(.lspPath, Eq), (.lspPort, Eq), (.logLevel, Eq)]

def CoreSettings.fields : Fields :=
  [(.ignoreProjectWarning, Eq), (.useWorkspaceDependencies, Eq),
    (.completion, Respelled CompletionSettings.fields),
    (.validation, Respelled ValidationSettings.fields),
    (.languageFeatures, Respelled LanguageFeatureSettings.fields),
    (.trace, Respelled TraceSettings.fields),
    (.dev, Respelled DevSettings.fields)]

def TypeScriptSettings.fields : Fields := [(.tsdk, Eq)]

def ServerSettings.fields : Fields :=
  [(.coffeesense, Respelled CoreSettings.fields),
    (.typescript, Respelled TypeScriptSettings.fields)]

theorem CompletionSettings.agreesOn_ofValue :
    AgreesOn CompletionSettings.ofValue (Respelled CompletionSettings.fields) := by
  refine agreesOn_readRecord (by decide) _ fun es es' h => ?_
  simp only [CompletionSettings.fields, List.forall_mem_cons] at h
  obtain ⟨hautoImport, -⟩ := h
  simp only [toOption_map, hautoImport.toOption_read _ (agreesOn_eq _)]

theorem ValidationSettings.agreesOn_ofValue :
    AgreesOn ValidationSettings.ofValue (Respelled ValidationSettings.fields) := by
  refine agreesOn_readRecord (by decide) _ fun es es' h => ?_
  simp only [ValidationSettings.fields, List.forall_mem_cons] at h
  obtain ⟨hscript, -⟩ := h
  simp only [toOption_map, hscript.toOption_read _ (agreesOn_eq _)]

theorem LanguageFeatureSettings.agreesOn_ofValue :
    AgreesOn LanguageFeatureSettings.ofValue (Respelled LanguageFeatureSettings.fields) := by
  refine agreesOn_readRecord (by decide) _ fun es es' h => ?_
  simp only [LanguageFeatureSettings.fields, List.forall_mem_cons] at h
  obtain ⟨hactions, hupdate, -⟩ := h
  simp only [toOption_map, toOption_both, hactions.toOption_read _ (agreesOn_eq _),
    hupdate.toOption_read _ (agreesOn_eq _)]

theorem TraceSettings.agreesOn_ofValue :
    AgreesOn TraceSettings.ofValue (Respelled TraceSettings.fields) := by
  refine agreesOn_readRecord (by decide) _ fun es es' h => ?_
  simp only [TraceSettings.fields, List.forall_mem_cons] at h
  obtain ⟨hserver, -⟩ := h
  simp only [toOption_map, hserver.toOption_read _ (agreesOn_eq _)]

theorem DevSettings.agreesOn_ofValue :
    AgreesOn DevSettings.ofValue (Respelled DevSettings.fields) := by
  refine agreesOn_readRecord (by decide) _ fun es es' h => ?_
  simp only [DevSettings.fields, List.forall_mem_cons] at h
  obtain ⟨hpath, hport, hlevel, -⟩ := h
  simp only [toOption_map, toOption_both, hpath.toOption_read _ (agreesOn_eq _),
    hport.toOption_read _ (agreesOn_eq _), hlevel.toOption_read _ (agreesOn_eq _)]

theorem CoreSettings.agreesOn_ofValue :
    AgreesOn CoreSettings.ofValue (Respelled CoreSettings.fields) := by
  refine agreesOn_readRecord (by decide) _ fun es es' h => ?_
  simp only [CoreSettings.fields, List.forall_mem_cons] at h
  obtain ⟨hignore, huse, hcompletion, hvalidation, hfeatures, htrace, hdev, -⟩ := h
  simp only [toOption_map, toOption_both, hignore.toOption_read _ (agreesOn_eq _),
    huse.toOption_read _ (agreesOn_eq _),
    hcompletion.toOption_read _ CompletionSettings.agreesOn_ofValue,
    hvalidation.toOption_read _ ValidationSettings.agreesOn_ofValue,
    hfeatures.toOption_read _ LanguageFeatureSettings.agreesOn_ofValue,
    htrace.toOption_read _ TraceSettings.agreesOn_ofValue,
    hdev.toOption_read _ DevSettings.agreesOn_ofValue]

theorem TypeScriptSettings.agreesOn_ofValue :
    AgreesOn TypeScriptSettings.ofValue (Respelled TypeScriptSettings.fields) := by
  refine agreesOn_readRecord (by decide) _ fun es es' h => ?_
  simp only [TypeScriptSettings.fields, List.forall_mem_cons] at h
  obtain ⟨htsdk, -⟩ := h
  simp only [toOption_map, htsdk.toOption_read _ (agreesOn_eq _)]

/-- **Settings read alike under either name of each field.** -/
theorem ServerSettings.agreesOn_check :
    AgreesOn ServerSettings.check (Respelled ServerSettings.fields) := by
  refine agreesOn_readRecord (by decide) _ fun es es' h => ?_
  simp only [ServerSettings.fields, List.forall_mem_cons] at h
  obtain ⟨hcore, htypescript, -⟩ := h
  simp only [toOption_map, toOption_both, hcore.toOption_read _ CoreSettings.agreesOn_ofValue,
    htypescript.toOption_read _ TypeScriptSettings.agreesOn_ofValue]

/-! ## Settings that are written out -/

theorem TraceLevel.ofValue_toValue (level : TraceLevel) :
    readChoice TraceLevel.choices level.toValue = .ok level := by
  cases level <;> rfl

theorem LogLevel.ofValue_toValue (level : LogLevel) :
    readChoice LogLevel.choices level.toValue = .ok level := by
  cases level <;> rfl

/-- The entries of the written settings of the server itself. -/
def CoreSettings.entries (naming : Naming) (s : CoreSettings) : List (Value × Value) :=
  match s.toValue naming with
  | .map entries => entries
  | _ => []

/-- **The settings of the server itself are read as they were written**, field by
field. -/
theorem CoreSettings.ofValue_toValue (naming : Naming) (s : CoreSettings) :
    CoreSettings.ofValue (s.toValue naming) = .ok s := by
  have hignore : Label.ignoreProjectWarning.read (s.entries naming) false lenientBool
      = .ok s.ignoreProjectWarning :=
    Label.read_of_given (v := .bool s.ignoreProjectWarning) (by cases naming <;> rfl) rfl
  have huse : Label.useWorkspaceDependencies.read (s.entries naming) false lenientBool
      = .ok s.useWorkspaceDependencies :=
    Label.read_of_given (v := .bool s.useWorkspaceDependencies) (by cases naming <;> rfl) rfl
  have hcompletion : Label.completion.read (s.entries naming) {} CompletionSettings.ofValue
      = .ok s.completion := by
    refine Label.read_of_given
      (v := .map [(Label.autoImport.key naming, .bool s.completion.autoImport)]) ?_ ?_
    · cases naming <;> rfl
    · cases naming <;> rfl
  have hvalidation : Label.validation.read (s.entries naming) {} ValidationSettings.ofValue
      = .ok s.validation := by
    refine Label.read_of_given
      (v := .map [(Label.script.key naming, .bool s.validation.script)]) ?_ ?_
    · cases naming <;> rfl
    · cases naming <;> rfl
  have hfeatures : Label.languageFeatures.read (s.entries naming) {}
      LanguageFeatureSettings.ofValue = .ok s.languageFeatures := by
    refine Label.read_of_given
      (v := .map [(Label.codeActions.key naming, .bool s.languageFeatures.codeActions),
        (Label.updateImportOnFileMove.key naming,
          .bool s.languageFeatures.updateImportOnFileMove)]) ?_ ?_
    · cases naming <;> rfl
    · cases naming <;> rfl
  have htrace : Label.trace.read (s.entries naming) {} TraceSettings.ofValue = .ok s.trace := by
    refine Label.read_of_given
      (v := .map [(Label.server.key naming, s.trace.server.toValue)]) ?_ ?_
    · cases naming <;> rfl
    · obtain ⟨server⟩ := s.trace
      cases naming <;> cases server <;> rfl
  have hdev : Label.dev.read (s.entries naming) {} DevSettings.ofValue = .ok s.dev := by
    refine Label.read_of_given
      (v := .map [(Label.lspPath.key naming, .str s.dev.lspPath),
        (Label.lspPort.key naming, .int s.dev.lspPort),
        (Label.logLevel.key naming, s.dev.logLevel.toValue)]) ?_ ?_
    · cases naming <;> rfl
    · obtain ⟨path, port, level⟩ := s.dev
      cases naming <;> cases level <;> rfl
  show CoreSettings.ofValue (.map (s.entries naming)) = .ok s
  simp only [CoreSettings.ofValue, readRecord, hignore, huse, hcompletion, hvalidation, hfeatures,
    htrace, hdev]
  rfl

theorem TypeScriptSettings.ofValue_toValue (naming : Naming) (s : TypeScriptSettings) :
    TypeScriptSettings.ofValue (s.toValue naming) = .ok s := by
  obtain ⟨tsdk⟩ := s
  cases naming <;> cases tsdk <;> rfl

/-- **Written settings are read as they were**, under either naming. -/
theorem ServerSettings.check_toValue (naming : Naming) (s : ServerSettings) :
    ServerSettings.check (s.toValue naming) = .ok s := by
  have hcore : Label.coffeesense.read [(Label.coffeesense.key naming, s.core.toValue naming),
      (Label.typescript.key naming, s.typescript.toValue naming)] {} CoreSettings.ofValue
      = .ok s.core :=
    Label.read_of_given (by cases naming <;> rfl) (s.core.ofValue_toValue naming)
  have htypescript : Label.typescript.read [(Label.coffeesense.key naming, s.core.toValue naming),
      (Label.typescript.key naming, s.typescript.toValue naming)] {} TypeScriptSettings.ofValue
      = .ok s.typescript :=
    Label.read_of_given (by cases naming <;> rfl) (s.typescript.ofValue_toValue naming)
  simp only [ServerSettings.toValue, ServerSettings.check, readRecord, hcore, htypescript]
  rfl

theorem ServerSettings.ofValue_eq_ok_iff {v : Value} {s : ServerSettings} :
    ServerSettings.ofValue v = .ok s ↔ ServerSettings.check v = .ok s := by
  rw [ServerSettings.ofValue]
  cases ServerSettings.check v <;> simp [Except.mapError]

/-- **Settings survive being written and read again, under either name of each
field.** The settings that a value holds are read back from what they are written
as, under the names of editors and under the plain ones; and a value in which any
known keys, at any level, stand under their other names, with no field given
twice, holds the same settings. -/
theorem ServerSettings.ofValue_respelled {v : Value} {s : ServerSettings}
    (h : ServerSettings.ofValue v = .ok s) :
    (∀ naming, ServerSettings.ofValue (s.toValue naming) = .ok s)
      ∧ ∀ v', Respelled ServerSettings.fields v v' → ServerSettings.ofValue v' = .ok s := by
  refine ⟨fun naming => ?_, fun v' hrespelled => ?_⟩
  · rw [ServerSettings.ofValue_eq_ok_iff]
    exact s.check_toValue naming
  · rw [ServerSettings.ofValue_eq_ok_iff, ← toOption_eq_some_iff] at h ⊢
    rw [← ServerSettings.agreesOn_check v v' hrespelled, h]

/-- Settings that hold words, numbers and a text for what they mean, under names
of both kinds, with a note that means nothing to the server. -/
def looseSettings : Value :=
  .map [(.int 1, .null),
    (.str "coffeesense", .map [(.str "ignore_project_warning", .str "Yes"),
      (.str "languageFeatures", .map [(.str "code_actions", .int 0)]),
      (.str "dev", .map [(.str "note", .list []), (.str "lspPort", .str " 7_000.0"),
        (.str "logLevel", .str "DEBUG")])]),
    (.str "typescript", .map [(.str "tsdk", .null)])]

/-- The same with three keys under their other names, on two levels. -/
def looseSettingsRespelled : Value :=
  .map [(.int 1, .null),
    (.str "coffeesense", .map [(.str "ignoreProjectWarning", .str "Yes"),
      (.str "language_features", .map [(.str "code_actions", .int 0)]),
      (.str "dev", .map [(.str "note", .list []), (.str "lsp_port", .str " 7_000.0"),
        (.str "logLevel", .str "DEBUG")])]),
    (.str "typescript", .map [(.str "tsdk", .null)])]

/-- What the loose settings mean. -/
def strictSettings : ServerSettings where
  core :=
    { ignoreProjectWarning := true
      languageFeatures := { codeActions := false }
      dev := { lspPort := 7000, logLevel := .debug } }

theorem respelled_looseSettings :
    Respelled ServerSettings.fields looseSettings looseSettingsRespelled := by
  have hfeatures : Respelled LanguageFeatureSettings.fields
      (.map [(.str "code_actions", .int 0)]) (.map [(.str "code_actions", .int 0)]) := .same _
  have hdev : Respelled DevSettings.fields
      (.map [(.str "note", .list []), (.str "lspPort", .str " 7_000.0"),
        (.str "logLevel", .str "DEBUG")])
      (.map [(.str "note", .list []), (.str "lsp_port", .str " 7_000.0"),
        (.str "logLevel", .str "DEBUG")]) := by
    refine .entries (.cons (.other (by decide)) (.cons ?_ (.cons ?_ .nil))) (by decide)
    · exact .field (f := (.lspPort, Eq)) (by simp [DevSettings.fields]) .editor .plain rfl
    · exact .field (f := (.logLevel, Eq)) (by simp [DevSettings.fields]) .editor .editor rfl
  refine .entries (.cons (.other (by decide)) (.cons ?_ (.cons ?_ .nil))) (by decide)
  · refine .field (f := (.coffeesense, Respelled CoreSettings.fields))
      (by simp [ServerSettings.fields]) .editor .editor ?_
    refine .entries (.cons ?_ (.cons ?_ (.cons ?_ .nil))) (by decide)
    · exact .field (f := (.ignoreProjectWarning, Eq)) (by simp [CoreSettings.fields])
        .plain .editor rfl
    · exact .field (f := (.languageFeatures, Respelled LanguageFeatureSettings.fields))
        (by simp [CoreSettings.fields]) .editor .plain hfeatures
    · exact .field (f := (.dev, Respelled DevSettings.fields)) (by simp [CoreSettings.fields])
        .editor .editor hdev
  · exact .field (f := (.typescript, Respelled TypeScriptSettings.fields))
      (by simp [ServerSettings.fields]) .editor .editor (.same _)

theorem ServerSettings.ofValue_respelled_looseSettings :
    ServerSettings.ofValue looseSettings = .ok strictSettings
      ∧ Respelled ServerSettings.fields looseSettings looseSettingsRespelled
      ∧ ServerSettings.ofValue looseSettingsRespelled = .ok strictSettings
      ∧ ServerSettings.ofValue (strictSettings.toValue .plain) = .ok strictSettings := by
  have hloose : ServerSettings.ofValue looseSettings = .ok strictSettings := rfl
  obtain ⟨hwritten, hrespelled⟩ := ServerSettings.ofValue_respelled hloose
  exact ⟨hloose, respelled_looseSettings, hrespelled _ respelled_looseSettings, hwritten .plain⟩

end Workspace
