/-
Workspace.Proofs.CommandWords — how the words of a command are spelled.

`Spells forms words said` is the grammar: the words are arguments and options
in any order, and say `said`. An option is spelled by its long name, alone,
with its value behind an equals sign, or with its value as the next word; or by
its letter, in a word that begins with the letters of options without a value,
and with its value as the rest of the word or as the next word. After `--`
every word is an argument.

Reading is deterministic, the grammar is not obviously so. They agree when no
two options have a name or a letter in common and no name can be taken for
letters (`IsLegible`); the options of every command are of this kind. So the
words that are understood are those that spell something, and they say what
they spell (`readWords_eq_some_iff`).
-/
import Workspace.CommandLine

namespace Workspace.CommandLine

variable {forms : List OptionForm} {form : OptionForm}

/-- Options that cannot be taken for one another, or for something else. -/
structure IsLegible (forms : List OptionForm) : Prop where
  hyphens : ∀ form ∈ forms, form.name.toList.take 2 = ['-', '-']
  name_ne : ∀ form ∈ forms, form.name ≠ "--"
  name_plain : ∀ form ∈ forms, '=' ∉ form.name.toList
  find_name : ∀ form ∈ forms, forms.find? (·.name = form.name) = some form
  find_letter : ∀ form ∈ forms, ∀ c, form.letter = some c →
    forms.find? (·.letter = some c) = some form
  letter_ne : ∀ form ∈ forms, form.letter ≠ some '-'

theorem isLegible_forms (c : Command) : IsLegible c.forms where
  hyphens := by cases c <;> decide
  name_ne := by cases c <;> decide
  name_plain := by cases c <;> decide
  find_name := by
    cases c <;> simp [Command.forms, configForm, workspaceForm, jsonForm, verboseForm, flatForm,
      helpForm]
  find_letter := by
    cases c <;> simp [Command.forms, configForm, workspaceForm, jsonForm, verboseForm, flatForm,
      helpForm]
  letter_ne := by cases c <;> decide

/-! ## Letters -/

/-- Letters that stand together, the options that they spell, and the option
that waits for the next word. -/
inductive SpellsLetters (forms : List OptionForm) :
    List Char → List (Flag × String) → Option Flag → Prop where
  | nil : SpellsLetters forms [] [] none
  | bare {form : OptionForm} {c : Char} {cs : List Char} {options : List (Flag × String)}
      {waiting : Option Flag} : form ∈ forms → form.letter = some c → form.takesValue = false →
      SpellsLetters forms cs options waiting →
        SpellsLetters forms (c :: cs) ((form.flag, "") :: options) waiting
  | waiting {form : OptionForm} {c : Char} : form ∈ forms → form.letter = some c →
      form.takesValue = true → SpellsLetters forms [c] [] (some form.flag)
  | attached {form : OptionForm} {c : Char} {value : List Char} : form ∈ forms →
      form.letter = some c → form.takesValue = true → value ≠ [] →
        SpellsLetters forms (c :: value) [(form.flag, String.ofList value)] none

theorem readLetters_eq_some_iff (hforms : IsLegible forms) {cs : List Char}
    {options : List (Flag × String)} {waiting : Option Flag} :
    readLetters forms cs = some ⟨options, waiting⟩ ↔ SpellsLetters forms cs options waiting := by
  constructor
  · intro h
    induction cs generalizing options with
    | nil =>
      cases h
      exact .nil
    | cons c cs ih =>
      rw [readLetters] at h
      split at h
      · exact nomatch h
      · next form hform =>
        have hmem := List.mem_of_find?_eq_some hform
        have hletter : form.letter = some c := by simpa using List.find?_some hform
        split at h
        · next hvalue =>
          split at h
          · cases h
            exact .waiting hmem hletter hvalue
          · next hne =>
            cases h
            exact .attached hmem hletter hvalue hne
        · next hvalue =>
          obtain ⟨⟨more, waiting'⟩, hmore, hw⟩ := Option.map_eq_some_iff.mp h
          cases hw
          exact .bare hmem hletter (by simpa using hvalue) (ih hmore)
  · intro h
    induction h with
    | nil => rfl
    | bare hmem hletter hvalue _ ih =>
      simp [readLetters, hforms.find_letter _ hmem _ hletter, hvalue, ih]
    | waiting hmem hletter hvalue =>
      simp [readLetters, hforms.find_letter _ hmem _ hletter, hvalue]
    | attached hmem hletter hvalue hne =>
      simp [readLetters, hforms.find_letter _ hmem _ hletter, hvalue]

/-! ## Words that hold options -/

/-- A word that holds options, the options that it spells, and the option that
waits for the next word. -/
inductive SpellsOptions (forms : List OptionForm) :
    String → List (Flag × String) → Option Flag → Prop where
  | bare {form : OptionForm} : form ∈ forms → form.takesValue = false →
      SpellsOptions forms form.name [(form.flag, "")] none
  | waiting {form : OptionForm} : form ∈ forms → form.takesValue = true →
      SpellsOptions forms form.name [] (some form.flag)
  | attached {form : OptionForm} (value : String) : form ∈ forms → form.takesValue = true →
      SpellsOptions forms (form.name ++ "=" ++ value) [(form.flag, value)] none
  | letters {c : Char} {cs : List Char} {options : List (Flag × String)} {waiting : Option Flag} :
      SpellsLetters forms (c :: cs) options waiting →
        SpellsOptions forms (String.ofList ('-' :: c :: cs)) options waiting

theorem mem_letter_of_spellsLetters {c : Char} {cs : List Char} {options : List (Flag × String)}
    {waiting : Option Flag} (h : SpellsLetters forms (c :: cs) options waiting) :
    ∃ form ∈ forms, form.letter = some c := by
  cases h with
  | bare hmem hletter => exact ⟨_, hmem, hletter⟩
  | waiting hmem hletter => exact ⟨_, hmem, hletter⟩
  | attached hmem hletter => exact ⟨_, hmem, hletter⟩

theorem letter_ne_hyphen (hforms : IsLegible forms) {c : Char} {cs : List Char}
    {options : List (Flag × String)} {waiting : Option Flag}
    (h : SpellsLetters forms (c :: cs) options waiting) : c ≠ '-' := by
  obtain ⟨form, hmem, hletter⟩ := mem_letter_of_spellsLetters h
  rintro rfl
  exact hforms.letter_ne form hmem hletter

/-- No name can be taken for letters. -/
theorem find_name_of_letters (hforms : IsLegible forms) {c : Char} (hc : c ≠ '-')
    (cs : List Char) :
    forms.find? (·.name = String.ofList (('-' :: c :: cs).takeWhile (· ≠ '='))) = none := by
  rw [List.find?_eq_none]
  intro form hmem hname
  have hhyphens := hforms.hyphens form hmem
  rw [of_decide_eq_true hname, String.toList_ofList] at hhyphens
  by_cases heq : c = '='
  · simp [heq] at hhyphens
  · simp [heq, hc] at hhyphens

/-- A name ends at the equals sign, or with the word. -/
theorem span_name (hforms : IsLegible forms) (hmem : form ∈ forms) (rest : List Char)
    (hrest : rest.takeWhile (· ≠ '=') = []) :
    (form.name.toList ++ rest).takeWhile (· ≠ '=') = form.name.toList
      ∧ (form.name.toList ++ rest).dropWhile (· ≠ '=') = rest := by
  have hplain : ∀ c ∈ form.name.toList, decide (c ≠ '=') = true := by
    intro c hc
    exact decide_eq_true fun h : c = '=' => hforms.name_plain form hmem (h ▸ hc)
  have hdrop : rest.dropWhile (· ≠ '=') = rest := by
    have happend := List.takeWhile_append_dropWhile
      (p := fun c : Char => decide (c ≠ '=')) (l := rest)
    rwa [hrest, List.nil_append] at happend
  rw [List.takeWhile_append_of_pos hplain, List.dropWhile_append_of_pos hplain, hrest, hdrop]
  exact ⟨List.append_nil _, rfl⟩

theorem exists_name_eq (hforms : IsLegible forms) (hmem : form ∈ forms) :
    ∃ tail, form.name.toList = '-' :: '-' :: tail := by
  have hhyphens := hforms.hyphens form hmem
  generalize form.name.toList = cs at hhyphens ⊢
  rcases cs with _ | ⟨a, _ | ⟨b, tail⟩⟩ <;> simp_all

/-- A word that spells options is read as such. -/
theorem isOptionWord_of_spellsOptions (hforms : IsLegible forms) {word : String}
    {options : List (Flag × String)} {waiting : Option Flag}
    (h : SpellsOptions forms word options waiting) : word ≠ "--" ∧ isOptionWord word = true := by
  cases h with
  | bare hmem =>
    obtain ⟨tail, htail⟩ := exists_name_eq hforms hmem
    exact ⟨hforms.name_ne _ hmem, by simp [isOptionWord, htail]⟩
  | waiting hmem =>
    obtain ⟨tail, htail⟩ := exists_name_eq hforms hmem
    exact ⟨hforms.name_ne _ hmem, by simp [isOptionWord, htail]⟩
  | attached value hmem =>
    obtain ⟨tail, htail⟩ := exists_name_eq hforms hmem
    refine ⟨fun h => ?_, by simp [isOptionWord, htail]⟩
    have hchars := congrArg String.toList h
    simp [htail] at hchars
  | letters hletters =>
    refine ⟨fun h => ?_, by simp [isOptionWord]⟩
    have hchars := congrArg String.toList h
    simp [letter_ne_hyphen hforms hletters] at hchars

theorem readOptionWord_eq_some_iff (hforms : IsLegible forms) {word : String}
    (hword : isOptionWord word = true) {options : List (Flag × String)} {waiting : Option Flag} :
    readOptionWord forms word = some ⟨options, waiting⟩ ↔
      SpellsOptions forms word options waiting := by
  constructor
  · intro h
    simp only [readOptionWord] at h
    split at h
    · next form hform =>
      have hmem := List.mem_of_find?_eq_some hform
      have hname : form.name = String.ofList (word.toList.takeWhile (· ≠ '=')) := by
        have hfound := List.find?_some hform
        exact of_decide_eq_true hfound
      have hchars : word.toList = form.name.toList ++ word.toList.dropWhile (· ≠ '=') := by
        rw [hname, String.toList_ofList, List.takeWhile_append_dropWhile]
      cases hrest : word.toList.dropWhile (· ≠ '=') with
      | nil =>
        rw [hrest, List.append_nil] at hchars
        obtain rfl : word = form.name := String.toList_inj.mp hchars
        cases hvalue : form.takesValue <;> simp only [hrest, hvalue] at h <;> cases h
        · exact .bare hmem hvalue
        · exact .waiting hmem hvalue
      | cons e value =>
        have hhead := List.head?_dropWhile_not (fun c : Char => decide (c ≠ '=')) word.toList
        rw [hrest] at hhead
        obtain rfl : e = '=' := by simpa using hhead
        rw [hrest] at hchars
        obtain rfl : word = form.name ++ "=" ++ String.ofList value := by
          rw [← String.toList_inj, hchars]
          simp
        cases hvalue : form.takesValue <;> simp only [hrest, hvalue] at h <;> cases h
        exact .attached _ hmem hvalue
    · split at h
      · exact nomatch h
      · unfold isOptionWord at hword
        split at hword
        · next c cs hcs =>
          rw [hcs, List.tail_cons, readLetters_eq_some_iff hforms] at h
          rw [← String.ofList_toList (s := word), hcs]
          exact .letters h
        · exact nomatch hword
  · intro h
    cases h with
    | @bare form hmem hvalue =>
      obtain ⟨htake, hdrop⟩ := span_name hforms hmem [] rfl
      rw [List.append_nil] at htake hdrop
      simp only [readOptionWord, htake, hdrop, String.ofList_toList, hforms.find_name _ hmem,
        hvalue]
    | @waiting form hmem hvalue =>
      obtain ⟨htake, hdrop⟩ := span_name hforms hmem [] rfl
      rw [List.append_nil] at htake hdrop
      simp only [readOptionWord, htake, hdrop, String.ofList_toList, hforms.find_name _ hmem,
        hvalue]
    | @attached form value hmem hvalue =>
      obtain ⟨htake, hdrop⟩ := span_name hforms hmem ('=' :: value.toList) (by simp)
      have hchars : (form.name ++ "=" ++ value).toList
          = form.name.toList ++ '=' :: value.toList := by
        simp
      simp only [readOptionWord, hchars, htake, hdrop, String.ofList_toList,
        hforms.find_name _ hmem, hvalue]
    | @letters c cs _ _ hletters =>
      have hc := letter_ne_hyphen hforms hletters
      simp only [readOptionWord, String.toList_ofList, find_name_of_letters hforms hc cs]
      split
      · simp_all
      · exact (readLetters_eq_some_iff hforms).mpr hletters

/-! ## All words -/

/-- The words are arguments and options in any order, and say `said`. -/
inductive Spells (forms : List OptionForm) : List String → Words → Prop where
  | nil : Spells forms [] .empty
  /-- Nothing is an option any more. -/
  | dashes (rest : List String) : Spells forms ("--" :: rest) ⟨[], rest⟩
  | argument {word : String} {rest : List String} {said : Words} : isOptionWord word = false →
      Spells forms rest said →
        Spells forms (word :: rest) { said with arguments := word :: said.arguments }
  | options {word : String} {rest : List String} {said : Words} {options : List (Flag × String)} :
      SpellsOptions forms word options none → Spells forms rest said →
        Spells forms (word :: rest) { said with options := options ++ said.options }
  /-- The next word is the value of the last option. -/
  | valued {word value : String} {rest : List String} {said : Words}
      {options : List (Flag × String)} {flag : Flag} :
      SpellsOptions forms word options (some flag) → Spells forms rest said →
        Spells forms (word :: value :: rest)
          { said with options := options ++ (flag, value) :: said.options }

/-- **The words that are understood are those that spell something.** -/
theorem readWords_eq_some_iff (hforms : IsLegible forms) {words : List String} {said : Words} :
    readWords forms words = some said ↔ Spells forms words said := by
  constructor
  · intro h
    fun_induction readWords forms words generalizing said with
    | case1 => cases h; exact .nil
    | case2 rest =>
      cases h
      exact .dashes rest
    | case3 => exact nomatch h
    | case4 word rest _ hword options hread ih =>
      obtain ⟨w, hw, rfl⟩ := Option.map_eq_some_iff.mp h
      exact .options ((readOptionWord_eq_some_iff hforms hword).mp hread) (ih hw)
    | case5 => exact nomatch h
    | case6 word _ hword options flag hread value rest ih =>
      obtain ⟨w, hw, rfl⟩ := Option.map_eq_some_iff.mp h
      exact .valued ((readOptionWord_eq_some_iff hforms hword).mp hread) (ih hw)
    | case7 word rest _ hword ih =>
      obtain ⟨w, hw, rfl⟩ := Option.map_eq_some_iff.mp h
      exact .argument (by simpa using hword) (ih hw)
  · intro h
    induction h with
    | nil => rfl
    | dashes rest => simp [readWords]
    | @argument word rest said hword _ ih =>
      have hne : word ≠ "--" := by
        rintro rfl
        exact absurd hword (by decide)
      simp [readWords, hne, hword, ih]
    | @options word rest said options hspells _ ih =>
      obtain ⟨hne, hword⟩ := isOptionWord_of_spellsOptions hforms hspells
      simp [readWords, hne, hword, (readOptionWord_eq_some_iff hforms hword).mpr hspells, ih]
    | @valued word value rest said options flag hspells _ ih =>
      obtain ⟨hne, hword⟩ := isOptionWord_of_spellsOptions hforms hspells
      simp [readWords, hne, hword, (readOptionWord_eq_some_iff hforms hword).mpr hspells, ih]

/-! ## Requests -/

def Command.name : Command → String
  | .resolve => "resolve"
  | .owner => "owner"
  | .defaults => "defaults"

theorem Command.ofName?_eq_some_iff {name : String} {c : Command} :
    Command.ofName? name = some c ↔ name = c.name := by
  constructor
  · intro h
    unfold Command.ofName? at h
    split at h <;> cases h <;> rfl
  · rintro rfl
    cases c <;> rfl

/-- The words name a command, perhaps behind `--`, and say the rest after its
name. They do not ask for help, and the paths in them can be paths. -/
structure Asks (words : List String) (c : Command) (said : Words) : Prop where
  spells : ∃ rest, (words = c.name :: rest ∨ words = "--" :: c.name :: rest)
    ∧ Spells c.forms rest said
  noHelp : said.has .help = false
  noNul : (pathsIn c said).any holdsNul = false

theorem readLead_eq_some_iff {words : List String} {name : String} {rest : List String} :
    readLead words = some (false, name :: rest) ↔
      words = "--" :: name :: rest ∨ (words = name :: rest ∧ isOptionWord name = false) := by
  constructor
  · intro h
    cases words with
    | nil => simp [readLead] at h
    | cons word more =>
      rw [readLead] at h
      split at h
      · next hdashes =>
        cases h
        exact Or.inl (by rw [hdashes])
      · split at h
        · -- nothing but help is an option here
          split at h
          · obtain ⟨lead, -, hlead⟩ := Option.map_eq_some_iff.mp h
            exact nomatch hlead
          · exact nomatch h
        · next hword =>
          cases h
          exact Or.inr ⟨rfl, by simpa using hword⟩
  · rintro (rfl | ⟨rfl, hname⟩)
    · rfl
    · have hne : name ≠ "--" := by
        rintro rfl
        exact absurd hname (by decide)
      simp [readLead, hne, hname]

theorem of_ofWords_eq_ok {c : Command} {said : Words} {request : Request}
    (hok : Request.ofWords c said = .ok request) (h : request ≠ .help) :
    said.has .help = false ∧ (pathsIn c said).any holdsNul = false := by
  unfold Request.ofWords at hok
  split at hok
  · exact absurd (Except.ok.inj hok).symm h
  · next hhelp =>
    split at hok
    · exact nomatch hok
    · next hnul => exact ⟨by simpa using hhelp, by simpa using hnul⟩

/-- Words are a request other than for help if they ask something of a command
that makes this request of it. -/
theorem ofArguments_eq_ok_iff {words : List String} {request : Request} (h : request ≠ .help) :
    Request.ofArguments words = .ok request ↔
      ∃ c said, Asks words c said ∧ Request.ofWords c said = .ok request := by
  constructor
  · intro hok
    unfold Request.ofArguments at hok
    split at hok
    · exact nomatch hok
    · exact absurd (Except.ok.inj hok).symm h
    · exact nomatch hok
    · next name rest hlead =>
      split at hok
      · exact nomatch hok
      · next c hname =>
        split at hok
        · exact nomatch hok
        · next said hread =>
          obtain rfl := Command.ofName?_eq_some_iff.mp hname
          obtain ⟨hhelp, hnul⟩ := of_ofWords_eq_ok hok h
          refine ⟨c, said, ⟨⟨rest, ?_, (readWords_eq_some_iff (isLegible_forms c)).mp hread⟩,
            hhelp, hnul⟩, hok⟩
          exact (readLead_eq_some_iff.mp hlead).symm.imp_left And.left
  · rintro ⟨c, said, ⟨⟨rest, hwords, hspells⟩, -, -⟩, hok⟩
    have hname : isOptionWord c.name = false := by cases c <;> decide
    have hlead : readLead words = some (false, c.name :: rest) :=
      readLead_eq_some_iff.mpr (hwords.symm.imp_right fun h => ⟨h, hname⟩)
    have hread := (readWords_eq_some_iff (isLegible_forms c)).mpr hspells
    simp only [Request.ofArguments, hlead, Command.ofName?_eq_some_iff.mpr rfl, hread, hok]

/-- The words ask for the owner of a file: they say one argument, and of several
workspaces and of several configuration files the last one counts. -/
def AsksOwner (words : List String) (file workspace : Text) (config : Option Text) : Prop :=
  ∃ said argument, Asks words .owner said ∧ said.arguments = [argument]
    ∧ file = argument
    ∧ workspace = (said.path? .workspace).getD defaultWorkspace
    ∧ config = said.path? .config

/-- The words ask how a workspace resolves, as JSON: they say at most one
argument. -/
def AsksJson (words : List String) (workspace : Text) (config : Option Text) : Prop :=
  ∃ said, Asks words .resolve said ∧ said.has .json = true
    ∧ (said.arguments = [] ∧ workspace = defaultWorkspace
        ∨ ∃ argument, said.arguments = [argument] ∧ workspace = argument)
    ∧ config = said.path? .config

/-- The words ask how a workspace resolves, as JSON or as a table: they say at most
one argument. -/
def AsksResolve (words : List String) (workspace : Text) (config : Option Text) (json : Bool) :
    Prop :=
  ∃ said, Asks words .resolve said ∧ said.has .json = json
    ∧ (said.arguments = [] ∧ workspace = defaultWorkspace
        ∨ ∃ argument, said.arguments = [argument] ∧ workspace = argument)
    ∧ config = said.path? .config

theorem ofArguments_eq_owner_iff {words : List String} {file workspace : Text}
    {config : Option Text} :
    Request.ofArguments words = .ok (.owner file workspace config) ↔
      AsksOwner words file workspace config := by
  refine (ofArguments_eq_ok_iff (by simp)).trans ⟨?_, ?_⟩
  · rintro ⟨c, said, hasks, hok⟩
    simp only [Request.ofWords, hasks.noHelp, hasks.noNul, Bool.false_eq_true, if_false] at hok
    split at hok
    case h_3 argument harguments =>
      simp only [Except.ok.injEq, Request.owner.injEq] at hok
      obtain ⟨rfl, rfl, rfl⟩ := hok
      exact ⟨said, argument, hasks, harguments, rfl, rfl, rfl⟩
    all_goals exact nomatch hok
  · rintro ⟨said, argument, hasks, harguments, rfl, rfl, rfl⟩
    refine ⟨.owner, said, hasks, ?_⟩
    simp only [Request.ofWords, hasks.noHelp, hasks.noNul, Bool.false_eq_true, if_false, harguments]

theorem ofArguments_eq_resolve_iff {words : List String} {workspace : Text} {config : Option Text}
    {json : Bool} :
    Request.ofArguments words = .ok (.resolve workspace config json) ↔
      AsksResolve words workspace config json := by
  refine (ofArguments_eq_ok_iff (by simp)).trans ⟨?_, ?_⟩
  · rintro ⟨c, said, hasks, hok⟩
    simp only [Request.ofWords, hasks.noHelp, hasks.noNul, Bool.false_eq_true, if_false] at hok
    split at hok
    · next harguments =>
      simp only [Except.ok.injEq, Request.resolve.injEq] at hok
      obtain ⟨rfl, rfl, hjson⟩ := hok
      exact ⟨said, hasks, hjson, Or.inl ⟨harguments, rfl⟩, rfl⟩
    · next argument harguments =>
      simp only [Except.ok.injEq, Request.resolve.injEq] at hok
      obtain ⟨rfl, rfl, hjson⟩ := hok
      exact ⟨said, hasks, hjson, Or.inr ⟨argument, harguments, rfl⟩, rfl⟩
    all_goals exact nomatch hok
  · rintro ⟨said, hasks, hjson, ⟨harguments, rfl⟩ | ⟨argument, harguments, rfl⟩, rfl⟩ <;>
      exact ⟨.resolve, said, hasks, by
        simp only [Request.ofWords, hasks.noHelp, hasks.noNul, Bool.false_eq_true, if_false,
          harguments, hjson]⟩

theorem ofArguments_eq_json_iff {words : List String} {workspace : Text} {config : Option Text} :
    Request.ofArguments words = .ok (.resolve workspace config true) ↔
      AsksJson words workspace config :=
  ofArguments_eq_resolve_iff

end Workspace.CommandLine
