/-
Workspace.Proofs.OwnerEnding — how a run of `owner` ends.

The words after the name of the command are misunderstood, hold a path that is
none, or ask for the owner of a file (`ofArguments_owner`). Then there are three
ends. A root is shown and the exit code is 0. An error of loading or resolving is
reported: its message is escaped, so the tags of the report can be followed whatever
the message holds (`reportLines_report`). Or nobody owns the file, and the line that
says so holds its path without escaping it (`UnownedEnding`). A path without tags
cannot break this line off. A tag that closes what is not open breaks the command
off (`crashed_closingTag`).

What is shown of the line is a matter of markup and of room. Nothing is lost to the
markup if the path is unmarked (`IsUnmarked`) and spells no picture; the rest is put
on the lines of the console. Where there is room for all of it on one line, a path
without colons and control characters is shown as it is exactly if it is unmarked:
otherwise a bracket or a backslash is missing, and no console makes up for it
(`isUnmarked_of_ending`).
-/
import Workspace.Proofs.CommandAgreement
import Workspace.Proofs.EscapedMarkup
import Workspace.Proofs.StyledMarkup
import Workspace.Proofs.WrappedLines

namespace Workspace

/-! ## Paths among words -/

/-- A path text has only slashes and dots besides what it was read from. -/
theorem Path.mem_of_mem_render_parse {t : Text} {p : CodePoint} (hslash : p ≠ .char '/')
    (hdot : p ≠ .char '.') (h : p ∈ (Path.parse t).render) : p ∈ t := by
  unfold Path.render at h
  split at h
  · exact absurd (List.mem_singleton.mp h) hdot
  · rcases List.mem_append.mp h with h | h
    · revert h
      cases (Path.parse t).anchor <;> simp [Anchor.text, hslash]
    · obtain ⟨s, hs, hp⟩ := (Text.mem_joinWith_iff hslash).mp h
      exact Text.mem_of_mem_pieces (List.mem_filter.mp hs).1 hp

theorem Path.writable_render_parse {t : Text} (h : t.Writable) :
    (Path.parse t).render.Writable := by
  intro p hp
  by_cases hslash : p = .char '/'
  · exact ⟨_, hslash⟩
  · by_cases hdot : p = .char '.'
    · exact ⟨_, hdot⟩
    · exact h p (Path.mem_of_mem_render_parse hslash hdot hp)

namespace CommandLine

open Terminal (Fits NoControls NamesPicture printed)
open Terminal.Markup

variable {w : World} {words rest : List String} {said : Words}

/-! ## Words without help -/

theorem helpForm_of_flag (c : Command) : ∀ form ∈ c.forms, form.flag = .help →
    form.name = "--help" ∧ form.letter = none ∧ form.takesValue = false := by
  cases c <;> simp [Command.forms, configForm, workspaceForm, jsonForm, verboseForm, flatForm,
    helpForm]

/-- Neither the options nor the one that waits for a value ask for help. -/
def AsksNoHelp (options : List (Flag × String)) (waiting : Option Flag) : Prop :=
  (∀ o ∈ options, o.1 ≠ .help) ∧ waiting ≠ some .help

theorem flag_ne_help_of_letter {c : Command} {form : OptionForm} {letter : Char}
    (hmem : form ∈ c.forms) (hletter : form.letter = some letter) : form.flag ≠ .help :=
  fun hflag => nomatch (helpForm_of_flag c form hmem hflag).2.1.symm.trans hletter

theorem flag_ne_help_of_takesValue {c : Command} {form : OptionForm} (hmem : form ∈ c.forms)
    (hvalue : form.takesValue = true) : form.flag ≠ .help :=
  fun hflag => nomatch (helpForm_of_flag c form hmem hflag).2.2.symm.trans hvalue

/-- Help has no letter. -/
theorem asksNoHelp_of_spellsLetters {c : Command} {cs : List Char}
    {options : List (Flag × String)} {waiting : Option Flag}
    (h : SpellsLetters c.forms cs options waiting) : AsksNoHelp options waiting := by
  induction h with
  | nil => exact ⟨nofun, nofun⟩
  | bare hmem hletter _ _ ih =>
    exact ⟨List.forall_mem_cons.mpr ⟨flag_ne_help_of_letter hmem hletter, ih.1⟩, ih.2⟩
  | waiting hmem hletter _ =>
    exact ⟨nofun, fun heq => flag_ne_help_of_letter hmem hletter (Option.some.inj heq)⟩
  | attached hmem hletter _ _ =>
    exact ⟨List.forall_mem_singleton.mpr (flag_ne_help_of_letter hmem hletter), nofun⟩

theorem asksNoHelp_of_spellsOptions {c : Command} {word : String}
    {options : List (Flag × String)} {waiting : Option Flag}
    (h : SpellsOptions c.forms word options waiting) (hword : word ≠ "--help") :
    AsksNoHelp options waiting := by
  cases h with
  | bare hmem _ =>
    refine ⟨List.forall_mem_singleton.mpr fun hflag => ?_, nofun⟩
    exact hword (helpForm_of_flag c _ hmem hflag).1
  | waiting hmem hvalue =>
    exact ⟨nofun, fun heq => flag_ne_help_of_takesValue hmem hvalue (Option.some.inj heq)⟩
  | attached _ hmem hvalue =>
    exact ⟨List.forall_mem_singleton.mpr (flag_ne_help_of_takesValue hmem hvalue), nofun⟩
  | letters hletters => exact asksNoHelp_of_spellsLetters hletters

theorem flags_ne_help_of_spells {c : Command} (h : Spells c.forms rest said)
    (hhelp : "--help" ∉ rest) : ∀ o ∈ said.options, o.1 ≠ .help := by
  induction h with
  | nil => exact nofun
  | dashes rest => exact nofun
  | argument _ _ ih => exact ih (mt (List.mem_cons_of_mem _) hhelp)
  | options hoptions _ ih =>
    obtain ⟨hword, hrest⟩ := not_or.mp (mt List.mem_cons.mpr hhelp)
    refine List.forall_mem_append.mpr ⟨?_, ih hrest⟩
    exact (asksNoHelp_of_spellsOptions hoptions (Ne.symm hword)).1
  | valued hoptions _ ih =>
    obtain ⟨hword, hmore⟩ := not_or.mp (mt List.mem_cons.mpr hhelp)
    obtain ⟨hnone, hwaiting⟩ := asksNoHelp_of_spellsOptions hoptions (Ne.symm hword)
    refine List.forall_mem_append.mpr ⟨hnone, List.forall_mem_cons.mpr ⟨?_, ?_⟩⟩
    · exact fun heq => hwaiting (congrArg some heq)
    · exact ih (mt (List.mem_cons_of_mem _) hmore)

/-- The words are those of `owner`, perhaps behind `--`. -/
def NamesOwner (words rest : List String) : Prop :=
  words = "owner" :: rest ∨ words = "--" :: "owner" :: rest

/-- Words of `owner` without the word for help are misunderstood, hold a path that
is none, or ask for the owner of a file. -/
theorem ofArguments_owner (hwords : NamesOwner words rest) (hhelp : "--help" ∉ rest) :
    Request.ofArguments words = .error .words
      ∨ (Request.ofArguments words = .error .nulInPath
          ∧ ∃ said, Spells Command.owner.forms rest said
            ∧ (pathsIn .owner said).any holdsNul = true)
      ∨ ∃ file workspace config,
          Request.ofArguments words = .ok (.owner file workspace config) := by
  have hlead : readLead words = some (false, "owner" :: rest) :=
    readLead_eq_some_iff.mpr (hwords.symm.imp_right fun h => ⟨h, by decide⟩)
  have hname : Command.ofName? "owner" = some .owner := rfl
  simp only [Request.ofArguments, hlead, hname]
  cases hread : readWords Command.owner.forms rest with
  | none => exact .inl rfl
  | some said =>
    have hspells := (readWords_eq_some_iff (isLegible_forms .owner)).mp hread
    have hnohelp : said.has .help = false := by
      rw [Words.has, List.any_eq_false]
      exact fun o ho => by simpa using flags_ne_help_of_spells hspells hhelp o ho
    simp only [Request.ofWords, hnohelp, Bool.false_eq_true, if_false]
    split
    · next hnul => exact .inr (.inl ⟨rfl, said, hspells, hnul⟩)
    · split
      · next heq _ => cases heq
      · next heq _ => cases heq
      · exact .inr (.inr ⟨_, _, _, rfl⟩)
      · next heq _ => cases heq
      · exact .inl rfl

/-! ## Reports -/

/-- The title of a report. -/
def reportTitle (category : Category) : Text :=
  "Error (" ++ category.name ++ "):"

theorem shownText_reportTitle (category : Category) :
    shownText (reportTitle category) = reportTitle category := by
  cases category <;> decide

theorem exists_render_title (category : Category) (message : Text) :
    ∃ more, render (tagged "bold red" (reportTitle category) ++ " " ++ escape message)
      = .ok (reportTitle category ++ more) := by
  have htag : ¬HasTag (reportTitle category) := by cases category <;> decide
  have hlast : (reportTitle category).getLast? ≠ some (.char '\\') := by
    cases category <;> decide
  have hescaped : AllText (parts (.char ' ' :: escape message)) :=
    allText_parts_cons_escape (by decide) (by decide) message
  have hrender := renderParts_tagged [] isStyle_boldRed htag hlast
    (.char ' ' :: escape message)
  rw [renderParts_of_allText hescaped, shownText_reportTitle] at hrender
  refine ⟨(parts (.char ' ' :: escape message)).flatMap Part.shown, ?_⟩
  rw [tagged_eq, List.append_assoc _ (Text.ofString " ")]
  exact hrender

/-- The report is a message that begins with the title, put on the lines of a
console, and what comes below it. -/
def Reports (columns : Nat) (category : Category) (report : Text) : Prop :=
  ∃ message below, reportTitle category <+: message ∧ report = printed columns message ++ below

/-- The tags of a report can be followed if those of its hint can. -/
theorem exists_reportLines (columns : Nat) (r : Report) {hint : Text}
    (hhint : render (tagged "dim" r.hint) = .ok hint) :
    ∃ report, reportLines columns r = .ok report ∧ Reports columns r.category report := by
  obtain ⟨more, htitle⟩ := exists_render_title r.category r.message
  have hfirst := shownLine_of_render columns htitle
  have hbegins : reportTitle r.category <+: reportTitle r.category ++ more :=
    List.prefix_append _ _
  simp only [reportTitle] at hfirst
  simp only [reportLines, hfirst, bind, Except.bind, pure, Except.pure]
  split
  · exact ⟨_, rfl, _, [], hbegins, rfl⟩
  · rw [shownLine_of_render columns hhint]
    exact ⟨_, rfl, _, printed columns hint, hbegins, rfl⟩

/-- The report of an error begins with its category. -/
theorem exists_reportLines_report (columns : Nat) (e : Error) :
    ∃ report, reportLines columns e.report = .ok report ∧ Reports columns e.category report := by
  have htag : ¬HasTag e.category.hint := by cases e.category <;> decide
  obtain ⟨hint, hhint⟩ := exists_render_tagged isStyle_dim htag
  rw [← tagged_eq] at hhint
  exact exists_reportLines columns e.report hhint

theorem Reports.ne_nil {columns : Nat} {category : Category} {report : Text}
    (h : Reports columns category report) (hcolumns : 0 < columns) : report ≠ [] := by
  obtain ⟨message, below, -, rfl⟩ := h
  simp [Terminal.printed_ne_nil hcolumns]

/-! ## The line about a file without an owner -/

/-- What the line says before the path. -/
def unownedWords : Text :=
  "No project owns "

/-- Nothing of the path is taken for markup: it has no tag, no bracket behind a
backslash, and no backslash at its end. -/
structure IsUnmarked (path : String) : Prop where
  noTag : ¬HasTag path
  noEscape : ¬escapedBracket <:+: Text.ofString path
  noBackslash : (Text.ofString path).getLast? ≠ some (.char '\\')

/-- How a run ends that shows the line for a path on a console of `columns`. -/
structure UnownedEnding (columns : Nat) (path : String) (o : Outcome) : Prop where
  /-- Tags cannot be followed, or something is shown. -/
  ending : (∃ fault, o = .crashed (.markup fault))
    ∨ ∃ output : String, o = ⟨1, output, none⟩ ∧ (0 < columns → output ≠ "")
  hasTag_of_crash : o.crash ≠ none → HasTag path
  /-- The line is put on the lines of the console. -/
  shown : NoControls path → IsUnmarked path → ¬NamesPicture path →
    o = .showing 1 (printed columns (unownedWords ++ path))
  /-- With room for it, this is the line itself. -/
  shown_of_fits : Fits columns (unownedWords ++ path) → NoControls path → IsUnmarked path →
    ¬NamesPicture path → o = ⟨1, "No project owns " ++ path ++ "\n", none⟩
  /-- Where no name of a picture can come about, no marked path is shown as it is. -/
  shown_iff : Fits columns (unownedWords ++ path) → NoControls path →
    .char ':' ∉ Text.ofString path →
    (o = ⟨1, "No project owns " ++ path ++ "\n", none⟩ ↔ IsUnmarked path)
  /-- The first tag of the path closes a style that is not open. -/
  crashed : ∀ a name b : Text, Text.ofString path = a ++ bracketed (.char '/' :: name) ++ b →
    IsInside (.char '/' :: name) → .char '=' ∉ name →
    Text.trimBoth Text.isBlankPoint name ≠ [] →
    Terminal.Style.normalForm (Text.trimBoth Text.isBlankPoint name) ≠ .ok "yellow" →
    ¬HasTag a → a.getLast? ≠ some (.char '\\') → ∃ fault, o = .crashed (.markup fault)

section

variable {columns : Nat} {path : String}

theorem hasTag_unowned_iff {t : Text} : HasTag (unownedWords ++ t) ↔ HasTag t :=
  hasTag_append_iff (by decide)

theorem escapedBracket_unowned_iff {t : Text} :
    escapedBracket <:+: unownedWords ++ t ↔ escapedBracket <:+: t :=
  cons_infix_append_iff (by decide)

theorem getLast?_unowned_ne_iff {t : Text} :
    (unownedWords ++ t).getLast? ≠ some (.char '\\') ↔ t.getLast? ≠ some (.char '\\') := by
  rcases List.eq_nil_or_concat t with rfl | ⟨rest, p, rfl⟩
  · decide
  · rw [List.concat_eq_append, ← List.append_assoc, List.getLast?_concat, List.getLast?_concat]

theorem noControls_unowned (h : NoControls path) : NoControls (unownedWords ++ path) := by
  have hwords : NoControls unownedWords := by decide
  exact fun p hp => (List.mem_append.mp hp).elim (hwords p) (h p)

/-- The text that is rendered for the line. -/
def unownedText (path : String) : Text :=
  bracketed "yellow" ++ (unownedWords ++ path) ++ bracketed (.char '/' :: Text.ofString "yellow")

theorem writable_unownedText (path : String) : (unownedText path).Writable := by
  have hpath : Text.Writable path := Text.writable_iff_exists_eq.mpr ⟨path, rfl⟩
  have hopening : Text.Writable (bracketed "yellow" ++ unownedWords) :=
    Text.writable_iff_exists_eq.mpr ⟨"[yellow]No project owns ", by decide⟩
  have hclosing : Text.Writable (bracketed (.char '/' :: Text.ofString "yellow")) :=
    Text.writable_iff_exists_eq.mpr ⟨"[/yellow]", by decide⟩
  rw [unownedText, ← List.append_assoc]
  exact (hopening.append hpath).append hclosing

theorem showing_unowned {exitCode : Nat} :
    Outcome.showing exitCode (unownedWords ++ path ++ "\n")
      = ⟨exitCode, "No project owns " ++ path ++ "\n", none⟩ := by
  rw [← showing_ofString, Text.ofString_append, Text.ofString_append]
  rfl

/-- An unmarked path that spells no picture is rendered as it is. -/
theorem render_unownedText (hcontrols : NoControls path) (hunmarked : IsUnmarked path)
    (hpicture : ¬NamesPicture path) : render (unownedText path) = .ok (unownedWords ++ path) := by
  have hplain : IsPlain (unownedWords ++ path) :=
    ⟨mt hasTag_unowned_iff.mp hunmarked.noTag, mt escapedBracket_unowned_iff.mp hunmarked.noEscape,
      mt (Terminal.namesPicture_append_iff (by decide)).mp hpicture,
      not_hidden_of_noControls (noControls_unowned hcontrols)⟩
  rw [unownedText, render_tagged isStyle_yellow hplain.noTag
    (getLast?_unowned_ne_iff.mpr hunmarked.noBackslash), shownText_of_isPlain hplain]

theorem exists_ending_of_render (columns : Nat) {s : Text} (h : render (unownedText path) = .ok s) :
    ∃ output : String, ending 1 (shownLine columns (unownedText path)) = ⟨1, output, none⟩
      ∧ Text.ofString output = printed columns s := by
  have hs : s.Writable := writable_of_render (writable_unownedText path) h
  obtain ⟨output, houtput⟩ :=
    Text.writable_iff_exists_eq.mp (Terminal.writable_printed columns hs)
  exact ⟨output, by rw [ending_shownLine h, houtput, showing_ofString], houtput.symm⟩

theorem showing_printed_of_fits (hfits : Fits columns (unownedWords ++ path))
    (hcontrols : NoControls path) :
    Outcome.showing 1 (printed columns (unownedWords ++ path))
      = ⟨1, "No project owns " ++ path ++ "\n", none⟩ := by
  have hcolumns : 0 < columns := by
    have hwords : Text.width unownedWords = 16 := by decide
    have hwidth := hfits.width
    rw [Terminal.width_append] at hwidth
    omega
  have hline := noControls_unowned hcontrols
  rw [Terminal.printed_of_fits hcolumns hfits (hline.not_mem (by decide))
    (hline.not_mem (by decide))]
  exact showing_unowned

/-- Only an unmarked path is shown as it is, since something of a marked one is
lost in rendering. -/
theorem isUnmarked_of_ending (hcolon : .char ':' ∉ Text.ofString path)
    (h : ending 1 (shownLine columns (unownedText path))
      = ⟨1, "No project owns " ++ path ++ "\n", none⟩) : IsUnmarked path := by
  have hcolon : .char ':' ∉ unownedWords ++ Text.ofString path := by
    rw [List.mem_append, not_or]
    exact ⟨by decide, hcolon⟩
  cases hrender : render (unownedText path) with
  | error fault =>
    rw [ending_shownLine_of_error hrender] at h
    exact nomatch congrArg Outcome.crash h
  | ok s =>
    obtain ⟨output, hends, houtput⟩ := exists_ending_of_render columns hrender
    obtain rfl : output = "No project owns " ++ path ++ "\n" :=
      congrArg Outcome.output (hends.symm.trans h)
    have hline : unownedWords ++ Text.ofString path ++ Text.ofString "\n" = printed columns s := by
      rw [← houtput, Text.ofString_append, Text.ofString_append]
      rfl
    have hkept : marks (unownedWords ++ path) ≤ marks s := by
      have hprinted := Terminal.marks_printed_le columns s
      rw [← hline, marks_append _ (Text.ofString "\n")] at hprinted
      exact (Nat.le_add_right _ _).trans hprinted
    have hunmarked : ¬(HasTag (unownedWords ++ path) ∨ escapedBracket <:+: unownedWords ++ path
        ∨ (unownedWords ++ Text.ofString path).getLast? = some (.char '\\')) := fun hmark =>
      absurd (marks_lt_of_render_tagged isStyle_yellow (by decide) (by decide) hcolon hrender hmark)
        hkept.not_gt
    simp only [not_or] at hunmarked
    exact ⟨mt hasTag_unowned_iff.mpr hunmarked.1, mt escapedBracket_unowned_iff.mpr hunmarked.2.1,
      getLast?_unowned_ne_iff.mp hunmarked.2.2⟩

/-- A run that shows the line for a path breaks off only if the path has a tag. -/
theorem unownedEnding (columns : Nat) (path : String) :
    UnownedEnding columns path (ending 1 (shownLine columns (unownedText path))) where
  ending := by
    cases hrender : render (unownedText path) with
    | error fault => exact .inl ⟨fault, ending_shownLine_of_error hrender 1⟩
    | ok s =>
      obtain ⟨output, hends, houtput⟩ := exists_ending_of_render columns hrender
      refine .inr ⟨output, hends, fun hcolumns hempty => ?_⟩
      rw [hempty] at houtput
      exact Terminal.printed_ne_nil hcolumns s houtput.symm
  hasTag_of_crash hcrash := by
    by_contra htag
    obtain ⟨s, hs⟩ := exists_render_tagged isStyle_yellow (mt hasTag_unowned_iff.mp htag)
    obtain ⟨output, hends, -⟩ := exists_ending_of_render columns hs
    exact hcrash (by rw [hends])
  shown hcontrols hunmarked hpicture :=
    ending_shownLine (render_unownedText hcontrols hunmarked hpicture) 1
  shown_of_fits hfits hcontrols hunmarked hpicture := by
    rw [ending_shownLine (render_unownedText hcontrols hunmarked hpicture),
      showing_printed_of_fits hfits hcontrols]
  shown_iff hfits hcontrols hcolon := by
    refine ⟨isUnmarked_of_ending hcolon, fun hunmarked => ?_⟩
    rw [ending_shownLine (render_unownedText hcontrols hunmarked
      (Terminal.not_namesPicture_of_not_mem hcolon)), showing_printed_of_fits hfits hcontrols]
  crashed a name b hpath hinside hplain hname hother htag hlast := by
    obtain ⟨fault, hfault⟩ := exists_fault_of_unopened (b := b) isStyle_yellow hinside hplain hname
      hother (mt hasTag_unowned_iff.mp htag) (getLast?_unowned_ne_iff.mpr hlast)
    refine ⟨fault, ending_shownLine_of_error ?_ 1⟩
    rw [unownedText, hpath]
    simpa only [List.append_assoc] using hfault

end

/-! ## Runs -/

variable {file workspace : Text} {config : Option Text}

theorem unownedLine_eq {path : String} (h : (Path.parse file).render = path) (columns : Nat) :
    unownedLine columns file = shownLine columns (unownedText path) := by
  rw [unownedLine, tagged_eq, h]
  rfl

theorem runOwner_of_loadHere_error (file : Text) {e : Error} (h : w.loadHere workspace config = .error e) :
    ∃ report, Reports w.columns e.category report
      ∧ runOwner w file workspace config = .showing 1 report := by
  obtain ⟨report, hreport, hbegins⟩ := exists_reportLines_report w.columns e
  refine ⟨report, hbegins, ?_⟩
  rw [runOwner, resolveWorkspace_eq, h]
  simp only [Except.map, errorOutcome, hreport, ending]

theorem runOwner_of_unowned {loaded : Text × Resolution}
    (hload : w.loadHere workspace config = .ok loaded)
    (h : ∀ root, ¬w.FindsOwner file workspace config root) :
    runOwner w file workspace config = ending 1 (unownedLine w.columns file) := by
  rw [runOwner, resolveWorkspace_eq, hload]
  simp only [Except.map]
  cases howner : findOwner loaded.2.config.projects (absolutizePath file w.currentDirectory) with
  | none => rfl
  | some p => exact absurd ⟨loaded.1, loaded.2, p, hload, howner, rfl⟩ (h p.root)

/-- **How a run of `owner` ends.** Without the word for help, the words are
misunderstood and the exit code is 2; or a path among them holds U+0000; or they
ask for the owner of a file. In the last case the root of the project that owns the
file is shown, with exit code 0; or an error of loading or resolving is reported,
whatever its message holds, with exit code 1; or nobody owns the file, the exit code
is 1 unless the run breaks off, and the line about the file is shown. The line breaks
the run off only if the path has a tag, and does so if its first tag closes a style
that is not open. Reports and this line are put on the lines of the console; on one
that has room for the line the path is shown as it is exactly if it has no tag, no
bracket behind a backslash and no backslash at its end. -/
theorem run_owner_ends (hwords : NamesOwner words rest) (hhelp : "--help" ∉ rest) :
    (run w words = .misused ∧ ∀ file workspace config, ¬AsksOwner words file workspace config)
      ∨ (run w words = .crashed .nulInPath
          ∧ ∃ said, Spells Command.owner.forms rest said
            ∧ (pathsIn .owner said).any holdsNul = true)
      ∨ ∃ file workspace config, AsksOwner words file workspace config
          ∧ (∀ root, w.FindsOwner file workspace config root →
              run w words = .showing 0 (Terminal.withoutControls root ++ Text.ofString "\n"))
          ∧ (∀ e, w.loadHere workspace config = .error e →
              ∃ report, Reports w.columns e.category report ∧ (0 < w.columns → report ≠ [])
                ∧ run w words = .showing 1 report)
          ∧ (∀ loaded, w.loadHere workspace config = .ok loaded →
              (∀ root, ¬w.FindsOwner file workspace config root) →
                ∃ path : String, (Path.parse file).render = path
                  ∧ UnownedEnding w.columns path (run w words)) := by
  rcases ofArguments_owner hwords hhelp with hwrong | ⟨hnul, hsaid⟩ | ⟨file, workspace, config, hok⟩
  · refine .inl ⟨by simp only [run, hwrong], fun file workspace config hasks => ?_⟩
    cases hwrong.symm.trans (ofArguments_eq_owner_iff.mpr hasks)
  · exact .inr (.inl ⟨by simp only [run, hnul], hsaid⟩)
  · have hasks := ofArguments_eq_owner_iff.mp hok
    have hrun : run w words = runOwner w file workspace config := by
      rw [run, hok]
      rfl
    refine .inr (.inr ⟨file, workspace, config, hasks, fun root howns => ?_, fun e hload => ?_,
      fun loaded hload hnone => ?_⟩)
    · rw [hrun, runOwner_eq_showing howns]
    · obtain ⟨report, hreports, hends⟩ := runOwner_of_loadHere_error file hload
      exact ⟨report, hreports, hreports.ne_nil, hrun.trans hends⟩
    · obtain ⟨said, argument, -, -, rfl, -, -⟩ := hasks
      have hwritable := Path.writable_render_parse
        (Text.writable_iff_exists_eq.mpr ⟨argument, rfl⟩)
      obtain ⟨path, hpath⟩ := Text.writable_iff_exists_eq.mp hwritable
      refine ⟨path, hpath, ?_⟩
      rw [hrun, runOwner_of_unowned hload hnone, unownedLine_eq hpath]
      exact unownedEnding w.columns path

theorem loadHere_bareWorld :
    bareWorld.loadHere "." none = .ok ("/cwd", ⟨⟨[], [⟨"/cwd", none, none⟩]⟩, []⟩) :=
  loadHere_of_bare rfl rfl

theorem not_findsOwner_bareWorld {root : Text}
    (h : findOwner [⟨"/cwd", none, none⟩] (absolutizePath file bareWorld.currentDirectory) = none) :
    ¬bareWorld.FindsOwner file "." none root := by
  rintro ⟨base, r, p, hload, howner, -⟩
  obtain ⟨-, rfl⟩ := Prod.mk.inj (Except.ok.inj (loadHere_bareWorld.symm.trans hload))
  exact nomatch h.symm.trans howner

/-- Brackets that make no tag. -/
theorem run_owner_ends_capitals :
    "--help" ∉ ["/x/[ID]"]
      ∧ run bareWorld ["owner", "/x/[ID]"] = ⟨1, "No project owns /x/[ID]\n", none⟩ := by
  have hhelp : "--help" ∉ ["/x/[ID]"] := by decide
  have hok : Request.ofArguments ["owner", "/x/[ID]"] = .ok (.owner "/x/[ID]" "." none) := rfl
  refine ⟨hhelp, ?_⟩
  rcases run_owner_ends (w := bareWorld) (.inl rfl) hhelp with
    ⟨-, hnone⟩ | ⟨-, said, hsaid, hnul⟩ | ⟨file, workspace, config, hasks, -, -, hunowned⟩
  · exact absurd (ofArguments_eq_owner_iff.mp hok) (hnone _ _ _)
  · have hread : readWords Command.owner.forms ["/x/[ID]"] = some ⟨[], ["/x/[ID]"]⟩ := rfl
    obtain rfl := Option.some.inj
      (hread.symm.trans ((readWords_eq_some_iff (isLegible_forms .owner)).mpr hsaid))
    exact absurd hnul (by decide)
  · obtain ⟨rfl, rfl, rfl⟩ : "/x/[ID]" = file ∧ "." = workspace ∧ none = config := by
      simpa using hok.symm.trans (ofArguments_eq_owner_iff.mpr hasks)
    obtain ⟨path, hpath, hends⟩ := hunowned _ loadHere_bareWorld
      fun root => not_findsOwner_bareWorld (by decide +kernel)
    obtain rfl : path = "/x/[ID]" := Text.ofString_injective (hpath.symm.trans (by decide +kernel))
    exact hends.shown_of_fits (by decide) (by decide) ⟨by decide, by decide, by decide⟩
      (Terminal.not_namesPicture_of_not_mem (by decide))

/-- A file that is named like a closing tag breaks the run off. -/
theorem run_owner_crashes :
    AsksOwner ["owner", "/x[/b]"] "/x[/b]" "." none
      ∧ "--help" ∉ ["/x[/b]"]
      ∧ (Path.parse "/x[/b]").render = "/x[/b]"
      ∧ NoControls "/x[/b]"
      ∧ (∃ fault, run bareWorld ["owner", "/x[/b]"] = .crashed (.markup fault))
      ∧ (run bareWorld ["owner", "/x[/b]"]).output = "" := by
  have hpath : (Path.parse "/x[/b]").render = "/x[/b]" := by decide +kernel
  have hnone : ∀ root, ¬bareWorld.FindsOwner "/x[/b]" "." none root :=
    fun root => not_findsOwner_bareWorld (by decide +kernel)
  have hrun : run bareWorld ["owner", "/x[/b]"]
      = ending 1 (shownLine bareWorld.columns (unownedText "/x[/b]")) := by
    rw [← unownedLine_eq hpath, ← runOwner_of_unowned loadHere_bareWorld hnone]
    rfl
  obtain ⟨fault, hfault⟩ := (unownedEnding bareWorld.columns "/x[/b]").crashed "/x" "b" "" (by decide)
    ⟨.char '/', "b", rfl, by decide⟩ (by decide) (by decide) (by decide) (by decide) (by decide)
  refine ⟨ofArguments_eq_owner_iff.mp rfl, by decide, hpath, by decide,
    ⟨fault, hrun.trans hfault⟩, ?_⟩
  rw [hrun, hfault]
  rfl

end CommandLine

end Workspace
