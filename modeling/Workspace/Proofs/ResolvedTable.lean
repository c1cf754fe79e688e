/-
Workspace.Proofs.ResolvedTable — which paths the table of projects shows.

The cells of the table are the root and the two files of each project. They are
rendered, not escaped. If the tags of one of them cannot be followed, the run breaks
off; if all can, and the console has room for the table, each project has its row in
the order of the projects, which shows what the cells are rendered to
(`run_resolve_table`). So plain cells are shown as they are. Cells without a colon
and without other white space than the blank are shown as they are exactly if none
holds a tag or a bracket behind a backslash: the lines of a table have the brackets
and backslashes of what they show, and with a tag or an escaped bracket some are
missing (`not_isMarked_of_showsRows`).

On a console that has no room for the table its columns are made narrower, and a path
that is too long for its column is cut.
-/
import Workspace.Proofs.CommandAgreement
import Workspace.Proofs.JsonRoundTrip
import Workspace.Proofs.StyledMarkup
import Workspace.Proofs.TableRows

namespace Workspace.CommandLine

open Terminal (NoControls NamesPicture TakesLine printed)
open Terminal.Table (Fits Narrower ShowsRows)
open Terminal.Markup

variable {w : World} {words : List String} {workspace base : Text} {config : Option Text}
  {projects : List Project} {rows shown : List (List Text)} {r : Resolution} {columns : Nat}

/-! ## Rendered cells -/

/-- The cells of a project in the table. -/
def projectCells (p : Project) : List Text :=
  [p.root, partText p.package, partText p.tsconfig]

theorem forall_projectCells_iff {C : Text → Prop} {p : Project} :
    (∀ row ∈ [p].map projectCells, ∀ cell ∈ row, C cell) ↔
      C p.root ∧ C (partText p.package) ∧ C (partText p.tsconfig) := by
  simp [projectCells]

/-- Every cell of the rows is rendered to the one in its place. -/
def RendersTo (rows shown : List (List Text)) : Prop :=
  List.Forall₂ (List.Forall₂ fun cell s => render cell = .ok s) rows shown

theorem RendersTo.unique {shown' : List (List Text)} (h : RendersTo rows shown)
    (h' : RendersTo rows shown') : shown = shown' := by
  have hcell : Relator.RightUnique fun (cell s : Text) => render cell = .ok s :=
    fun _ _ _ hs hs' => Except.ok.inj (hs.symm.trans hs')
  exact hcell.forall₂.forall₂ h h'

theorem mapM_eq_ok_iff {α β ε : Type} {f : α → Except ε β} {as : List α} {bs : List β} :
    as.mapM f = .ok bs ↔ List.Forall₂ (fun a b => f a = .ok b) as bs := by
  induction as generalizing bs with
  | nil => cases bs <;> simp [pure, Except.pure]
  | cons a as ih =>
    simp only [List.mapM_cons, List.forall₂_cons_left_iff, bind_eq_ok_iff, ih, pure, Except.pure,
      Except.ok.injEq, eq_comm (a := _ :: _)]
    constructor
    · rintro ⟨b, hb, more, hmore, rfl⟩
      exact ⟨b, more, hb, hmore, rfl⟩
    · rintro ⟨b, more, hb, hmore, rfl⟩
      exact ⟨b, hb, more, hmore, rfl⟩

theorem exists_of_mapM_eq_error {α β ε : Type} {f : α → Except ε β} {as : List α} {e : ε}
    (h : as.mapM f = .error e) : ∃ a ∈ as, f a = .error e := by
  induction as with
  | nil => exact nomatch h
  | cons a as ih =>
    rw [List.mapM_cons, bind_eq_error_iff] at h
    rcases h with ha | ⟨b, -, hrest⟩
    · exact ⟨a, List.mem_cons_self, ha⟩
    · rcases bind_eq_error_iff.mp hrest with has | ⟨more, -, hpure⟩
      · obtain ⟨a', hmem, ha'⟩ := ih has
        exact ⟨a', List.mem_cons_of_mem _ hmem, ha'⟩
      · cases hpure

/-- The three columns side by side. -/
theorem rendersTo_zip {roots packages tsconfigs : List Text}
    (hroots : List.Forall₂ (fun (p : Project) s => render p.root = .ok s) projects roots)
    (hpackages : List.Forall₂ (fun p s => render (partText p.package) = .ok s) projects packages)
    (htsconfigs : List.Forall₂ (fun p s => render (partText p.tsconfig) = .ok s) projects
      tsconfigs) :
    RendersTo (projects.map projectCells) ((roots.zip (packages.zip tsconfigs)).map
      fun (root, package, tsconfig) => [root, package, tsconfig]) := by
  induction hroots generalizing packages tsconfigs with
  | nil => exact .nil
  | cons hroot _ ih =>
    cases hpackages with
    | cons hpackage hpackages =>
      cases htsconfigs with
      | cons htsconfig htsconfigs =>
        exact .cons (.cons hroot (.cons hpackage (.cons htsconfig .nil))) (ih hpackages htsconfigs)

/-- The table of projects. -/
def tableOf (rows : List (List Text)) : Terminal.Table :=
  ⟨"CoffeeSense projects", projectHeads, rows⟩

/-- Some cell cannot be rendered, or the table has the rendered cells. -/
theorem projectTable_cases (columns : Nat) (projects : List Project) :
    (∃ fault, projectTable columns projects = .error fault
        ∧ ∃ p ∈ projects, ∃ cell ∈ projectCells p, render cell = .error fault)
      ∨ ∃ shown, RendersTo (projects.map projectCells) shown
          ∧ projectTable columns projects = .ok ((tableOf shown).render columns) := by
  simp only [projectTable, bind, Except.bind]
  cases hroots : projects.mapM fun p => render p.root with
  | error fault =>
    obtain ⟨p, hp, hcell⟩ := exists_of_mapM_eq_error hroots
    exact .inl ⟨fault, rfl, p, hp, _, by simp [projectCells], hcell⟩
  | ok roots =>
    cases hpackages : projects.mapM fun p => render (partText p.package) with
    | error fault =>
      obtain ⟨p, hp, hcell⟩ := exists_of_mapM_eq_error hpackages
      exact .inl ⟨fault, rfl, p, hp, _, by simp [projectCells], hcell⟩
    | ok packages =>
      cases htsconfigs : projects.mapM fun p => render (partText p.tsconfig) with
      | error fault =>
        obtain ⟨p, hp, hcell⟩ := exists_of_mapM_eq_error htsconfigs
        exact .inl ⟨fault, rfl, p, hp, _, by simp [projectCells], hcell⟩
      | ok tsconfigs =>
        exact .inr ⟨_, rendersTo_zip (mapM_eq_ok_iff.mp hroots) (mapM_eq_ok_iff.mp hpackages)
          (mapM_eq_ok_iff.mp htsconfigs), rfl⟩

theorem projectTable_eq_ok (h : RendersTo (projects.map projectCells) shown) :
    projectTable columns projects = .ok ((tableOf shown).render columns) := by
  rcases projectTable_cases columns projects with ⟨fault, -, p, hp, cell, hcell, hfault⟩
    | ⟨shown', hshown, htable⟩
  · obtain ⟨row, -, hrow⟩ := Terminal.Table.exists_mem_of_forall₂ h (List.mem_map_of_mem hp)
    obtain ⟨s, -, hs⟩ := Terminal.Table.exists_mem_of_forall₂ hrow hcell
    exact nomatch hfault.symm.trans hs
  · rw [htable, hshown.unique h]

/-! ## The line that counts the settings -/

theorem not_mem_digits {c : Char} (hsign : c ≠ '-') (hdigit : Json.isDigit c = false) (n : Int) :
    .char c ∉ Text.ofString (Decimal.intText n) := by
  intro h
  obtain ⟨c', hc', heq⟩ := List.mem_map.mp h
  obtain rfl := CodePoint.char.inj heq
  exact Json.not_mem_intText hsign hdigit n hc'

/-- The number of settings and what stands around it. -/
def settingsCount (n : Int) : Text :=
  " " ++ Decimal.intText n ++ " override(s)"

/-- What stands behind the table, unless there are no settings. -/
def settingsText (columns : Nat) (settings : Settings) : Text :=
  match settings with
  | [] => []
  | _ => printed columns ("Settings:" ++ settingsCount settings.length)

theorem not_mem_settingsCount {c : Char} (hsign : c ≠ '-') (hdigit : Json.isDigit c = false)
    (htext : .char c ∉ Text.ofString "  override(s)") (n : Int) : .char c ∉ settingsCount n := by
  have hbefore : Text.ofString "  override(s)" = Text.ofString " " ++ " override(s)" := by decide
  rw [hbefore, List.mem_append, not_or] at htext
  simp only [settingsCount, List.mem_append, not_or]
  exact ⟨⟨htext.1, not_mem_digits hsign hdigit n⟩, htext.2⟩

theorem isPlain_settingsCount (n : Int) : IsPlain (settingsCount n) where
  noTag := not_hasTag_of_not_mem (not_mem_settingsCount (by decide) (by decide) (by decide) n)
  noEscape h := not_mem_settingsCount (by decide) (by decide) (by decide) n
    (h.subset List.mem_cons_self : .char '\\' ∈ settingsCount n)
  noPicture := Terminal.not_namesPicture_of_not_mem
    (not_mem_settingsCount (by decide) (by decide) (by decide) n)
  noHidden p hp := by
    by_contra hhidden
    cases p with
    | surrogate i => exact hhidden rfl
    | char c =>
      have hhidden : isHidden c = true := by simpa [CodePoint.satisfies] using hhidden
      simp only [isHidden, Bool.or_eq_true, decide_eq_true_eq] at hhidden
      rcases hhidden with (((rfl | rfl) | rfl) | rfl) | rfl <;>
        exact not_mem_settingsCount (by decide) (by decide) (by decide) n hp

theorem settingsLine_eq (columns : Nat) (settings : Settings) :
    settingsLine columns settings = .ok (settingsText columns settings) := by
  cases settings with
  | nil => rfl
  | cons s rest =>
    simp only [settingsLine, settingsText]
    generalize (List.length (s :: rest) : Int) = n
    have hrender : render (tagged "dim" "Settings:" ++ settingsCount n)
        = .ok ("Settings:" ++ settingsCount n) := by
      have htitle : shownText "Settings:" = "Settings:" := by decide
      rw [tagged_eq, render, renderParts_tagged [] isStyle_dim (by decide) (by decide), htitle]
      exact congrArg _ (render_of_isPlain (isPlain_settingsCount n))
    have htext : tagged "dim" "Settings:" ++ " " ++ Text.ofString (Decimal.intText n)
        ++ " override(s)" = tagged "dim" "Settings:" ++ settingsCount n := by
      simp only [settingsCount, List.append_assoc]
    rw [htext, shownLine_of_render columns hrender]

theorem bar_not_mem_settingsText (columns : Nat) (settings : Settings) :
    .char '│' ∉ settingsText columns settings := by
  unfold settingsText
  split
  · exact List.not_mem_nil
  · intro h
    rcases Terminal.mem_of_mem_printed h with h | h | h | h
    · rcases List.mem_append.mp h with h | h
      · exact absurd h (by decide)
      · exact not_mem_settingsCount (by decide) (by decide) (by decide) _ h
    all_goals exact absurd h (by decide)

theorem writable_settingsText (columns : Nat) (settings : Settings) :
    (settingsText columns settings).Writable := by
  unfold settingsText
  split
  · exact nofun
  · refine Terminal.writable_printed columns (Text.writable_iff_exists_eq.mpr
      ⟨"Settings:" ++ (" " ++ Decimal.intText settings.length ++ " override(s)"), ?_⟩)
    simp only [settingsCount, Text.ofString_append]

/-! ## The table of a run -/

theorem takesLines_tableOf (h : RendersTo (projects.map projectCells) shown)
    (hcells : ∀ row ∈ shown, ∀ cell ∈ row, TakesLine cell) : (tableOf shown).TakesLines where
  sameLength row hrow := by
    obtain ⟨cells, hcells, hrendered⟩ :=
      Terminal.Table.exists_mem_of_forall₂ (List.Forall₂.flip h) hrow
    obtain ⟨p, -, rfl⟩ := List.mem_map.mp hcells
    exact (List.Forall₂.length_eq hrendered).symm
  takesLine := by
    refine List.forall_mem_cons.mpr ⟨?_, hcells⟩
    simp only [tableOf, projectHeads, List.forall_mem_cons]
    exact ⟨⟨by decide, by decide, by decide⟩, ⟨by decide, by decide, by decide⟩,
      ⟨by decide, by decide, by decide⟩, nofun⟩

theorem run_of_asksResolve (hasks : AsksResolve words workspace config false)
    (hload : w.loadHere workspace config = .ok (base, r)) :
    run w words = tableOutcome w.columns r.config := by
  rw [run, ofArguments_eq_resolve_iff.mpr hasks]
  simp only [Request.run, runResolve, resolveWorkspace_eq, hload, Except.map, Bool.false_eq_true,
    if_false]

theorem tableOutcome_of_rendersTo {resolved : FullConfig} (hcolumns : 0 < columns)
    (h : RendersTo (resolved.projects.map projectCells) shown) :
    tableOutcome columns resolved
      = .showing 0 ((tableOf shown).render columns ++ settingsText columns resolved.settings) := by
  simp only [tableOutcome, if_neg hcolumns.ne', projectTable_eq_ok h, settingsLine_eq, bind,
    Except.bind, pure, Except.pure]
  rfl

theorem showsRows_tableOf (h : RendersTo (projects.map projectCells) shown)
    (hcells : ∀ row ∈ shown, ∀ cell ∈ row, TakesLine cell) (hfits : Fits columns (tableOf shown))
    (settings : Settings) :
    ShowsRows shown ((tableOf shown).render columns ++ settingsText columns settings) :=
  have htitle : .char '│' ∉ Text.ofString "CoffeeSense projects" := by decide
  Terminal.Table.showsRows_render (takesLines_tableOf h hcells) hfits htitle
    (bar_not_mem_settingsText columns settings)

theorem writable_tableOf (h : RendersTo (projects.map projectCells) shown)
    (hcells : ∀ row ∈ shown, ∀ cell ∈ row, TakesLine cell) (hfits : Fits columns (tableOf shown))
    (hwritable : ∀ row ∈ shown, ∀ cell ∈ row, cell.Writable) (settings : Settings) :
    ((tableOf shown).render columns ++ settingsText columns settings).Writable := by
  refine Text.Writable.append ?_ (writable_settingsText columns settings)
  refine Terminal.Table.writable_render (takesLines_tableOf h hcells) hfits
    (Text.writable_iff_exists_eq.mpr ⟨_, rfl⟩) (List.forall_mem_cons.mpr ⟨?_, hwritable⟩)
  simp only [tableOf, projectHeads, List.forall_mem_cons]
  exact ⟨Text.writable_iff_exists_eq.mpr ⟨_, rfl⟩, Text.writable_iff_exists_eq.mpr ⟨_, rfl⟩,
    Text.writable_iff_exists_eq.mpr ⟨_, rfl⟩, nofun⟩

/-! ## Cells that are not shown as they are -/

/-- Something of the cell is taken for markup. -/
def IsMarked (cell : Text) : Prop :=
  HasTag cell ∨ escapedBracket <:+: cell

theorem marks_flatten_of_rendered {cells more : List Text}
    (h : List.Forall₂ (fun cell s => render cell = .ok s) cells more)
    (hcolon : ∀ cell ∈ cells, .char ':' ∉ cell) :
    marks more.flatten ≤ marks cells.flatten
      ∧ ((∃ cell ∈ cells, IsMarked cell) → marks more.flatten < marks cells.flatten) := by
  induction h with
  | nil => exact ⟨le_rfl, fun ⟨_, hmem, _⟩ => absurd hmem List.not_mem_nil⟩
  | @cons cell s cells more hcell _ ih =>
    obtain ⟨hfree, hrest⟩ := List.forall_mem_cons.mp hcolon
    obtain ⟨hle, hlt⟩ := ih hrest
    have hshown := marks_le_of_sublist (sublist_of_render hfree hcell)
    simp only [List.flatten_cons, marks_append]
    refine ⟨by omega, ?_⟩
    rintro ⟨marked, hmem, hmarked⟩
    rcases List.mem_cons.mp hmem with rfl | hmem
    · have hless := marks_lt_of_render hfree hcell hmarked
      omega
    · have hless := hlt ⟨marked, hmem, hmarked⟩
      omega

/-- Output that shows what cells are rendered to does not show the cells if one of
them is marked. -/
theorem not_isMarked_of_showsRows {output : Text} (h : RendersTo rows shown)
    (hcolon : ∀ row ∈ rows, ∀ cell ∈ row, .char ':' ∉ cell) (hshown : ShowsRows shown output)
    (hrows : ShowsRows rows output) : ∀ row ∈ rows, ∀ cell ∈ row, ¬IsMarked cell := by
  have hmarks : rows.map (fun row => marks row.flatten) = shown.map fun row => marks row.flatten :=
    hrows.marks_eq.trans hshown.marks_eq.symm
  clear hshown hrows
  induction h with
  | nil => exact nofun
  | cons hrow _ ih =>
    obtain ⟨hfirst, hrest⟩ := List.cons.inj hmarks
    obtain ⟨hfree, hfrees⟩ := List.forall_mem_cons.mp hcolon
    refine List.forall_mem_cons.mpr ⟨fun cell hmem hmarked => ?_, ih hfrees hrest⟩
    have hless := (marks_flatten_of_rendered hrow hfree).2 ⟨cell, hmem, hmarked⟩
    exact hless.ne hfirst.symm

/-- The cell has no control characters, no colon, no surrogates, and no white space
but the blank. -/
structure IsOrdinary (cell : Text) : Prop where
  writable : cell.Writable
  noControls : NoControls cell
  noColon : .char ':' ∉ cell
  blanks : ∀ p ∈ cell, Text.isBlankPoint p = true → p = .char ' '

theorem IsOrdinary.of_subset {cell s : Text} (h : IsOrdinary cell) (hsub : s ⊆ cell) :
    IsOrdinary s where
  writable := h.writable.of_subset hsub
  noControls := h.noControls.of_subset hsub
  noColon hmem := h.noColon (hsub hmem)
  blanks p hp := h.blanks p (hsub hp)

theorem isBlankPoint_of_endsLine {p : CodePoint}
    (h : p.satisfies Terminal.Table.endsLine = true) : Text.isBlankPoint p = true := by
  cases p with
  | surrogate i => exact nomatch h
  | char c =>
    simp only [CodePoint.satisfies, Terminal.Table.endsLine, Text.isBlankPoint, Text.isBlankChar,
      Bool.or_eq_true, Bool.and_eq_true, decide_eq_true_eq] at h ⊢
    omega

theorem IsOrdinary.takesLine {cell : Text} (h : IsOrdinary cell) : TakesLine cell where
  noBreak p hp := by
    by_contra hbreak
    have hbreak : p.satisfies Terminal.Table.endsLine = true := by simpa using hbreak
    obtain rfl := h.blanks p hp (isBlankPoint_of_endsLine hbreak)
    exact absurd hbreak (by decide)
  noTab := h.noControls.not_mem (by decide)
  blankEnd p hp := by
    refine h.blanks p ?_ (List.mem_takeWhile_imp hp)
    exact List.mem_reverse.mp ((List.takeWhile_sublist _).subset hp)

/-! ## The end of a run -/

/-- How a run ends that shows a table with these cells on a console of `columns`. -/
structure TableEnding (columns : Nat) (rows : List (List Text)) (o : Outcome) : Prop where
  /-- A cell with tags that cannot be followed. -/
  crashed : 0 < columns → (∃ row ∈ rows, ∃ cell ∈ row, ∃ fault, render cell = .error fault) →
    ∃ row ∈ rows, ∃ cell ∈ row, ∃ fault, render cell = .error fault ∧ o = .crashed (.markup fault)
  /-- With room for it, the table shows what the cells are rendered to. -/
  rendered : ∀ shown, RendersTo rows shown → (∀ row ∈ shown, ∀ cell ∈ row, TakesLine cell) →
    Fits columns (tableOf shown) →
    ∃ output, o = .showing 0 output ∧ ShowsRows shown output
      ∧ (output.Writable ↔ ∀ row ∈ shown, ∀ cell ∈ row, cell.Writable)
  plain : (∀ row ∈ rows, ∀ cell ∈ row, IsPlain cell ∧ TakesLine cell ∧ cell.Writable) →
    Fits columns (tableOf rows) → ∃ output : String, o = .finished output ∧ ShowsRows rows output
  /-- Where no name of a picture can come about, nothing else is shown as it is. -/
  shown_iff : (∀ row ∈ rows, ∀ cell ∈ row, IsOrdinary cell) → Fits columns (tableOf rows) →
    ((∃ output : String, o = .finished output ∧ ShowsRows rows output) ↔
      ∀ row ∈ rows, ∀ cell ∈ row, ¬HasTag cell ∧ ¬escapedBracket <:+: cell)

theorem isOrdinary_ofString {s : String} (hcontrols : NoControls s)
    (hcolon : .char ':' ∉ Text.ofString s)
    (hblanks : ∀ p ∈ Text.ofString s, Text.isBlankPoint p = true → p = .char ' ') : IsOrdinary s :=
  ⟨Text.writable_iff_exists_eq.mpr ⟨s, rfl⟩, hcontrols, hcolon, hblanks⟩

theorem isOrdinary_hyphen : IsOrdinary "-" :=
  isOrdinary_ofString (by decide) (by decide) (by decide)

theorem rendersTo_self
    (h : ∀ row ∈ rows, ∀ cell ∈ row, render cell = .ok cell) : RendersTo rows rows :=
  List.forall₂_same.mpr fun row hrow => List.forall₂_same.mpr (h row hrow)

/-- What ordinary cells are rendered to is ordinary. -/
theorem RendersTo.isOrdinary (h : RendersTo rows shown)
    (hcells : ∀ row ∈ rows, ∀ cell ∈ row, IsOrdinary cell) :
    ∀ row ∈ shown, ∀ cell ∈ row, IsOrdinary cell := by
  intro row hrow s hs
  obtain ⟨cells, hcellsMem, hrendered⟩ := Terminal.Table.exists_mem_of_forall₂ h.flip hrow
  obtain ⟨cell, hcell, hrender⟩ := Terminal.Table.exists_mem_of_forall₂ hrendered.flip hs
  have hordinary := hcells cells hcellsMem cell hcell
  exact hordinary.of_subset (sublist_of_render hordinary.noColon hrender).subset

theorem IsOrdinary.isPlain {cell : Text} (h : IsOrdinary cell) (htag : ¬HasTag cell)
    (hescape : ¬escapedBracket <:+: cell) : IsPlain cell :=
  ⟨htag, hescape, Terminal.not_namesPicture_of_not_mem h.noColon,
    not_hidden_of_noControls h.noControls⟩

/-- What ordinary cells are rendered to takes no more room. -/
theorem RendersTo.narrower (h : RendersTo rows shown)
    (hcells : ∀ row ∈ rows, ∀ cell ∈ row, IsOrdinary cell) : Narrower shown rows := by
  refine List.Forall₂.flip ?_
  induction h with
  | nil => exact .nil
  | cons hrow _ ih =>
    obtain ⟨hfirst, hrest⟩ := List.forall_mem_cons.mp hcells
    refine .cons ?_ (ih hrest)
    clear ih hcells hrest
    induction hrow with
    | nil => exact .nil
    | @cons cell s _ _ hcell _ ih =>
      obtain ⟨hordinary, hothers⟩ := List.forall_mem_cons.mp hfirst
      refine .cons ?_ (ih hothers)
      have hsub := sublist_of_render hordinary.noColon hcell
      rw [Terminal.cellWidth_of_takesLine hordinary.takesLine,
        Terminal.cellWidth_of_takesLine (hordinary.of_subset hsub.subset).takesLine]
      exact Terminal.width_le_of_sublist hsub

theorem exists_finished_of_rendersTo {resolved : FullConfig}
    (h : RendersTo (resolved.projects.map projectCells) shown)
    (hlines : ∀ row ∈ shown, ∀ cell ∈ row, TakesLine cell) (hfits : Fits columns (tableOf shown))
    (hwritable : ∀ row ∈ shown, ∀ cell ∈ row, cell.Writable) :
    ∃ output : String, tableOutcome columns resolved = .finished output
      ∧ ShowsRows shown output := by
  obtain ⟨output, houtput⟩ := Text.writable_iff_exists_eq.mp
    (writable_tableOf h hlines hfits hwritable resolved.settings)
  refine ⟨output, ?_, ?_⟩
  · rw [tableOutcome_of_rendersTo hfits.columns_pos h, houtput, showing_ofString]
    rfl
  · rw [← houtput]
    exact showsRows_tableOf h hlines hfits resolved.settings

theorem exists_finished_of_plain {resolved : FullConfig}
    (hcells : ∀ row ∈ resolved.projects.map projectCells, ∀ cell ∈ row,
      IsPlain cell ∧ TakesLine cell ∧ cell.Writable)
    (hfits : Fits columns (tableOf (resolved.projects.map projectCells))) :
    ∃ output : String, tableOutcome columns resolved = .finished output
      ∧ ShowsRows (resolved.projects.map projectCells) output := by
  have hrenders := rendersTo_self fun row hrow cell hcell =>
    render_of_isPlain (hcells row hrow cell hcell).1
  exact exists_finished_of_rendersTo hrenders
    (fun row hrow cell hcell => (hcells row hrow cell hcell).2.1) hfits
    fun row hrow cell hcell => (hcells row hrow cell hcell).2.2

/-- A table that is shown, shows its ordinary cells only if none of them is marked. -/
theorem not_isMarked_of_finished {resolved : FullConfig}
    (hcells : ∀ row ∈ resolved.projects.map projectCells, ∀ cell ∈ row, IsOrdinary cell)
    (hfits : Fits columns (tableOf (resolved.projects.map projectCells)))
    {output : String} (houtput : tableOutcome columns resolved = .finished output)
    (hrows : ShowsRows (resolved.projects.map projectCells) output) :
    ∀ row ∈ resolved.projects.map projectCells, ∀ cell ∈ row, ¬IsMarked cell := by
  rcases projectTable_cases columns resolved.projects with ⟨fault, htable, -⟩ | ⟨shown, hshown, -⟩
  · rw [tableOutcome, if_neg hfits.columns_pos.ne', htable] at houtput
    exact nomatch houtput
  · have hordinary := hshown.isOrdinary hcells
    obtain ⟨output', houtput', hshownRows⟩ := exists_finished_of_rendersTo hshown
      (fun row hrow cell hcell => (hordinary row hrow cell hcell).takesLine)
      (hfits.of_narrower (hshown.narrower hcells))
      fun row hrow cell hcell => (hordinary row hrow cell hcell).writable
    obtain rfl : output = output' := congrArg Outcome.output (houtput.symm.trans houtput')
    exact not_isMarked_of_showsRows hshown
      (fun row hrow cell hcell => (hcells row hrow cell hcell).noColon) hshownRows hrows

theorem tableEnding (columns : Nat) (resolved : FullConfig) :
    TableEnding columns (resolved.projects.map projectCells) (tableOutcome columns resolved) where
  crashed hcolumns := by
    rintro ⟨row, hrow, cell, hcell, fault, hfault⟩
    rcases projectTable_cases columns resolved.projects with
      ⟨first, htable, p, hp, broken, hbroken, hfirst⟩ | ⟨shown, hshown, -⟩
    · refine ⟨_, List.mem_map_of_mem hp, broken, hbroken, first, hfirst, ?_⟩
      rw [tableOutcome, if_neg hcolumns.ne', htable]
      rfl
    · obtain ⟨more, -, hmore⟩ := Terminal.Table.exists_mem_of_forall₂ hshown hrow
      obtain ⟨s, -, hs⟩ := Terminal.Table.exists_mem_of_forall₂ hmore hcell
      exact nomatch hfault.symm.trans hs
  rendered shown hshown hlines hfits := by
    have hrows := showsRows_tableOf hshown hlines hfits resolved.settings
    exact ⟨_, tableOutcome_of_rendersTo hfits.columns_pos hshown, hrows, hrows.writable,
      fun hcells => writable_tableOf hshown hlines hfits hcells resolved.settings⟩
  plain := exists_finished_of_plain
  shown_iff hcells hfits := by
    constructor
    · rintro ⟨output, houtput, hrows⟩ row hrow cell hcell
      exact not_or.mp (not_isMarked_of_finished hcells hfits houtput hrows row hrow cell hcell)
    · intro hunmarked
      refine exists_finished_of_plain (fun row hrow cell hcell => ?_) hfits
      have hordinary := hcells row hrow cell hcell
      obtain ⟨htag, hescape⟩ := hunmarked row hrow cell hcell
      exact ⟨hordinary.isPlain htag hescape, hordinary.takesLine, hordinary.writable⟩

/-- A run of `resolve` that resolves shows the projects in a table, one row for each
in their order, unless the tags of a cell cannot be followed or the console has no
room for the table. The row of a project has the root, the package and the
configuration of the project, rendered. -/
theorem run_resolve_table (hasks : AsksResolve words workspace config false)
    (hload : w.loadHere workspace config = .ok (base, r)) :
    TableEnding w.columns (r.config.projects.map projectCells) (run w words) := by
  rw [run_of_asksResolve hasks hload]
  exact tableEnding w.columns r.config

/-- A workspace with brackets in its name that make no tag, on a console of the usual
width. -/
def bracketsWorld : World where
  disk := {
    files := [("/ws/[ID]/package.json", .empty)]
    directories := []
    faults := [] }
  currentDirectory := "/ws"
  environment := []
  envFile := none
  columns := 80

theorem run_resolve_table_bracketsWorld :
    AsksResolve ["resolve", "[ID]"] "[ID]" none false
      ∧ bracketsWorld.loadHere "[ID]" none = .ok ("/ws/[ID]",
          ⟨⟨[], [⟨"/ws/[ID]", some "/ws/[ID]/package.json", none⟩]⟩, []⟩)
      ∧ ∃ output : String, run bracketsWorld ["resolve", "[ID]"] = .finished output
          ∧ ShowsRows [["/ws/[ID]", "/ws/[ID]/package.json", "-"]] output := by
  have hasks : AsksResolve ["resolve", "[ID]"] "[ID]" none false :=
    ofArguments_eq_resolve_iff.mp rfl
  have hload : bracketsWorld.loadHere "[ID]" none = .ok ("/ws/[ID]",
      ⟨⟨[], [⟨"/ws/[ID]", some "/ws/[ID]/package.json", none⟩]⟩, []⟩) := loadHere_of_bare rfl rfl
  have hroot : IsOrdinary "/ws/[ID]" := isOrdinary_ofString (by decide) (by decide) (by decide)
  have hpackage : IsOrdinary "/ws/[ID]/package.json" :=
    isOrdinary_ofString (by decide) (by decide) (by decide)
  refine ⟨hasks, hload, ((run_resolve_table hasks hload).shown_iff ?_ (by decide)).mpr ?_⟩
  · exact forall_projectCells_iff.mpr ⟨hroot, hpackage, isOrdinary_hyphen⟩
  · exact forall_projectCells_iff.mpr ⟨by decide, by decide, by decide⟩

/-- A workspace that is named like a tag is shown without it. -/
theorem not_showsRows_bareWorld :
    AsksResolve ["resolve", "/ws/[b]"] "/ws/[b]" none false
      ∧ bareWorld.loadHere "/ws/[b]" none
          = .ok ("/ws/[b]", ⟨⟨[], [⟨"/ws/[b]", none, none⟩]⟩, []⟩)
      ∧ NoControls "/ws/[b]"
      ∧ (∃ output : String, run bareWorld ["resolve", "/ws/[b]"] = .finished output
          ∧ ShowsRows [["/ws/", "-", "-"]] output)
      ∧ ¬∃ output : String, run bareWorld ["resolve", "/ws/[b]"] = .finished output
          ∧ ShowsRows [["/ws/[b]", "-", "-"]] output := by
  have hasks : AsksResolve ["resolve", "/ws/[b]"] "/ws/[b]" none false :=
    ofArguments_eq_resolve_iff.mp rfl
  have hload : bareWorld.loadHere "/ws/[b]" none
      = .ok ("/ws/[b]", ⟨⟨[], [⟨"/ws/[b]", none, none⟩]⟩, []⟩) := loadHere_of_bare rfl rfl
  have hroot : IsOrdinary "/ws/[b]" := isOrdinary_ofString (by decide) (by decide) (by decide)
  have hcells : ∀ row ∈ [(⟨"/ws/[b]", none, none⟩ : Project)].map projectCells, ∀ cell ∈ row,
      IsOrdinary cell :=
    forall_projectCells_iff.mpr ⟨hroot, isOrdinary_hyphen, isOrdinary_hyphen⟩
  have hrenders : RendersTo ([(⟨"/ws/[b]", none, none⟩ : Project)].map projectCells)
      [["/ws/", "-", "-"]] :=
    .cons (.cons (by decide +kernel) (.cons (by decide +kernel) (.cons (by decide +kernel) .nil)))
      .nil
  have hshown := hrenders.isOrdinary hcells
  have hrun := run_of_asksResolve hasks hload
  refine ⟨hasks, hload, by decide, ?_, ?_⟩
  · rw [hrun]
    exact exists_finished_of_rendersTo hrenders
      (fun row hrow cell hcell => (hshown row hrow cell hcell).takesLine) (by decide)
      fun row hrow cell hcell => (hshown row hrow cell hcell).writable
  · rintro ⟨output, houtput, hrows⟩
    have hunmarked := not_isMarked_of_finished hcells (by decide) (hrun.symm.trans houtput) hrows
    exact hunmarked _ List.mem_cons_self "/ws/[b]" List.mem_cons_self (.inl (by decide))

end Workspace.CommandLine
