/-
Workspace.Proofs.StyledMarkup — a text between the tags of a style.

The tags open and close a style that is its own normal form (`IsStyle`); with
no tag in the text and no backslash at its end they are taken out, and the text
is shown as if it stood alone (`render_tagged`).

Otherwise the text is not shown as it is. A backslash at its end turns the closing
tag into text, and a tag in it is lost besides the closing one, so brackets or
backslashes are missing (`marks_lt_of_render_tagged`). If its first tag closes a
style of another name, there is nothing to close and nothing is shown at all
(`exists_fault_of_unopened`).
-/
import Workspace.CommandLine
import Workspace.Proofs.ShownMarkup

namespace Workspace.Terminal.Markup

variable {t s inside style : Text} {opened : List Tag} {p : CodePoint}

/-! ## Styles that are their own normal form -/

/-- A tag of the style opens it under its own name, and a closing one closes it. -/
structure IsStyle (style : Text) : Prop where
  opening : IsInside style
  closing : IsInside (.char '/' :: style)
  opens : ∀ opened, applyTag (.ofInside style) opened = .ok (⟨style, none⟩ :: opened)
  closes : ∀ opened,
    applyTag (.ofInside (.char '/' :: style)) (⟨style, none⟩ :: opened) = .ok opened

theorem ofInside_of_not_mem (h : .char '=' ∉ inside) : Tag.ofInside inside = ⟨inside, none⟩ := by
  have hname : inside.takeWhile (fun p => decide (p ≠ .char '=')) = inside := by
    refine List.takeWhile_eq_self_iff.mpr fun p hp => ?_
    exact decide_eq_true fun heq : p = .char '=' => h (heq ▸ hp)
  simp only [Tag.ofInside, hname, List.drop_length]

theorem applyTag_of_head?_ne {tag : Tag} (h : tag.name.head? ≠ some (.char '/')) :
    applyTag tag opened = tag.opened.map (· :: opened) := by
  unfold applyTag
  split
  · next hname => simp [hname] at h
  · rfl

theorem close_of_parameters_none (name : Text) : Tag.close ⟨name, none⟩ = .ok () := by
  unfold Tag.close
  split
  · next h => exact nomatch h
  · rfl

/-- A code point of the name of a style that is written out. -/
def isStylePoint (p : CodePoint) : Bool :=
  p.satisfies fun c => ('a' ≤ c && c ≤ 'z') || c = ' '

theorem not_mem_of_isStylePoint {style : Text} {p : CodePoint}
    (hplain : ∀ p ∈ style, isStylePoint p = true) (hp : isStylePoint p = false) : p ∉ style :=
  fun hmem => Bool.false_ne_true (hp.symm.trans (hplain p hmem))

theorem isInside_cons {body : Text} (hp : p.satisfies beginsTag = true)
    (hplain : ∀ p ∈ body, isStylePoint p = true) : IsInside (p :: body) :=
  ⟨p, body, rfl, hp, not_mem_of_isStylePoint hplain (by decide),
    not_mem_of_isStylePoint hplain (by decide)⟩

theorem isStyle_of_normalForm {style : Text} {d : Option Style.Description}
    (hhead : style.head?.any (·.satisfies beginsTag) = true)
    (hplain : ∀ p ∈ style, isStylePoint p = true)
    (htrim : Text.trimBoth Text.isBlankPoint style = style)
    (hdescribed : Style.ofText? style = .ok d) (hnormal : Style.normalForm style = .ok style) :
    IsStyle style := by
  obtain ⟨p, body, rfl⟩ : ∃ p body, style = p :: body :=
    List.exists_cons_of_ne_nil fun h => by simp [h] at hhead
  have hp : p.satisfies beginsTag = true := by simpa using hhead
  have hequals : .char '=' ∉ p :: body := not_mem_of_isStylePoint hplain (by decide)
  have hslash : p ≠ .char '/' := by
    rintro rfl
    exact absurd (hplain _ List.mem_cons_self) (by decide)
  refine ⟨isInside_cons hp fun q hq => hplain q (List.mem_cons_of_mem p hq),
    isInside_cons (by decide) hplain, fun opened => ?_, fun opened => ?_⟩
  · rw [ofInside_of_not_mem hequals, applyTag_of_head?_ne (by simpa using hslash)]
    simp only [Tag.opened, hnormal, List.append_nil, hdescribed, Except.mapError, bind,
      Except.bind, pure, Except.pure, Except.map]
  · have hname : .char '=' ∉ .char '/' :: p :: body := by
      rw [List.mem_cons, not_or]
      exact ⟨by decide, hequals⟩
    rw [ofInside_of_not_mem hname]
    simp only [applyTag, htrim, reduceCtorEq, if_false, hnormal, Except.mapError, closeNamed,
      if_true, close_of_parameters_none, bind, Except.bind, pure, Except.pure]

/-- A word in lower case that says nothing about the words behind it. -/
def StandsAlone (word : Text) : Prop :=
  Text.lower word = word ∧ word ≠ "on" ∧ word ≠ "not" ∧ word ≠ "link"

instance (word : Text) : Decidable (StandsAlone word) :=
  inferInstanceAs (Decidable (_ ∧ _))

theorem describe_attribute {d : Style.Description} {word : Text} {rest : List Text} {a : String}
    (hword : StandsAlone word) (hattribute : word.toString?.bind Style.attribute? = some a) :
    Style.describe d (word :: rest)
      = Style.describe { d with attributes := (a, true) :: d.attributes } rest := by
  obtain ⟨hlower, hon, hnot, hlink⟩ := hword
  rw [Style.describe.eq_def]
  simp only [hlower, if_neg hon, if_neg hnot, if_neg hlink, hattribute]

theorem describe_color {d : Style.Description} {word : Text} {isColor : Bool}
    (hword : StandsAlone word) (hattribute : word.toString?.bind Style.attribute? = none)
    (hcolor : Style.isColor word = .ok isColor) :
    Style.describe d [word]
      = .ok (if isColor then some { d with color := some word } else none) := by
  obtain ⟨hlower, hon, hnot, hlink⟩ := hword
  simp only [Style.describe, hlower, if_neg hon, if_neg hnot, if_neg hlink, hattribute, hcolor,
    bind, Except.bind]
  split <;> rfl

theorem isColor_ofString {s : String} (h : Style.inParentheses? "rgb(" s.toList = none) :
    ∃ b, Style.isColor s = .ok b := by
  simp only [Style.isColor, Text.toString?_ofString, Style.isColorName, h]
  exact ⟨_, rfl⟩

/-- Whether the table of colours lists the name makes no difference. -/
theorem isStyle_yellow : IsStyle "yellow" := by
  obtain ⟨b, hcolor⟩ := isColor_ofString (s := "yellow") (by decide)
  have hdescribed : Style.ofText? "yellow"
      = .ok (if b then some ⟨[], some "yellow", none, none⟩ else none) := by
    have hwords : Style.wordsOf "yellow" = [("yellow" : Text)] := by decide
    rw [Style.ofText?, hwords, describe_color (by decide) (by decide) hcolor]
  refine isStyle_of_normalForm (by decide) (by decide) (by decide) hdescribed ?_
  cases b <;> simp only [Style.normalForm, hdescribed] <;> rfl

theorem isStyle_boldRed : IsStyle "bold red" := by
  obtain ⟨b, hcolor⟩ := isColor_ofString (s := "red") (by decide)
  have hdescribed : Style.ofText? "bold red"
      = .ok (if b then some ⟨[("bold", true)], some "red", none, none⟩ else none) := by
    have hwords : Style.wordsOf "bold red" = [("bold" : Text), ("red" : Text)] := by decide
    rw [Style.ofText?, hwords, describe_attribute (a := "bold") (by decide) (by decide),
      describe_color (by decide) (by decide) hcolor]
  refine isStyle_of_normalForm (by decide) (by decide) (by decide) hdescribed ?_
  cases b <;> simp only [Style.normalForm, hdescribed] <;> rfl

theorem isStyle_dim : IsStyle "dim" :=
  isStyle_of_normalForm (d := some ⟨[("dim", true)], none, none, none⟩) (by decide) (by decide)
    (by decide) rfl (by decide)

/-- The tags of a style around a text without tags are taken out. -/
theorem renderParts_tagged (opened : List Tag) {style : Text} (hstyle : IsStyle style)
    (htag : ¬HasTag t) (hlast : t.getLast? ≠ some (.char '\\')) (after : Text) :
    renderParts opened
        (parts (bracketed style ++ t ++ bracketed (.char '/' :: style) ++ after))
      = (renderParts opened (parts after)).map (shownText t ++ ·) := by
  rw [parts_between hstyle.opening hstyle.closing htag hlast]
  simp only [renderParts, hstyle.opens, bind, Except.bind, renderParts_textPart,
    hstyle.closes]

theorem render_tagged {style : Text} (hstyle : IsStyle style) (htag : ¬HasTag t)
    (hlast : t.getLast? ≠ some (.char '\\')) :
    render (bracketed style ++ t ++ bracketed (.char '/' :: style)) = .ok (shownText t) := by
  have hrender := renderParts_tagged [] hstyle htag hlast []
  rw [List.append_nil] at hrender
  rw [render, hrender]
  simp [parts_nil, renderParts, Except.map]

/-! ## Texts that are not shown as they are -/

theorem exists_trailing_slashes (h : t.getLast? = some (.char '\\')) :
    ∃ a count, t = a ++ slashText (count + 1) ∧ a.getLast? ≠ some (.char '\\') := by
  induction t using List.reverseRecOn with
  | nil => exact nomatch h
  | append_singleton rest p ih =>
    obtain rfl : p = .char '\\' := by simpa using h
    by_cases hrest : rest.getLast? = some (.char '\\')
    · obtain ⟨a, count, rfl, ha⟩ := ih hrest
      refine ⟨a, count + 1, ?_, ha⟩
      rw [List.append_assoc, slashText, slashText, ← List.replicate_succ']
    · exact ⟨rest, 0, rfl, hrest⟩

theorem exists_renderParts_tagParts {opened' : List Tag}
    (h : applyTag (.ofInside inside) opened = .ok opened') (count : Nat) :
    ∃ s, renderParts opened (tagParts count inside) = .ok s := by
  unfold tagParts
  split <;> split <;>
    simp [renderParts, h, bind, Except.bind, pure, Except.pure]

/-- Without a tag in the text the tags around it can be followed. -/
theorem exists_render_tagged (hstyle : IsStyle style) (htag : ¬HasTag t) :
    ∃ s, render (bracketed style ++ t ++ bracketed (.char '/' :: style)) = .ok s := by
  by_cases hlast : t.getLast? = some (.char '\\')
  · obtain ⟨a, count, rfl, ha⟩ := exists_trailing_slashes hlast
    have htag : ¬HasTag a := fun h => htag (h.mono (List.prefix_append a _).isInfix)
    have hparts := parts_first_tag hstyle.closing htag ha (count + 1) []
    rw [parts_nil, List.append_nil, List.append_nil] at hparts
    obtain ⟨s, hs⟩ := exists_renderParts_tagParts (hstyle.closes []) (count + 1)
    refine ⟨shownText a ++ s, ?_⟩
    rw [List.append_assoc, List.append_assoc, render, parts_bracketed hstyle.opening, hparts]
    simp only [renderParts, hstyle.opens, renderParts_textPart, hs, bind, Except.bind, Except.map]
  · exact ⟨_, render_tagged hstyle htag hlast⟩

/-- A tag behind a tag, or behind a backslash, is lost together with it. -/
theorem marks_source_lt_of_tag_behind {closing : Text} (hclosing : IsInside closing)
    (hmarks : marks closing = 0) (h : HasTag t ∨ t.getLast? = some (.char '\\')) :
    marks ((parts (t ++ bracketed closing)).flatMap Part.source) < marks t := by
  by_cases htag : HasTag t
  · obtain ⟨a, count, inside, b, rfl, hinside, ha, hlast⟩ := exists_first_tag htag
    have hbehind : HasTag (b ++ bracketed closing) :=
      ⟨closing, hclosing, (List.suffix_append b _).isInfix⟩
    have hlost := marks_source_tagParts count inside
    have hrest := (cut_parts (b ++ bracketed closing)).marks_source_lt hbehind
    rw [List.append_assoc, List.append_assoc (slashText count ++ bracketed inside),
      parts_first_tag hinside ha hlast]
    simp only [List.flatMap_append, flatMap_source_textPart, List.reverse_reverse, List.reverse_nil,
      List.nil_append, marks_append, marks_bracketed, hmarks] at hlost hrest ⊢
    omega
  · obtain ⟨a, count, rfl, hlast⟩ := exists_trailing_slashes (h.resolve_left htag)
    have ha : ¬HasTag a := fun h => htag (h.mono (List.prefix_append a _).isInfix)
    have hparts := parts_first_tag hclosing ha hlast (count + 1) []
    have hlost := marks_source_tagParts (count + 1) closing
    rw [List.append_nil, ← List.append_assoc] at hparts
    rw [hparts]
    simp only [List.flatMap_append, flatMap_source_textPart, List.reverse_reverse, marks_append,
      marks_bracketed, marks_slashText, hmarks, parts_nil, List.flatMap_nil, marks_nil] at hlost ⊢
    omega

theorem marks_lt_of_render_tagged (hstyle : IsStyle style) (hmarks : marks (.char '/' :: style) = 0)
    (hname : .char ':' ∉ style) (hcolon : .char ':' ∉ t)
    (h : render (bracketed style ++ t ++ bracketed (.char '/' :: style)) = .ok s)
    (hmark : HasTag t ∨ escapedBracket <:+: t ∨ t.getLast? = some (.char '\\')) :
    marks s < marks t := by
  by_cases hbehind : HasTag t ∨ t.getLast? = some (.char '\\')
  · have hfree : .char ':' ∉ (parts (t ++ bracketed (.char '/' :: style))).flatMap Part.source := by
      intro hmem
      have hmem := (cut_parts _).source_sublist.subset hmem
      simp [bracketed_eq, hcolon, hname] at hmem
    have hs := eq_flatMap_of_renderParts h
    rw [List.append_assoc, parts_bracketed hstyle.opening] at hs
    rw [hs]
    exact (marks_le_of_sublist (shown_sublist_source _ hfree)).trans_lt
      (marks_source_lt_of_tag_behind hstyle.closing hmarks hbehind)
  · obtain ⟨htag, hlast⟩ := not_or.mp hbehind
    obtain rfl := Except.ok.inj ((render_tagged hstyle htag hlast).symm.trans h)
    have hescape : escapedBracket <:+: t := by tauto
    exact (marks_le_of_sublist (shownText_sublist_unescapeBrackets hcolon)).trans_lt
      (marks_unescapeBrackets_lt hescape)

/-- A text without a colon and without characters that are never shown is shown as
it is between the tags of a style exactly if it holds no tag and no bracket behind
a backslash, and does not end in a backslash. -/
theorem render_tagged_eq_self_iff (hstyle : IsStyle style)
    (hmarks : marks (.char '/' :: style) = 0) (hname : .char ':' ∉ style) (hcolon : .char ':' ∉ t)
    (hhidden : ∀ p ∈ t, p.satisfies isHidden = false) :
    render (bracketed style ++ t ++ bracketed (.char '/' :: style)) = .ok t ↔
      ¬HasTag t ∧ ¬escapedBracket <:+: t ∧ t.getLast? ≠ some (.char '\\') := by
  constructor
  · intro h
    have hmark : ¬(HasTag t ∨ escapedBracket <:+: t ∨ t.getLast? = some (.char '\\')) :=
      fun hmark => lt_irrefl _ (marks_lt_of_render_tagged hstyle hmarks hname hcolon h hmark)
    simpa only [not_or] using hmark
  · rintro ⟨htag, hescape, hlast⟩
    rw [render_tagged hstyle htag hlast, shownText_of_isPlain
      ⟨htag, hescape, not_namesPicture_of_not_mem hcolon, hhidden⟩]

/-- A style of another name cannot be closed. -/
theorem exists_fault_of_unopened {name a b : Text} (hstyle : IsStyle style)
    (hinside : IsInside (.char '/' :: name)) (hplain : .char '=' ∉ name)
    (hname : Text.trimBoth Text.isBlankPoint name ≠ [])
    (hother : Style.normalForm (Text.trimBoth Text.isBlankPoint name) ≠ .ok style)
    (ha : ¬HasTag a) (hlast : a.getLast? ≠ some (.char '\\')) :
    ∃ fault, render (bracketed style ++ (a ++ bracketed (.char '/' :: name) ++ b)
      ++ bracketed (.char '/' :: style)) = .error fault := by
  have htext : bracketed style ++ (a ++ bracketed (.char '/' :: name) ++ b)
        ++ bracketed (.char '/' :: style)
      = bracketed style ++ a ++ bracketed (.char '/' :: name)
        ++ (b ++ bracketed (.char '/' :: style)) := by
    simp only [List.append_assoc]
  have hclosing : Tag.ofInside (.char '/' :: name) = ⟨.char '/' :: name, none⟩ :=
    ofInside_of_not_mem (by simpa using hplain)
  have happly : ∃ fault, applyTag (.ofInside (.char '/' :: name)) [⟨style, none⟩]
      = .error fault := by
    simp only [hclosing, applyTag, if_neg hname]
    cases hnormal : Style.normalForm (Text.trimBoth Text.isBlankPoint name) with
    | error fault => exact ⟨.style fault, rfl⟩
    | ok n =>
      have hne : style ≠ n := fun heq => hother (heq ▸ hnormal)
      refine ⟨.unopened n, ?_⟩
      simp only [Except.mapError, closeNamed, if_neg hne, bind, Except.bind]
  obtain ⟨fault, hfault⟩ := happly
  refine ⟨fault, ?_⟩
  rw [htext, render, parts_between hstyle.opening hinside ha hlast]
  simp only [renderParts, hstyle.opens, renderParts_textPart, hfault, bind,
    Except.bind, Except.map]

end Workspace.Terminal.Markup

namespace Workspace

theorem Text.ofString_append (s s' : String) : Text.ofString (s ++ s') = Text.ofString s ++ s' := by
  simp [Text.ofString]

theorem Text.ofString_injective : Function.Injective Text.ofString := fun s s' h => by
  have hstring := congrArg Text.toString? h
  rw [Text.toString?_ofString, Text.toString?_ofString] at hstring
  exact Option.some.inj hstring

namespace CommandLine

open Terminal.Markup

/-! ## Lines of output -/

theorem tagged_eq (style : String) (t : Text) :
    tagged style t = bracketed style ++ t ++ bracketed (.char '/' :: Text.ofString style) := by
  simp [tagged, bracketed_eq, Text.ofString]

theorem shownLine_of_render (columns : Nat) {t s : Text} (h : render t = .ok s) :
    shownLine columns t = .ok (Terminal.printed columns s) := by
  rw [shownLine, h]
  rfl

theorem ending_shownLine {columns : Nat} {t s : Text} (h : render t = .ok s) (exitCode : Nat) :
    ending exitCode (shownLine columns t) = .showing exitCode (Terminal.printed columns s) := by
  rw [shownLine_of_render columns h]
  rfl

theorem ending_shownLine_of_error {columns : Nat} {t : Text} {fault : Terminal.Markup.Fault}
    (h : render t = .error fault) (exitCode : Nat) :
    ending exitCode (shownLine columns t) = .crashed (.markup fault) := by
  rw [shownLine, h]
  rfl

end CommandLine

end Workspace
