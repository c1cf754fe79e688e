/-
Workspace.Proofs.ShownMarkup — which texts are shown as they are.

Rendering takes tags out, drops backslashes before brackets, puts pictures in
the place of their names, and drops some control characters. A text in which
there is nothing of that kind is plain (`IsPlain`) and is shown as it is
(`render_of_isPlain`).

The converse is about texts without a colon, which name no pictures whatever is
taken out of them. What is shown of such a text is the text with some code
points left out (`sublist_of_render`), and with a tag or an escaped bracket in it
some of its brackets and backslashes are among those left out (`marks_lt_of_render`).
So it is shown as it is only if it is plain (`render_eq_self_iff`).
-/
import Workspace.Proofs.MarkupTags
import Workspace.Terminal.Line

namespace Workspace

/-- Output can hold the text: it is made of characters. -/
def Text.Writable (t : Text) : Prop :=
  ∀ p ∈ t, ∃ c, p = .char c

theorem Text.writable_iff_exists_eq {t : Text} : t.Writable ↔ ∃ s : String, t = s := by
  constructor
  · intro h
    induction t with
    | nil => exact ⟨"", rfl⟩
    | cons p rest ih =>
      obtain ⟨s, rfl⟩ := ih fun q hq => h q (List.mem_cons_of_mem p hq)
      obtain ⟨c, rfl⟩ := h p List.mem_cons_self
      exact ⟨String.ofList (c :: s.toList), by simp [Text.ofString]⟩
  · rintro ⟨s, rfl⟩ p hp
    obtain ⟨c, -, rfl⟩ := List.mem_map.mp hp
    exact ⟨c, rfl⟩

theorem Text.Writable.append {t u : Text} (ht : t.Writable) (hu : u.Writable) :
    (t ++ u).Writable :=
  fun p hp => (List.mem_append.mp hp).elim (ht p) (hu p)

theorem Text.Writable.of_subset {t u : Text} (h : t.Writable) (hsub : u ⊆ t) : u.Writable :=
  fun p hp => h p (hsub hp)

namespace Terminal

/-! ## Pictures -/

/-- The ways in which the name of a picture ends, with the marks that they stand for. -/
def nameEndings : List (Text × Text) :=
  [(":", ""), ("-text:", "\ufe0e"), ("-emoji:", "\ufe0f")]

/-- The text holds the name of a picture between colons. -/
def NamesPicture (t : Text) : Prop :=
  ∃ name, ∃ e ∈ nameEndings,
    ((Text.lower name).chars?.bind emoji?).isSome = true ∧ .char ':' :: (name ++ e.1) <:+: t

theorem not_namesPicture_of_not_mem {t : Text} (h : .char ':' ∉ t) : ¬NamesPicture t := by
  rintro ⟨name, e, -, -, hpart⟩
  exact h (hpart.subset List.mem_cons_self)

theorem NamesPicture.mono {t u : Text} (h : NamesPicture u) (hsub : u <:+: t) : NamesPicture t := by
  obtain ⟨name, e, he, hname, hpart⟩ := h
  exact ⟨name, e, he, hname, hpart.trans hsub⟩

theorem namesPicture_append_iff {u t : Text} (h : .char ':' ∉ u) :
    NamesPicture (u ++ t) ↔ NamesPicture t := by
  simp only [NamesPicture, Markup.cons_infix_append_iff h]

theorem nameEnd?_eq_some {t form after : Text} (h : nameEnd? t = some (form, after)) :
    ∃ ending, (ending, form) ∈ nameEndings ∧ t = ending ++ after := by
  obtain ⟨⟨ending, mark⟩, hmem, hend⟩ := List.exists_of_findSome?_eq_some h
  dsimp only at hend
  split at hend
  · next hbegins =>
    cases hend
    exact ⟨ending, hmem,
      (List.prefix_iff_eq_append.mp (List.isPrefixOf_iff_prefix.mp hbegins)).symm⟩
  · exact nomatch hend

theorem takeEmojiName_eq_some {t name form after : Text}
    (h : takeEmojiName t = some (name, form, after)) :
    ∃ ending, (ending, form) ∈ nameEndings ∧ t = name ++ ending ++ after := by
  fun_induction takeEmojiName t generalizing name with
  | case1 => exact nomatch h
  | case2 p rest form' after' hend =>
    cases h
    exact nameEnd?_eq_some hend
  | case3 => exact nomatch h
  | case4 p rest _ _ ih =>
    obtain ⟨⟨more, form', after'⟩, hmore, heq⟩ := Option.map_eq_some_iff.mp h
    cases heq
    obtain ⟨ending, hending, hrest⟩ := ih hmore
    exact ⟨ending, hending, by rw [hrest]; rfl⟩

theorem replaceEmojiFrom_eq_self {rounds : Nat} {t : Text} (h : ¬NamesPicture t) :
    replaceEmojiFrom rounds t = t := by
  fun_induction replaceEmojiFrom rounds t with
  | case1 | case2 => rfl
  | case3 rounds rest _ ih =>
    rw [ih fun hrest => h (hrest.mono (List.suffix_cons _ rest).isInfix)]
  | case4 rounds rest name form after htake picture hpicture ih =>
    obtain ⟨ending, hending, hrest⟩ := takeEmojiName_eq_some htake
    refine absurd ⟨name, _, hending, by rw [hpicture]; rfl, [], after, ?_⟩ h
    simp [hrest]
  | case5 rounds rest name form after htake hpicture ih =>
    obtain ⟨ending, hending, hrest⟩ := takeEmojiName_eq_some htake
    have hafter : after <:+ rest := ⟨name ++ ending, hrest.symm⟩
    rw [ih fun hsub => h (hsub.mono (hafter.trans (List.suffix_cons _ rest)).isInfix)]
    have htake : rest.take (rest.length - after.length) = name ++ ending := by
      rw [hrest, List.length_append, Nat.add_sub_cancel, List.take_left]
    rw [htake, List.cons_append, ← hrest]
  | case6 rounds p rest hp ih =>
    rw [ih fun hrest => h (hrest.mono (List.suffix_cons p rest).isInfix)]

theorem exists_char_of_mem_nameEndings {e : Text × Text} (h : e ∈ nameEndings) {p : CodePoint}
    (hp : p ∈ e.2) : ∃ c, p = .char c := by
  simp only [nameEndings, List.mem_cons, List.not_mem_nil, or_false] at h
  rcases h with rfl | rfl | rfl <;> simp [Text.ofString] at hp
  · exact ⟨_, hp⟩
  · exact ⟨_, hp⟩

/-- Pictures are made of characters. -/
theorem mem_of_mem_replaceEmojiFrom {rounds : Nat} {t : Text} {p : CodePoint}
    (h : p ∈ replaceEmojiFrom rounds t) : p ∈ t ∨ ∃ c, p = .char c := by
  fun_induction replaceEmojiFrom rounds t with
  | case1 | case2 => exact .inl h
  | case3 rounds rest _ ih =>
    refine (List.mem_cons.mp h).elim (fun hp => .inr ⟨_, hp⟩) fun hp => ?_
    exact (ih hp).imp_left (List.mem_cons_of_mem _)
  | case4 rounds rest name form after htake picture _ ih =>
    obtain ⟨ending, hending, hrest⟩ := takeEmojiName_eq_some htake
    rcases List.mem_append.mp h with h | h
    · rcases List.mem_append.mp h with h | h
      · obtain ⟨c, -, rfl⟩ := List.mem_map.mp h
        exact .inr ⟨c, rfl⟩
      · exact .inr (exists_char_of_mem_nameEndings hending h)
    · exact (ih h).imp_left fun hp => List.mem_cons_of_mem _ (hrest ▸ List.mem_append_right _ hp)
  | case5 rounds rest name form after htake _ ih =>
    obtain ⟨ending, hending, hrest⟩ := takeEmojiName_eq_some htake
    rcases List.mem_append.mp h with h | h
    · refine .inl ((List.mem_cons.mp h).elim (fun hp => hp ▸ List.mem_cons_self) fun hp => ?_)
      exact List.mem_cons_of_mem _ (List.mem_of_mem_take hp)
    · exact (ih h).imp_left fun hp => List.mem_cons_of_mem _ (hrest ▸ List.mem_append_right _ hp)
  | case6 rounds q rest _ ih =>
    refine (List.mem_cons.mp h).elim (fun hp => .inl (hp ▸ List.mem_cons_self)) fun hp => ?_
    exact (ih hp).imp_left (List.mem_cons_of_mem _)

theorem replaceEmoji_eq_self {t : Text} (h : ¬NamesPicture t) : replaceEmoji t = t :=
  replaceEmojiFrom_eq_self h

/-! ## Tabs -/

theorem expandTabsFrom_append {u : Text} (h : .char '\t' ∉ u) (column : Nat) (t : Text) :
    ∃ column', expandTabsFrom column (u ++ t) = u ++ expandTabsFrom column' t := by
  induction u generalizing column with
  | nil => exact ⟨column, rfl⟩
  | cons p rest ih =>
    obtain ⟨hp, hrest⟩ := not_or.mp (mt List.mem_cons.mpr h)
    rw [List.cons_append, expandTabsFrom]
    split
    · obtain ⟨column', h'⟩ := ih hrest 0
      exact ⟨column', by rw [h']; rfl⟩
    · rw [if_neg (Ne.symm hp)]
      obtain ⟨column', h'⟩ := ih hrest (column + Text.pointWidth p)
      exact ⟨column', by rw [h']; rfl⟩

theorem expandTabs_eq_self {t : Text} (h : .char '\t' ∉ t) : expandTabs t = t := by
  obtain ⟨column, htabs⟩ := expandTabsFrom_append h 0 []
  simpa [expandTabs, expandTabsFrom] using htabs

/-! ## Control characters -/

def isControl (c : Char) : Bool :=
  c.toNat < 0x20 || (0x7f ≤ c.toNat && c.toNat ≤ 0x9f)

/-- The text has no control characters. -/
def NoControls (t : Text) : Prop :=
  ∀ p ∈ t, p.satisfies isControl = false

instance (t : Text) : Decidable (NoControls t) :=
  inferInstanceAs (Decidable (∀ p ∈ t, _))

theorem NoControls.not_mem {t : Text} (h : NoControls t) {c : Char} (hc : isControl c = true) :
    .char c ∉ t :=
  fun hmem => Bool.false_ne_true ((h _ hmem).symm.trans hc)

theorem NoControls.of_subset {t u : Text} (h : NoControls t) (hsub : u ⊆ t) : NoControls u :=
  fun p hp => h p (hsub hp)

namespace Markup

variable {seen t s : Text} {ps : List Part} {opened : List Tag} {count : Nat}

/-! ## Plain texts -/

theorem not_hidden_of_noControls (h : NoControls t) : ∀ p ∈ t, p.satisfies isHidden = false := by
  intro p hp
  cases p with
  | surrogate i => rfl
  | char c =>
    have hcontrol : isControl c = false := h _ hp
    by_contra hhidden
    have hhidden : isHidden c = true := by simpa [CodePoint.satisfies] using hhidden
    simp only [isHidden, Bool.or_eq_true, decide_eq_true_eq] at hhidden
    rcases hhidden with (((rfl | rfl) | rfl) | rfl) | rfl <;> exact absurd hcontrol (by decide)

/-- A bracket behind a backslash. -/
def escapedBracket : Text :=
  [.char '\\', .char '[']

/-- Rendering finds nothing to change in the text. -/
structure IsPlain (t : Text) : Prop where
  noTag : ¬HasTag t
  noEscape : ¬escapedBracket <:+: t
  noPicture : ¬NamesPicture t
  noHidden : ∀ p ∈ t, p.satisfies isHidden = false

theorem unescapeBrackets_eq_self (h : ¬escapedBracket <:+: t) : unescapeBrackets t = t := by
  fun_induction unescapeBrackets t with
  | case1 rest => exact absurd ⟨[], rest, rfl⟩ h
  | case2 p rest _ ih => rw [ih fun hrest => h (hrest.trans (List.suffix_cons p rest).isInfix)]
  | case3 => rfl

theorem shownText_of_isPlain (h : IsPlain t) : shownText t = t := by
  rw [shownText, unescapeBrackets_eq_self h.noEscape, replaceEmoji_eq_self h.noPicture,
    List.filter_eq_self]
  intro p hp
  simp [h.noHidden p hp]

theorem renderParts_textPart (opened : List Tag) (t : Text) (ps : List Part) :
    renderParts opened (textPart t.reverse ++ ps)
      = (renderParts opened ps).map (shownText t ++ ·) := by
  cases hrev : t.reverse with
  | nil =>
    obtain rfl := List.reverse_eq_nil_iff.mp hrev
    cases hps : renderParts opened ps <;> simp [textPart, hps, Except.map, shownText,
      unescapeBrackets, replaceEmoji, replaceEmojiFrom]
  | cons p rest =>
    have ht : (p :: rest).reverse = t := by rw [← hrev, List.reverse_reverse]
    cases hps : renderParts opened ps <;> simp only [textPart, List.singleton_append, renderParts,
      ht, hps, Except.map, bind, Except.bind, pure, Except.pure]

theorem render_of_not_hasTag (h : ¬HasTag t) : render t = .ok (shownText t) := by
  have hparts := renderParts_textPart [] t []
  rw [List.append_nil] at hparts
  rw [render, parts_of_not_hasTag h, hparts]
  simp [renderParts, Except.map]

/-- A plain text is shown as it is. -/
theorem render_of_isPlain (h : IsPlain t) : render t = .ok t := by
  rw [render_of_not_hasTag h.noTag, shownText_of_isPlain h]

/-! ## What is left out -/

/-- The text that a part shows. -/
def Part.shown : Part → Text
  | .text t => shownText t
  | .tag _ => []

/-- The text that a part has from the text it was cut from, tags left out. -/
def Part.source : Part → Text
  | .text t => t
  | .tag _ => []

theorem eq_flatMap_of_renderParts (h : renderParts opened ps = .ok s) :
    s = ps.flatMap Part.shown := by
  fun_induction renderParts opened ps generalizing s with
  | case1 => cases h; rfl
  | case2 opened t rest ih =>
    cases hrest : renderParts opened rest with
    | error fault => simp [hrest, bind, Except.bind] at h
    | ok more =>
      simp only [hrest, bind, Except.bind, pure, Except.pure, Except.ok.injEq] at h
      rw [← h, ih hrest]
      rfl
  | case3 opened tag rest ih =>
    cases htag : applyTag tag opened with
    | error fault => simp [htag, bind, Except.bind] at h
    | ok opened' =>
      simp only [htag, bind, Except.bind] at h
      exact ih _ h

theorem flatMap_source_textPart (seen : Text) :
    (textPart seen).flatMap Part.source = seen.reverse := by
  cases seen <;> simp [textPart, Part.source]

theorem flatMap_source_tagParts (count : Nat) (inside : Text) :
    (tagParts count inside).flatMap Part.source
      = slashText (count / 2) ++ if count % 2 = 1 then bracketed inside else [] := by
  have hslashes :
      (if count < 2 then [] else [Part.text (slashText (count / 2))]).flatMap Part.source
      = slashText (count / 2) := by
    split
    · next hsmall => simp [slashText, Nat.div_eq_of_lt hsmall]
    · simp [Part.source]
  rw [tagParts, List.flatMap_append, hslashes]
  split <;> simp [Part.source]

theorem source_tagParts_sublist (count : Nat) (inside : Text) :
    ((tagParts count inside).flatMap Part.source).Sublist
      (slashText count ++ bracketed inside) := by
  rw [flatMap_source_tagParts]
  refine (List.replicate_sublist_replicate _ |>.mpr (Nat.div_le_self count 2)).append ?_
  split
  · exact List.Sublist.refl _
  · exact List.nil_sublist _

/-- The parts of a text hold nothing but what the text holds, in its order. -/
theorem Cut.source_sublist (h : Cut seen t ps) :
    (ps.flatMap Part.source).Sublist (seen.reverse ++ t) := by
  induction h with
  | nil => simp [flatMap_source_textPart]
  | point _ _ ih => simpa using ih
  | @tag seen t count inside after ps htag _ ih =>
    obtain ⟨rfl, -⟩ := tag?_eq_some_iff.mp htag
    rw [List.flatMap_append, List.flatMap_append, flatMap_source_textPart, List.append_assoc]
    exact (List.Sublist.refl _).append ((source_tagParts_sublist count inside).append ih)

/-- How many brackets and backslashes a text has; a backslash counts twice, so
that one in the place of two, or a bracket in the place of one, is a loss. -/
def marks (t : Text) : Nat :=
  2 * t.count (.char '\\') + t.count (.char '[')

theorem marks_nil : marks [] = 0 := rfl

theorem marks_append (t u : Text) : marks (t ++ u) = marks t + marks u := by
  simp only [marks, List.count_append]
  omega

theorem marks_le_of_sublist (h : s.Sublist t) : marks s ≤ marks t :=
  Nat.add_le_add (Nat.mul_le_mul_left 2 (h.count_le _)) (h.count_le _)

theorem marks_slashText (count : Nat) : marks (slashText count) = 2 * count := by
  simp [marks, slashText, List.count_replicate]

theorem marks_bracketed (inside : Text) : marks (bracketed inside) = marks inside + 1 := by
  simp [marks, bracketed_eq, List.count_append]
  omega

/-- Something of a tag is lost, and more of one behind a backslash. -/
theorem marks_source_tagParts (count : Nat) (inside : Text) :
    marks ((tagParts count inside).flatMap Part.source) + count + 1
      ≤ marks (slashText count ++ bracketed inside) := by
  rw [flatMap_source_tagParts, marks_append, marks_append, marks_slashText, marks_slashText,
    marks_bracketed]
  split
  · rw [marks_bracketed]
    omega
  · simp [marks]
    omega

/-- A tag is not among the parts with all its marks. -/
theorem Cut.marks_source_lt (h : Cut seen t ps) (htag : HasTag t) :
    marks (ps.flatMap Part.source) < marks (seen.reverse ++ t) := by
  induction h with
  | nil => exact absurd htag not_hasTag_nil
  | point hnone _ ih => simpa using ih (htag.tail hnone)
  | @tag seen t count inside after ps hsome hcut _ =>
    obtain ⟨rfl, -⟩ := tag?_eq_some_iff.mp hsome
    have hlost := marks_source_tagParts count inside
    have hrest := marks_le_of_sublist hcut.source_sublist
    rw [List.flatMap_append, List.flatMap_append, flatMap_source_textPart]
    simp only [List.reverse_nil, List.nil_append, marks_append] at hlost hrest ⊢
    omega

theorem unescapeBrackets_sublist (t : Text) : (unescapeBrackets t).Sublist t := by
  fun_induction unescapeBrackets t with
  | case1 rest ih => exact .cons _ (.cons_cons _ ih)
  | case2 p rest _ ih => exact .cons_cons p ih
  | case3 => exact .slnil

theorem marks_unescapeBrackets_lt (h : escapedBracket <:+: t) :
    marks (unescapeBrackets t) < marks t := by
  fun_induction unescapeBrackets t with
  | case1 rest ih =>
    have hrest := marks_le_of_sublist (unescapeBrackets_sublist rest)
    simp [marks] at hrest ⊢
    omega
  | case2 p rest hne ih =>
    have hpart : escapedBracket <:+: rest := by
      refine (List.infix_cons_iff.mp h).resolve_left fun hbegins => ?_
      obtain ⟨more, hmore⟩ := hbegins
      obtain ⟨rfl, rfl⟩ := List.cons.inj hmore
      exact hne more rfl rfl
    have hrest := ih hpart
    simp only [marks, List.count_cons] at hrest ⊢
    omega
  | case3 => simp [escapedBracket] at h

theorem shownText_sublist_unescapeBrackets (hcolon : .char ':' ∉ t) :
    (shownText t).Sublist (unescapeBrackets t) := by
  have hfree : .char ':' ∉ unescapeBrackets t :=
    fun h => hcolon ((unescapeBrackets_sublist t).subset h)
  rw [shownText, replaceEmoji_eq_self (not_namesPicture_of_not_mem hfree)]
  exact List.filter_sublist

theorem shownText_sublist (hcolon : .char ':' ∉ t) : (shownText t).Sublist t :=
  (shownText_sublist_unescapeBrackets hcolon).trans (unescapeBrackets_sublist t)

theorem shown_sublist_source (ps : List Part) (hcolon : .char ':' ∉ ps.flatMap Part.source) :
    (ps.flatMap Part.shown).Sublist (ps.flatMap Part.source) := by
  induction ps with
  | nil => exact .slnil
  | cons part rest ih =>
    rw [List.flatMap_cons, List.mem_append, not_or] at hcolon
    rw [List.flatMap_cons, List.flatMap_cons]
    refine List.Sublist.append ?_ (ih hcolon.2)
    cases part with
    | text t => exact shownText_sublist hcolon.1
    | tag tag => exact List.Sublist.refl _

theorem writable_shownText (h : t.Writable) : (shownText t).Writable := by
  intro p hp
  refine (mem_of_mem_replaceEmojiFrom (List.mem_filter.mp hp).1).elim (fun hmem => ?_) id
  exact h p ((unescapeBrackets_sublist t).subset hmem)

/-- Output can hold what is shown of a text if it can hold the text. -/
theorem writable_of_render (h : t.Writable) (hs : render t = .ok s) : s.Writable := by
  rw [eq_flatMap_of_renderParts hs]
  intro p hp
  obtain ⟨part, hpart, hp⟩ := List.mem_flatMap.mp hp
  have hsource : ((parts t).flatMap Part.source).Sublist t := (cut_parts t).source_sublist
  cases part with
  | tag tag => exact absurd hp List.not_mem_nil
  | text u =>
    refine writable_shownText (h.of_subset fun q hq => hsource.subset ?_) p hp
    exact List.mem_flatMap.mpr ⟨_, hpart, hq⟩

variable (hcolon : .char ':' ∉ t)
include hcolon

theorem sublist_source_of_render (h : render t = .ok s) :
    s.Sublist ((parts t).flatMap Part.source) := by
  have hsource : ((parts t).flatMap Part.source).Sublist t := (cut_parts t).source_sublist
  rw [eq_flatMap_of_renderParts h]
  exact shown_sublist_source _ fun hmem => hcolon (hsource.subset hmem)

/-- What is shown of a text without a colon is the text with something left out. -/
theorem sublist_of_render (h : render t = .ok s) : s.Sublist t :=
  (sublist_source_of_render hcolon h).trans (cut_parts t).source_sublist

/-- Brackets or backslashes are left out of a text with a tag or an escaped bracket. -/
theorem marks_lt_of_render (h : render t = .ok s) (hmark : HasTag t ∨ escapedBracket <:+: t) :
    marks s < marks t := by
  by_cases htag : HasTag t
  · exact (marks_le_of_sublist (sublist_source_of_render hcolon h)).trans_lt
      ((cut_parts t).marks_source_lt htag)
  · obtain rfl : shownText t = s := Except.ok.inj ((render_of_not_hasTag htag).symm.trans h)
    exact (marks_le_of_sublist (shownText_sublist_unescapeBrackets hcolon)).trans_lt
      (marks_unescapeBrackets_lt (hmark.resolve_left htag))

/-- A text without a colon and without characters that are never shown is shown
as it is exactly if it holds no tag and no bracket behind a backslash. -/
theorem render_eq_self_iff (hhidden : ∀ p ∈ t, p.satisfies isHidden = false) :
    render t = .ok t ↔ ¬HasTag t ∧ ¬escapedBracket <:+: t := by
  constructor
  · intro h
    refine not_or.mp fun hmark => ?_
    exact lt_irrefl _ (marks_lt_of_render hcolon h hmark)
  · rintro ⟨htag, hescape⟩
    exact render_of_isPlain ⟨htag, hescape, not_namesPicture_of_not_mem hcolon, hhidden⟩

end Markup

end Terminal

end Workspace
