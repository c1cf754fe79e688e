/-
Workspace.Proofs.EscapedMarkup — escaped texts have no tags left.

`Escaped t e` is escaping without a count of rounds: one code point after the
other, and a tag with the backslashes before it at once. Escaping adds only
backslashes, so the first bracket of an escaped text is the first bracket of the
text (`Escaped.find?_isBracket`), and where no tag begins in the text none begins
in the escaped one (`Escaped.tag?_eq_none`). A tag ends up behind an odd number of
backslashes. So whatever is escaped is cut into texts only (`allText_parts_escape`),
and no such text has tags that cannot be followed.
-/
import Workspace.Proofs.ShownMarkup

namespace Workspace.Terminal.Markup

variable {seen t e u inside after : Text} {ps : List Part} {opened : List Tag}
  {p : CodePoint} {rounds count : Nat}

/-! ## Where a tag begins -/

theorem tagInside?_ne_none_iff :
    tagInside? t ≠ none ↔ ∃ p rest, t = p :: rest ∧ p.satisfies beginsTag = true
      ∧ rest.find? isBracket = some (.char ']') := by
  rw [Option.ne_none_iff_exists']
  constructor
  · rintro ⟨⟨inside, after⟩, h⟩
    obtain ⟨rfl, p, body, rfl, hp, hopen, hclose⟩ := tagInside?_eq_some_iff.mp h
    refine ⟨p, body ++ .char ']' :: after, rfl, hp, ?_⟩
    refine List.find?_eq_some_iff_append.mpr ⟨rfl, body, after, rfl, fun q hq => ?_⟩
    have hne : q ≠ .char '[' := fun h => hopen (h ▸ hq)
    have hne' : q ≠ .char ']' := fun h => hclose (h ▸ hq)
    simp [isBracket, hne, hne']
  · rintro ⟨p, rest, rfl, hp, hfind⟩
    obtain ⟨-, body, after, rfl, hbody⟩ := List.find?_eq_some_iff_append.mp hfind
    refine ⟨(p :: body, after), tagInside?_eq_some_iff.mpr ⟨rfl, p, body, rfl, hp, ?_, ?_⟩⟩
    · exact fun h => by simpa [isBracket] using hbody _ h
    · exact fun h => by simpa [isBracket] using hbody _ h

theorem tag?_slash_cons (t : Text) :
    tag? (.char '\\' :: t)
      = (tag? t).map fun (count, inside, after) => (count + 1, inside, after) := by
  have hslashes : slashes (.char '\\' :: t) = .char '\\' :: slashes t := by simp [slashes]
  unfold tag?
  rw [hslashes, List.length_cons, List.drop_succ_cons]
  split
  · simp [Function.comp_def]
  · rfl

theorem tag?_bracket_cons (t : Text) :
    tag? (.char '[' :: t) = (tagInside? t).map fun (inside, after) => (0, inside, after) := by
  simp [tag?, slashes]

theorem tag?_cons_of_ne (hslash : p ≠ .char '\\') (hopen : p ≠ .char '[') (t : Text) :
    tag? (p :: t) = none := by
  simp [tag?, slashes, hslash, hopen]

theorem not_hasTag_slashText (count : Nat) : ¬HasTag (slashText count) :=
  not_hasTag_of_not_mem fun h => absurd (List.eq_of_mem_replicate h) (by decide)

theorem tag?_slashText (count : Nat) : tag? (slashText count) = none := by
  refine Option.eq_none_iff_forall_ne_some.mpr fun ⟨_, _, _⟩ h => ?_
  exact not_hasTag_slashText count (hasTag_of_tag? h)

/-! ## Escaping -/

/-- The text is escaped to `e`: its tags stand behind one backslash more than
twice as many as they had. -/
inductive Escaped : Text → Text → Prop where
  | nil : Escaped [] []
  | point {p : CodePoint} {rest e : Text} :
      tag? (p :: rest) = none → Escaped rest e → Escaped (p :: rest) (p :: e)
  | tag {t : Text} {count : Nat} {inside after e : Text} :
      tag? t = some (count, inside, after) → Escaped after e →
        Escaped t (slashText (2 * count + 1) ++ (bracketed inside ++ e))

theorem Escaped.append_of_tag?_eq_none {v : Text}
    (hnone : ∀ b, b <:+ u → b ≠ [] → tag? (b ++ v) = none) (h : Escaped v e) :
    Escaped (u ++ v) (u ++ e) := by
  induction u with
  | nil => exact h
  | cons p rest ih =>
    refine .point (hnone (p :: rest) List.suffix_rfl (by simp)) (ih fun b hb hne => ?_)
    exact hnone b (hb.trans (List.suffix_cons p rest)) hne

theorem escaped_escapeTags (h : t.length ≤ rounds) : Escaped t (escapeTags rounds t) := by
  fun_induction escapeTags rounds t with
  | case1 t =>
    obtain rfl := List.length_eq_zero_iff.mp (Nat.le_zero.mp h)
    exact .nil
  | case2 => exact .nil
  | case3 rounds p rest count inside after htag ih =>
    rw [List.append_assoc]
    refine .tag htag (ih ?_)
    have hlength := length_of_tag? htag
    omega
  | case4 rounds p rest hnone _ ih => exact .point hnone (ih (by simpa using h))
  | case5 rounds p rest hnone hne ih =>
    have hpos : 0 < (slashes (p :: rest)).length := List.length_pos_iff.mpr hne
    have hlength : ((p :: rest).drop (slashes (p :: rest)).length).length ≤ rounds := by
      rw [List.length_drop]
      omega
    have hescaped := Escaped.append_of_tag?_eq_none (u := slashes (p :: rest))
      (fun b hb _ => tag?_of_suffix_slashes hb hnone) (ih hlength)
    rwa [slashes_append_drop] at hescaped

/-- The first bracket of an escaped text is that of the text. -/
theorem Escaped.find?_isBracket (h : Escaped t e) (count : Nat) :
    (e ++ slashText count).find? isBracket = t.find? isBracket := by
  induction h with
  | nil => simpa using find?_isBracket_slashText_append count []
  | point _ _ ih => rw [List.cons_append, List.find?_cons, List.find?_cons, ih]
  | tag htag _ _ =>
    obtain ⟨rfl, -⟩ := tag?_eq_some_iff.mp htag
    simp only [List.append_assoc, find?_isBracket_slashText_append, find?_isBracket_bracketed]

theorem Escaped.tagInside?_eq_none (h : Escaped t e) (hnone : tagInside? t = none) (count : Nat) :
    tagInside? (e ++ slashText count) = none := by
  by_contra hsome
  obtain ⟨p, more, htext, hp, hfind⟩ := tagInside?_ne_none_iff.mp hsome
  -- a backslash that was put in begins no tag
  cases h with
  | nil =>
    have hmem : p ∈ slashText count := by
      rw [← List.nil_append (slashText count), htext]
      exact List.mem_cons_self
    obtain rfl := List.eq_of_mem_replicate hmem
    exact absurd hp (by decide)
  | @point q rest e _ hescaped =>
    rw [List.cons_append] at htext
    obtain ⟨rfl, rfl⟩ := List.cons.inj htext
    rw [hescaped.find?_isBracket] at hfind
    exact tagInside?_ne_none_iff.mpr ⟨q, rest, rfl, hp, hfind⟩ hnone
  | tag _ _ =>
    rw [slashText, List.replicate_succ] at htext
    obtain ⟨rfl, -⟩ := List.cons.inj htext
    exact absurd hp (by decide)

/-- Where no tag begins in a text, none begins in the escaped one. -/
theorem Escaped.tag?_eq_none (h : Escaped t e) (hnone : tag? t = none) (count : Nat) :
    tag? (e ++ slashText count) = none := by
  induction h with
  | nil => exact tag?_slashText count
  | @point p rest e _ hescaped ih =>
    rw [List.cons_append]
    by_cases hslash : p = .char '\\'
    · subst hslash
      rw [tag?_slash_cons, Option.map_eq_none_iff] at hnone ⊢
      exact ih hnone
    · by_cases hopen : p = .char '['
      · subst hopen
        rw [tag?_bracket_cons, Option.map_eq_none_iff] at hnone ⊢
        exact hescaped.tagInside?_eq_none hnone count
      · exact tag?_cons_of_ne hslash hopen _
  | tag htag _ _ => exact nomatch hnone.symm.trans htag

/-! ## Parts that are texts -/

/-- There is no tag among the parts. -/
def AllText (ps : List Part) : Prop :=
  ∀ part ∈ ps, ∃ t, part = .text t

theorem allText_textPart (seen : Text) : AllText (textPart seen) := by
  cases seen with
  | nil => exact fun _ h => nomatch h
  | cons p rest => exact fun part h => ⟨_, List.mem_singleton.mp h⟩

theorem allText_append {qs : List Part} (h : AllText ps) (h' : AllText qs) : AllText (ps ++ qs) :=
  fun part hpart => (List.mem_append.mp hpart).elim (h part) (h' part)

theorem allText_tagParts_of_odd (hodd : count % 2 = 1) (inside : Text) :
    AllText (tagParts count inside) := by
  intro part hpart
  rw [tagParts, if_pos hodd] at hpart
  split at hpart <;> simp at hpart
  · exact ⟨_, hpart⟩
  · exact hpart.elim (fun h => ⟨_, h⟩) fun h => ⟨_, h⟩

theorem Escaped.cut (h : Escaped t e) (seen : Text) (count : Nat) :
    ∃ ps, Cut seen (e ++ slashText count) ps ∧ AllText ps := by
  induction h generalizing seen with
  | nil =>
    refine ⟨textPart ((slashText count).reverse ++ seen), ?_, allText_textPart _⟩
    have hcut := cut_append seen (not_hasTag_slashText count) (.inl rfl) .nil
    rwa [List.append_nil] at hcut
  | @point p rest e hnone hescaped ih =>
    obtain ⟨ps, hcut, hall⟩ := ih (p :: seen)
    exact ⟨ps, .point ((Escaped.point hnone hescaped).tag?_eq_none hnone count) hcut, hall⟩
  | @tag t k inside after e htag hescaped ih =>
    obtain ⟨ps, hcut, hall⟩ := ih []
    have htag' : tag? (slashText (2 * k + 1) ++ (bracketed inside ++ e) ++ slashText count)
        = some (2 * k + 1, inside, e ++ slashText count) := by
      refine tag?_eq_some_iff.mpr ⟨?_, (tag?_eq_some_iff.mp htag).2⟩
      simp only [List.append_assoc]
    refine ⟨_, .tag htag' hcut, allText_append (allText_append (allText_textPart seen) ?_) hall⟩
    exact allText_tagParts_of_odd (by omega) inside

/-- An escaped text has no tags, also behind another code point. -/
theorem allText_parts_cons_escape (hslash : p ≠ .char '\\') (hopen : p ≠ .char '[') (t : Text) :
    AllText (parts (p :: escape t)) := by
  obtain ⟨count, hescape⟩ : ∃ count, escape t = escapeTags t.length t ++ slashText count := by
    unfold escape
    dsimp only
    split
    · exact ⟨1, rfl⟩
    · exact ⟨0, (List.append_nil _).symm⟩
  obtain ⟨ps, hcut, hall⟩ := (escaped_escapeTags le_rfl).cut [p] count
  rw [← hescape] at hcut
  rwa [(Cut.point (tag?_cons_of_ne hslash hopen _) hcut).parts_eq]

theorem renderParts_of_allText (h : AllText ps) :
    renderParts opened ps = .ok (ps.flatMap Part.shown) := by
  induction ps with
  | nil => rfl
  | cons part rest ih =>
    obtain ⟨t, rfl⟩ := h part List.mem_cons_self
    rw [renderParts, ih fun part hpart => h part (List.mem_cons_of_mem _ hpart)]
    rfl

end Workspace.Terminal.Markup
