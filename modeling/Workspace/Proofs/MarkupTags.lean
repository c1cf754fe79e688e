/-
Workspace.Proofs.MarkupTags — where a text with markup holds tags.

A tag is a text between brackets that begins like one and holds no other
bracket (`IsInside`). `HasTag t` says that `t` holds one anywhere; whether it
is escaped does not matter.

`parts` counts its rounds and takes backslashes together. `Cut seen t ps` is
the same cutting without either: one code point after the other, each tag with
the backslashes before it at once. A text has one cutting (`Cut.unique`), so
what is cut by hand is what `parts` gives (`Cut.parts_eq`). A text without tags
is passed over whatever follows, as long as its last backslash can't escape a
tag behind it (`cut_append`).
-/
import Mathlib.Data.List.Infix
import Mathlib.Data.List.TakeWhile
import Workspace.Terminal.Markup

namespace Workspace.Terminal.Markup

variable {seen t u v inside after : Text} {ps : List Part} {count : Nat}

/-! ## Tags -/

/-- The text can stand between the brackets of a tag. -/
def IsInside (inside : Text) : Prop :=
  ∃ p body, inside = p :: body ∧ p.satisfies beginsTag = true
    ∧ .char '[' ∉ body ∧ .char ']' ∉ body

/-- The text holds a tag. -/
def HasTag (t : Text) : Prop :=
  ∃ inside, IsInside inside ∧ bracketed inside <:+: t

theorem bracketed_eq (inside : Text) :
    bracketed inside = .char '[' :: (inside ++ [.char ']']) := by
  simp [bracketed, Text.ofString]

theorem length_bracketed (inside : Text) : (bracketed inside).length = inside.length + 2 := by
  simp [bracketed_eq]

/-- A bracket ends what may stand inside a tag. -/
def isBracket (p : CodePoint) : Bool :=
  p = .char '[' || p = .char ']'

theorem find?_isBracket_slashText_append (count : Nat) (t : Text) :
    (slashText count ++ t).find? isBracket = t.find? isBracket := by
  simp [slashText, isBracket]

theorem find?_isBracket_bracketed (inside t : Text) :
    (bracketed inside ++ t).find? isBracket = some (.char '[') := by
  simp [bracketed_eq, isBracket]

theorem HasTag.mono (h : HasTag u) (hsub : u <:+: t) : HasTag t := by
  obtain ⟨inside, hinside, hu⟩ := h
  exact ⟨inside, hinside, hu.trans hsub⟩

theorem not_hasTag_of_not_mem (h : .char '[' ∉ t) : ¬HasTag t := by
  rintro ⟨inside, -, hpart⟩
  exact h (hpart.subset (by simp [bracketed_eq]))

/-- What begins with a code point of `t` only begins in `t`. -/
theorem cons_infix_append_iff {α : Type} {a : α} {l u t : List α} (h : a ∉ u) :
    a :: l <:+: u ++ t ↔ a :: l <:+: t := by
  induction u with
  | nil => rfl
  | cons b u ih =>
    obtain ⟨hb, hu⟩ := not_or.mp (mt List.mem_cons.mpr h)
    rw [List.cons_append, List.infix_cons_iff, ih hu]
    refine or_iff_right fun hbegins => hb ?_
    exact (List.cons_prefix_cons.mp hbegins).1

theorem hasTag_append_iff (h : .char '[' ∉ u) : HasTag (u ++ t) ↔ HasTag t := by
  simp only [HasTag, bracketed_eq, cons_infix_append_iff h]

theorem not_hasTag_nil : ¬HasTag [] :=
  not_hasTag_of_not_mem List.not_mem_nil

theorem IsInside.open_not_mem (h : IsInside inside) : .char '[' ∉ inside := by
  obtain ⟨p, body, rfl, hp, hopen, -⟩ := h
  rw [List.mem_cons, not_or]
  refine ⟨?_, hopen⟩
  rintro rfl
  exact absurd hp (by decide)

theorem tagInside?_eq_some_iff :
    tagInside? t = some (inside, after) ↔
      t = inside ++ .char ']' :: after ∧ IsInside inside := by
  constructor
  · intro h
    unfold tagInside? at h
    split at h
    · exact nomatch h
    · next p rest =>
      split at h
      · next hp =>
        dsimp only at h
        split at h
        · next more hmore =>
          cases h
          have hbody := List.all_takeWhile
            (p := fun q : CodePoint => q ≠ .char '[' && q ≠ .char ']')
            (l := rest)
          rw [List.all_eq_true] at hbody
          refine ⟨?_, p, _, rfl, hp, fun hmem => ?_, fun hmem => ?_⟩
          · rw [List.cons_append, ← hmore, List.takeWhile_append_dropWhile]
          · simpa using hbody _ hmem
          · simpa using hbody _ hmem
        · exact nomatch h
      · exact nomatch h
  · rintro ⟨rfl, p, body, rfl, hp, hopen, hclose⟩
    have hbody : ∀ q ∈ body, (q ≠ .char '[' && q ≠ .char ']' : Bool) = true := by
      intro q hq
      have hne : q ≠ .char '[' := fun h => hopen (h ▸ hq)
      have hne' : q ≠ .char ']' := fun h => hclose (h ▸ hq)
      simp [hne, hne']
    simp only [List.cons_append, tagInside?, hp, if_true]
    rw [List.dropWhile_append_of_pos hbody, List.takeWhile_append_of_pos hbody]
    simp

theorem slashes_eq_slashText (t : Text) : slashes t = slashText (slashes t).length := by
  rw [slashText, List.eq_replicate_iff]
  refine ⟨rfl, fun p hp => ?_⟩
  simpa using List.mem_takeWhile_imp hp

theorem slashes_append_drop (t : Text) : slashes t ++ t.drop (slashes t).length = t :=
  List.prefix_iff_eq_append.mp (List.takeWhile_prefix _)

theorem slashes_slashText_append (hv : v.head? ≠ some (.char '\\')) :
    slashes (slashText count ++ v) = slashText count := by
  have hrun : ∀ p ∈ slashText count, decide (p = .char '\\') = true := by
    intro p hp
    simpa using List.eq_of_mem_replicate hp
  rw [slashes, List.takeWhile_append_of_pos hrun]
  cases v with
  | nil => simp
  | cons p rest =>
    have hp : p ≠ .char '\\' := by simpa using hv
    simp [hp]

theorem tag?_eq_some_iff :
    tag? t = some (count, inside, after) ↔
      t = slashText count ++ bracketed inside ++ after ∧ IsInside inside := by
  constructor
  · intro h
    unfold tag? at h
    split at h
    · next rest hrest =>
      obtain ⟨⟨i, a⟩, hinside, heq⟩ := Option.map_eq_some_iff.mp h
      cases heq
      obtain ⟨rfl, hi⟩ := tagInside?_eq_some_iff.mp hinside
      refine ⟨?_, hi⟩
      rw [← slashes_eq_slashText, bracketed_eq, List.append_assoc]
      simpa [hrest] using (slashes_append_drop t).symm
    · exact nomatch h
  · rintro ⟨rfl, hinside⟩
    have htext : slashText count ++ bracketed inside ++ after
        = slashText count ++ .char '[' :: (inside ++ .char ']' :: after) := by
      simp [bracketed_eq]
    have hrun : slashes (slashText count ++ .char '[' :: (inside ++ .char ']' :: after))
        = slashText count := slashes_slashText_append (by simp)
    have hread : tagInside? (inside ++ .char ']' :: after) = some (inside, after) :=
      tagInside?_eq_some_iff.mpr ⟨rfl, hinside⟩
    rw [htext]
    unfold tag?
    rw [hrun, List.drop_left]
    simp [hread, slashText]

theorem length_of_tag? (h : tag? t = some (count, inside, after)) :
    t.length = count + inside.length + 2 + after.length := by
  rw [(tag?_eq_some_iff.mp h).1]
  simp [length_bracketed, slashText]
  omega

theorem hasTag_of_tag? (h : tag? t = some (count, inside, after)) : HasTag t := by
  obtain ⟨rfl, hinside⟩ := tag?_eq_some_iff.mp h
  exact ⟨inside, hinside, slashText count, after, rfl⟩

/-- A tag is found where the text begins, or behind its first code point. -/
theorem HasTag.tail {p : CodePoint} {rest : Text} (h : HasTag (p :: rest))
    (hnone : tag? (p :: rest) = none) : HasTag rest := by
  obtain ⟨inside, hinside, before, after, htext⟩ := h
  cases before with
  | nil =>
    have hsome : tag? (p :: rest) = some (0, inside, after) :=
      tag?_eq_some_iff.mpr ⟨htext.symm, hinside⟩
    exact nomatch hnone.symm.trans hsome
  | cons q before =>
    obtain ⟨-, hrest⟩ := List.cons.inj htext
    exact ⟨inside, hinside, before, after, hrest⟩

/-! ## Cutting a text -/

/-- The text is cut into these parts, where `seen` is the text since the last
tag, last code point first. -/
inductive Cut : (seen : Text) → Text → List Part → Prop where
  | nil {seen : Text} : Cut seen [] (textPart seen)
  | point {seen : Text} {p : CodePoint} {rest : Text} {ps : List Part} :
      tag? (p :: rest) = none → Cut (p :: seen) rest ps → Cut seen (p :: rest) ps
  | tag {seen t : Text} {count : Nat} {inside after : Text} {ps : List Part} :
      tag? t = some (count, inside, after) → Cut [] after ps →
        Cut seen t (textPart seen ++ tagParts count inside ++ ps)

theorem tag?_nil : tag? [] = none := rfl

theorem Cut.unique {qs : List Part} (h : Cut seen t ps) (h' : Cut seen t qs) : ps = qs := by
  induction h generalizing qs with
  | nil =>
    cases h' with
    | nil => rfl
    | tag htag _ => exact nomatch tag?_nil.symm.trans htag
  | point hnone _ ih =>
    cases h' with
    | point _ hcut => exact ih hcut
    | tag htag _ => exact nomatch hnone.symm.trans htag
  | tag htag _ ih =>
    cases h' with
    | nil => exact nomatch tag?_nil.symm.trans htag
    | point hnone _ => exact nomatch hnone.symm.trans htag
    | tag htag' hcut =>
      obtain ⟨rfl, rfl, rfl⟩ : _ ∧ _ ∧ _ := by simpa using htag.symm.trans htag'
      rw [ih hcut]

/-- A text in which no tag begins is passed over. -/
theorem cut_append_of_tag?_eq_none (seen : Text)
    (hnone : ∀ b, b <:+ u → b ≠ [] → tag? (b ++ v) = none) (h : Cut (u.reverse ++ seen) v ps) :
    Cut seen (u ++ v) ps := by
  induction u generalizing seen with
  | nil => exact h
  | cons p rest ih =>
    refine .point (hnone (p :: rest) List.suffix_rfl (by simp)) (ih _ (fun b hb hne => ?_) ?_)
    · exact hnone b (hb.trans (List.suffix_cons p rest)) hne
    · simpa using h

/-- Behind a run of backslashes there is a tag if there is one before it. -/
theorem tag?_of_suffix_slashes {b : Text} (hb : b <:+ slashes t) (hnone : tag? t = none) :
    tag? (b ++ t.drop (slashes t).length) = none := by
  obtain ⟨a, ha⟩ := hb
  have hslash : a = slashText a.length := by
    rw [slashText, List.eq_replicate_iff]
    refine ⟨rfl, fun p hp => ?_⟩
    have hmem : p ∈ slashText (slashes t).length :=
      slashes_eq_slashText t ▸ ha ▸ List.mem_append_left b hp
    exact List.eq_of_mem_replicate hmem
  refine Option.eq_none_iff_forall_ne_some.mpr fun ⟨count, inside, after⟩ hsome => ?_
  obtain ⟨htext, hinside⟩ := tag?_eq_some_iff.mp hsome
  have hfull : t = slashText (a.length + count) ++ bracketed inside ++ after := by
    calc t = a ++ b ++ t.drop (slashes t).length := by rw [ha, slashes_append_drop]
      _ = slashText a.length ++ (slashText count ++ bracketed inside ++ after) := by
        rw [List.append_assoc, htext, ← hslash]
      _ = _ := by simp [slashText, ← List.replicate_append_replicate]
  exact nomatch hnone.symm.trans (tag?_eq_some_iff.mpr ⟨hfull, hinside⟩)

theorem cut_partsFrom {rounds : Nat} (h : t.length ≤ rounds) :
    Cut seen t (partsFrom rounds seen t) := by
  fun_induction partsFrom rounds seen t with
  | case1 seen t =>
    obtain rfl := List.length_eq_zero_iff.mp (Nat.le_zero.mp h)
    exact .nil
  | case2 => exact .nil
  | case3 rounds seen p rest count inside after htag ih =>
    refine .tag htag (ih ?_)
    have hlength := length_of_tag? htag
    omega
  | case4 rounds seen p rest hnone hrun ih => exact .point hnone (ih (by simpa using h))
  | case5 rounds seen p rest hnone hne ih =>
    -- no tag begins inside the run, since none begins with the whole of it
    have hpos : 0 < (slashes (p :: rest)).length := List.length_pos_iff.mpr hne
    have hlength : ((p :: rest).drop (slashes (p :: rest)).length).length ≤ rounds := by
      rw [List.length_drop]
      omega
    have hreverse : (slashes (p :: rest)).reverse = slashes (p :: rest) := by
      rw [slashes_eq_slashText, slashText, List.reverse_replicate]
    have hcut := cut_append_of_tag?_eq_none (u := slashes (p :: rest)) seen
      (fun b hb _ => tag?_of_suffix_slashes hb hnone) (by rw [hreverse]; exact ih hlength)
    rwa [slashes_append_drop] at hcut

theorem Cut.parts_eq (h : Cut [] t ps) : parts t = ps :=
  (cut_partsFrom le_rfl).unique h

theorem cut_parts (t : Text) : Cut [] t (parts t) :=
  cut_partsFrom le_rfl

theorem parts_nil : parts [] = [] := rfl

/-! ## Texts without tags -/

/-- No tag reaches from `u` into `v`: nothing follows, or the next bracket opens
a tag and no backslash stands before what follows. -/
def EndsBefore (u v : Text) : Prop :=
  v = [] ∨ v.find? isBracket = some (.char '[') ∧ u.getLast? ≠ some (.char '\\')

theorem EndsBefore.of_suffix {b : Text} (h : EndsBefore u v) (hb : b <:+ u) (hne : b ≠ []) :
    EndsBefore b v := by
  refine h.imp_right (And.imp_right fun hlast => ?_)
  obtain ⟨a, rfl⟩ := hb
  rwa [List.getLast?_append_of_ne_nil _ hne] at hlast

theorem getLast?_slashText_append {a : Text} (h : slashText count = u ++ a) (hne : u ≠ []) :
    u.getLast? = some (.char '\\') := by
  have hmem : u.getLast hne ∈ slashText count := h ▸ List.mem_append_left a (List.getLast_mem hne)
  rw [List.getLast?_eq_some_getLast hne, List.eq_of_mem_replicate hmem]

theorem tag?_append_eq_none (htag : ¬HasTag u) (hne : u ≠ []) (hends : EndsBefore u v) :
    tag? (u ++ v) = none := by
  refine Option.eq_none_iff_forall_ne_some.mpr fun ⟨count, inside, after⟩ hsome => ?_
  obtain ⟨htext, hinside⟩ := tag?_eq_some_iff.mp hsome
  -- the text ends among the backslashes, behind the tag, or within it
  rw [List.append_assoc, List.append_eq_append_iff] at htext
  obtain ⟨a, ha, hv⟩ | ⟨c, rfl, hc⟩ := htext
  · obtain rfl | ⟨-, hlast⟩ := hends
    · simp [bracketed_eq] at hv
    · exact hlast (getLast?_slashText_append ha hne)
  rw [List.append_eq_append_iff] at hc
  obtain ⟨d, rfl, -⟩ | ⟨d, hd, hv⟩ := hc
  · exact htag ⟨inside, hinside, slashText count, d, List.append_assoc ..⟩
  obtain rfl | hd' := eq_or_ne d []
  · rw [List.append_nil] at hd
    exact htag ⟨inside, hinside, slashText count, [], by rw [hd, List.append_nil]⟩
  rw [bracketed_eq] at hd
  cases c with
  | nil =>
    obtain rfl | ⟨-, hlast⟩ := hends
    · exact hd' (List.append_eq_nil_iff.mp hv.symm).1
    · rw [List.append_nil] at hne hlast
      exact hlast (getLast?_slashText_append (List.append_nil _).symm hne)
  | cons _ c =>
    -- the tag ends in `d`, so the first bracket of `d` is one of its own
    have hbody : inside ++ [.char ']'] = c ++ d := (List.cons.inj hd).2
    have hclose : .char ']' ∈ d := by
      have hlast := congrArg List.getLast? hbody
      rw [List.getLast?_append_of_ne_nil _ hd', List.getLast?_concat] at hlast
      exact List.mem_of_getLast? hlast.symm
    obtain ⟨q, hq⟩ : ∃ q, d.find? isBracket = some q :=
      Option.isSome_iff_exists.mp (List.find?_isSome.mpr ⟨_, hclose, rfl⟩)
    obtain rfl | ⟨hfirst, -⟩ := hends
    · exact hd' (List.append_eq_nil_iff.mp hv.symm).1
    obtain rfl : q = .char '[' := by
      rw [hv, List.find?_append, hq] at hfirst
      exact Option.some.inj hfirst
    have hmem : .char '[' ∈ inside ++ [.char ']'] := by
      rw [hbody]
      exact List.mem_append_right c (List.mem_of_find?_eq_some hq)
    simp [hinside.open_not_mem] at hmem

/-- A text without tags is passed over. -/
theorem cut_append (seen : Text) (htag : ¬HasTag u) (hends : EndsBefore u v)
    (h : Cut (u.reverse ++ seen) v ps) : Cut seen (u ++ v) ps :=
  cut_append_of_tag?_eq_none seen (fun _ hb hne =>
    tag?_append_eq_none (fun h => htag (h.mono hb.isInfix)) hne (hends.of_suffix hb hne)) h

theorem cut_bracketed (hinside : IsInside inside) (h : Cut [] after ps) :
    Cut seen (bracketed inside ++ after) (textPart seen ++ [.tag (.ofInside inside)] ++ ps) := by
  have htag : tag? (bracketed inside ++ after) = some (0, inside, after) :=
    tag?_eq_some_iff.mpr ⟨rfl, hinside⟩
  exact .tag htag h

theorem parts_bracketed (hinside : IsInside inside) (after : Text) :
    parts (bracketed inside ++ after) = .tag (.ofInside inside) :: parts after :=
  Cut.parts_eq (cut_bracketed hinside (cut_parts after))

theorem parts_of_not_hasTag (h : ¬HasTag t) : parts t = textPart t.reverse := by
  have hcut := cut_append [] h (.inl rfl) .nil
  rw [List.append_nil, List.append_nil] at hcut
  exact hcut.parts_eq

/-- What stands before the first tag of a text is a text without tags. -/
theorem exists_first_tag (h : HasTag t) :
    ∃ a count inside b, t = a ++ (slashText count ++ bracketed inside ++ b) ∧ IsInside inside
      ∧ ¬HasTag a ∧ a.getLast? ≠ some (.char '\\') := by
  induction t with
  | nil => exact absurd h not_hasTag_nil
  | cons p rest ih =>
    cases htag : tag? (p :: rest) with
    | some found =>
      obtain ⟨count, inside, b⟩ := found
      obtain ⟨htext, hinside⟩ := tag?_eq_some_iff.mp htag
      exact ⟨[], count, inside, b, htext, hinside, not_hasTag_nil, by simp⟩
    | none =>
      obtain ⟨a, count, inside, b, rfl, hinside, ha, hlast⟩ := ih (h.tail htag)
      refine ⟨p :: a, count, inside, b, rfl, hinside, fun hpa => ?_, ?_⟩
      · refine ha (hpa.tail (Option.eq_none_iff_forall_ne_some.mpr fun ⟨k, i, c⟩ hsome => ?_))
        obtain ⟨htext, hi⟩ := tag?_eq_some_iff.mp hsome
        refine nomatch htag.symm.trans (tag?_eq_some_iff.mpr
          ⟨?_, hi⟩ : tag? _ = some (k, i, c ++ (slashText count ++ bracketed inside ++ b)))
        rw [← List.cons_append, htext, List.append_assoc]
      · cases a with
        | nil =>
          rintro heq
          obtain rfl : p = .char '\\' := by simpa using heq
          refine nomatch htag.symm.trans (tag?_eq_some_iff.mpr
            ⟨?_, hinside⟩ : tag? _ = some (count + 1, inside, b))
          simp [slashText, List.replicate_succ]
        | cons q a => simpa using hlast

theorem hasTag_iff_exists_mem_tails : HasTag t ↔ ∃ b ∈ t.tails, (tag? b).isSome = true := by
  constructor
  · intro h
    obtain ⟨a, count, inside, b, rfl, hinside, -, -⟩ := exists_first_tag h
    refine ⟨_, (List.mem_tails _ _).mpr (List.suffix_append a _), ?_⟩
    rw [tag?_eq_some_iff.mpr ⟨rfl, hinside⟩, Option.isSome_some]
  · rintro ⟨b, hb, hsome⟩
    obtain ⟨⟨count, inside, after⟩, htag⟩ := Option.isSome_iff_exists.mp hsome
    exact (hasTag_of_tag? htag).mono ((List.mem_tails _ _).mp hb).isInfix

instance (t : Text) : Decidable (HasTag t) :=
  decidable_of_iff _ hasTag_iff_exists_mem_tails.symm

/-- The text before a tag, the tag, and what follows. -/
theorem parts_first_tag (hinside : IsInside inside) (htag : ¬HasTag t)
    (hlast : t.getLast? ≠ some (.char '\\')) (count : Nat) (after : Text) :
    parts (t ++ (slashText count ++ bracketed inside ++ after))
      = textPart t.reverse ++ tagParts count inside ++ parts after := by
  have hends : EndsBefore t (slashText count ++ bracketed inside ++ after) := by
    refine .inr ⟨?_, hlast⟩
    rw [List.append_assoc, find?_isBracket_slashText_append, find?_isBracket_bracketed]
  have hcut := cut_append [] htag hends
    (.tag (tag?_eq_some_iff.mpr ⟨rfl, hinside⟩) (cut_parts after))
  simpa using hcut.parts_eq

/-- A tag, a text without tags, and another tag. -/
theorem parts_between {opening closing : Text} (hopening : IsInside opening)
    (hclosing : IsInside closing) (htag : ¬HasTag t) (hlast : t.getLast? ≠ some (.char '\\'))
    (after : Text) :
    parts (bracketed opening ++ t ++ bracketed closing ++ after)
      = .tag (.ofInside opening) :: (textPart t.reverse
          ++ .tag (.ofInside closing) :: parts after) := by
  have hbehind := parts_first_tag hclosing htag hlast 0 after
  have hparts : tagParts 0 closing = [.tag (.ofInside closing)] := rfl
  simp only [slashText, List.replicate_zero, List.nil_append, hparts, List.append_assoc,
    List.singleton_append] at hbehind
  rw [List.append_assoc, List.append_assoc, parts_bracketed hopening, hbehind]

end Workspace.Terminal.Markup
