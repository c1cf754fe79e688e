/-
Workspace.Proofs.JsonRoundTrip — what is written as JSON is read back.

`Value.HasJson` tells which values JSON has a form for: null, booleans,
integers within the limit of digits, texts without a split pair, and lists
and mappings of such values, where the keys of a mapping are different texts.
Floats are left out, and so is what the writer shows as `null`.

A written value is read back wherever it stands (`ReadsBack`), as long as
what follows cannot be taken for more of it: nothing, a comma or a line end
(`Follows`). Items and members are read one by one up to the closing bracket
(`items_write`, `members_write`); the calls that the reader may make are
bounded by the length of the text. The texts as a whole are related by
`read_write`, also after line ends were unified (`unifyLineEnds_write`).
-/
import Workspace.Proofs.JsonString
import Workspace.Text.Utf8

namespace Workspace

/-- The mapping with these texts for keys. -/
def Value.ofFields (fields : List (Text × Value)) : Value :=
  .map (fields.map fun f => (.str f.1, f.2))

/-- JSON has a form for the value, and brackets are nested at most `depth` deep
in it. -/
inductive Value.HasJson : (depth : Nat) → Value → Prop
  | null {depth : Nat} : HasJson depth .null
  | bool {depth : Nat} (b : Bool) : HasJson depth (.bool b)
  | int {depth : Nat} {i : Int}
      (h : (Decimal.natDigits i.natAbs).length ≤ Json.integerDigitLimit) : HasJson depth (.int i)
  | str {depth : Nat} {t : Text} (h : t.Unsplit) : HasJson depth (.str t)
  | list {depth : Nat} {vs : List Value} (h : ∀ v ∈ vs, HasJson depth v) :
      HasJson (depth + 1) (.list vs)
  | map {depth : Nat} {fields : List (Text × Value)} (hnames : (fields.map Prod.fst).Nodup)
      (hunsplit : ∀ f ∈ fields, f.1.Unsplit) (h : ∀ f ∈ fields, HasJson depth f.2) :
      HasJson (depth + 1) (.ofFields fields)

namespace Value

/-- A new text key goes to the end. -/
theorem insertEntry_of_not_mem {t : Text} (v : Value) :
    ∀ {fields : List (Text × Value)}, t ∉ fields.map Prod.fst →
      insertEntry (.str t) v (fields.map fun f => (.str f.1, f.2))
        = (fields ++ [(t, v)]).map fun f => (.str f.1, f.2)
  | [], _ => rfl
  | f :: fields, h => by
    rw [List.map_cons, List.mem_cons, not_or] at h
    have hdifferent : (Value.str f.1).sameKey (.str t) = false := decide_eq_false (Ne.symm h.1)
    rw [List.map_cons, insertEntry, if_neg (by simp [hdifferent]), insertEntry_of_not_mem v h.2]
    rfl

/-- Different text keys are kept as they come. -/
theorem foldl_insertEntry_of_nodup :
    ∀ (later earlier : List (Text × Value)), ((earlier ++ later).map Prod.fst).Nodup →
      (later.map fun f => ((.str f.1, f.2) : Value × Value)).foldl
          (fun entries p => insertEntry p.1 p.2 entries)
          (earlier.map fun f => (.str f.1, f.2))
        = (earlier ++ later).map fun f => (.str f.1, f.2)
  | [], earlier, _ => by simp
  | f :: later, earlier, h => by
    have hsplit : earlier ++ f :: later = (earlier ++ [f]) ++ later := by simp
    have hnew : f.1 ∉ earlier.map Prod.fst := by
      intro hmem
      rw [List.map_append, List.nodup_append] at h
      exact h.2.2 f.1 hmem f.1 (by simp) rfl
    rw [List.map_cons, List.foldl_cons, insertEntry_of_not_mem f.2 hnew, hsplit]
    exact foldl_insertEntry_of_nodup later (earlier ++ [f]) (hsplit ▸ h)

theorem mapping_of_nodup {fields : List (Text × Value)} (h : (fields.map Prod.fst).Nodup) :
    mapping (fields.map fun f => (.str f.1, f.2)) = .ofFields fields :=
  congrArg Value.map (foldl_insertEntry_of_nodup fields [] h)

end Value

end Workspace

namespace Workspace.Json

open Decimal (natDigits)

/-! ## What follows a value -/

/-- Nothing that continues a value: the end, a comma or a line end. -/
def Follows (rest : List Char) : Prop :=
  ∀ c ∈ rest.head?, c = ',' ∨ c = '\n'

theorem Follows.cases {rest : List Char} (h : Follows rest) :
    rest = [] ∨ (∃ more, rest = ',' :: more) ∨ ∃ more, rest = '\n' :: more := by
  cases rest with
  | nil => exact Or.inl rfl
  | cons c more =>
    rcases h c rfl with rfl | rfl
    · exact Or.inr (Or.inl ⟨more, rfl⟩)
    · exact Or.inr (Or.inr ⟨more, rfl⟩)

/-! ## Numbers -/

theorem isDigit_of_mem_natDigits {n : Nat} {c : Char} (h : c ∈ natDigits n) : isDigit c = true :=
  Nat.isDigit_of_mem_toDigits (by decide) (by decide) h

theorem ne_of_isDigit {d c : Char} (hd : isDigit d = true) (hc : isDigit c = false) : d ≠ c := by
  rintro rfl
  exact Bool.false_ne_true (hc.symm.trans hd)

theorem digitsValue_natDigits (n : Nat) : digitsValue (natDigits n) = n := by
  have hfold : ∀ (cs : List Char) (m : Nat),
      (digitValues cs).foldl (fun n d => n * 10 + d) m = Nat.ofDigitChars 10 cs m := by
    intro cs m
    rw [Nat.ofDigitChars_eq_foldl, digitValues, List.foldl_map]
    congr 1
    funext k c
    rw [Nat.mul_comm]
    rfl
  rw [digitsValue, Decimal.valueOf, hfold]
  exact Nat.ofDigitChars_toDigits (by decide) (by decide)

/-- The digits of a number other than zero do not start with a zero. -/
theorem natDigits_eq_cons {n : Nat} (hn : n ≠ 0) : ∃ d ds, natDigits n = d :: ds ∧ d ≠ '0' := by
  induction n using Nat.strongRecOn with
  | ind n ih =>
    rw [natDigits, Nat.toDigits_eq_if (by decide)]
    split
    · exact ⟨_, [], rfl, fun h => hn (Nat.digitChar_eq_zero.mp h)⟩
    · next hbig =>
      obtain ⟨d, ds, hds, hd⟩ := ih (n / 10) (by omega) (by omega)
      exact ⟨d, ds ++ [(n % 10).digitChar], by rw [← natDigits, hds]; rfl, hd⟩

theorem takeWhile_isDigit {ds rest : List Char} (hds : ∀ c ∈ ds, isDigit c = true)
    (hrest : Follows rest) :
    (ds ++ rest).takeWhile isDigit = ds ∧ (ds ++ rest).dropWhile isDigit = rest := by
  rw [List.takeWhile_append_of_pos hds, List.dropWhile_append_of_pos hds]
  rcases hrest.cases with rfl | ⟨more, rfl⟩ | ⟨more, rfl⟩ <;> simp [isDigit]

theorem integerPart?_natDigits (n : Nat) {rest : List Char} (hrest : Follows rest) :
    integerPart? (natDigits n ++ rest) = some (natDigits n, rest) := by
  by_cases hn : n = 0
  · subst hn
    rfl
  · obtain ⟨d, ds, hds, hd⟩ := natDigits_eq_cons hn
    have hdigits : ∀ c ∈ d :: ds, isDigit c = true := fun c hc =>
      isDigit_of_mem_natDigits (hds ▸ hc)
    obtain ⟨htake, hdrop⟩ :=
      takeWhile_isDigit (fun c hc => hdigits c (List.mem_cons_of_mem _ hc)) hrest
    rw [hds, List.cons_append, integerPart?]
    · rw [if_pos (hdigits d (by simp)), htake, hdrop]
    · exact hd

theorem fractionPart_of_follows {rest : List Char} (h : Follows rest) :
    fractionPart rest = ([], rest) := by
  rcases h.cases with rfl | ⟨more, rfl⟩ | ⟨more, rfl⟩ <;> rfl

theorem exponentPart_of_follows {rest : List Char} (h : Follows rest) :
    exponentPart rest = (none, rest) := by
  rcases h.cases with rfl | ⟨more, rfl⟩ | ⟨more, rfl⟩ <;> rfl

/-- Written digits are read as their number. -/
theorem numberValue_natDigits {n : Nat} (hlimit : (natDigits n).length ≤ integerDigitLimit)
    (start : List Char) (negative : Bool) {rest : List Char} (hrest : Follows rest) :
    numberValue start negative (natDigits n ++ rest)
      = .ok (.int (if negative then -(n : Int) else n), rest) := by
  simp only [numberValue, integerPart?_natDigits n hrest, fractionPart_of_follows hrest,
    exponentPart_of_follows hrest, and_self, if_true, if_neg (Nat.not_lt.mpr hlimit),
    digitsValue_natDigits]

/-- A digit begins none of the named values. -/
theorem find?_namedValues_of_isDigit {d : Char} (hd : isDigit d = true) (rest : List Char) :
    namedValues.find? (fun n => n.1 = d && n.2.1.isPrefixOf rest) = none := by
  refine List.find?_eq_none.mpr fun named hmem => ?_
  have hfirst : isDigit named.1 = false := by
    revert named
    decide
  simp [(ne_of_isDigit hd hfirst).symm]

/-- A minus sign before a digit begins none of them either. -/
theorem find?_namedValues_minus {d : Char} (hd : isDigit d = true) (rest : List Char) :
    namedValues.find? (fun n => n.1 = '-' && n.2.1.isPrefixOf (d :: rest)) = none := by
  have hne : ('I' == d) = false := beq_eq_false_iff_ne.mpr (ne_of_isDigit hd rfl).symm
  simp [namedValues, List.find?, List.isPrefixOf, hne]

/-- **A written integer is read back.** -/
theorem atomValue_intText {i : Int} (hlimit : (natDigits i.natAbs).length ≤ integerDigitLimit)
    {rest : List Char} (hrest : Follows rest) :
    atomValue ((Decimal.intText i).toList ++ rest) = .ok (.int i, rest) := by
  obtain ⟨d, ds, hds⟩ : ∃ d ds, natDigits i.natAbs = d :: ds :=
    List.exists_cons_of_ne_nil Nat.toDigits_ne_nil
  have hd : isDigit d = true := isDigit_of_mem_natDigits (hds ▸ List.mem_cons_self)
  have hminus : d ≠ '-' := ne_of_isDigit hd rfl
  have hnumber := fun start negative =>
    numberValue_natDigits hlimit start negative hrest
  rw [Decimal.intText, String.toList_ofList]
  rw [hds] at hnumber ⊢
  split
  · next hneg =>
    have hi : -(i.natAbs : Int) = i := by omega
    show atomValue ('-' :: d :: (ds ++ rest)) = _
    simp only [atomValue, find?_namedValues_minus hd, if_true]
    exact (hnumber _ true).trans (by rw [if_pos rfl, hi])
  · next hpos =>
    have hi : (i.natAbs : Int) = i := by omega
    show atomValue (d :: (ds ++ rest)) = _
    simp only [atomValue, find?_namedValues_of_isDigit hd, if_neg hminus]
    exact (hnumber _ false).trans (by rw [if_neg Bool.false_ne_true, hi])

/-! ## Blanks between the parts -/

theorem skipSpace_cons {c : Char} (h : isSpace c = false) (cs : List Char) :
    skipSpace (c :: cs) = c :: cs := by
  rw [skipSpace, List.dropWhile_cons_of_neg (by simp [h])]

theorem skipSpace_newLine (level : Nat) {c : Char} (h : isSpace c = false) (cs : List Char) :
    skipSpace (newLine level ++ c :: cs) = c :: cs := by
  have hblank : ∀ b ∈ newLine level, isSpace b = true := by
    intro b hb
    rcases List.mem_cons.mp hb with rfl | hb
    · rfl
    · rw [List.eq_of_mem_replicate hb]
      rfl
  rw [skipSpace, List.dropWhile_append_of_pos hblank]
  exact skipSpace_cons h cs

/-- The characters with which a value can start: no blank, no closing bracket
and no byte order mark. -/
def StartsValue (c : Char) : Prop :=
  isSpace c = false ∧ c ≠ ']' ∧ c ≠ '\x7d' ∧ c ≠ '\ufeff'

instance (c : Char) : Decidable (StartsValue c) :=
  inferInstanceAs (Decidable (_ ∧ _))

/-- A text that starts like a value. -/
def IsPart (part : List Char) : Prop :=
  ∃ c cs, part = c :: cs ∧ StartsValue c

theorem IsPart.append {part : List Char} (h : IsPart part) (rest : List Char) :
    IsPart (part ++ rest) := by
  obtain ⟨c, cs, rfl, hc⟩ := h
  exact ⟨c, cs ++ rest, rfl, hc⟩

theorem IsPart.skipSpace_newLine {part : List Char} (h : IsPart part) (level : Nat) :
    skipSpace (newLine level ++ part) = part := by
  obtain ⟨c, cs, rfl, hc⟩ := h
  exact Json.skipSpace_newLine level hc.1 cs

/-- An integer starts with a minus sign or a digit. -/
theorem exists_intText_eq_cons (i : Int) :
    ∃ c cs, (Decimal.intText i).toList = c :: cs ∧ (c = '-' ∨ isDigit c = true) := by
  rw [Decimal.intText, String.toList_ofList]
  split
  · exact ⟨'-', natDigits i.natAbs, rfl, Or.inl rfl⟩
  · obtain ⟨d, ds, hds⟩ : ∃ d ds, natDigits i.natAbs = d :: ds :=
      List.exists_cons_of_ne_nil Nat.toDigits_ne_nil
    exact ⟨d, ds, hds, Or.inr (isDigit_of_mem_natDigits (hds ▸ List.mem_cons_self))⟩

theorem startsValue_of_isDigit {d : Char} (hd : isDigit d = true) : StartsValue d := by
  have hspace : d ≠ ' ' ∧ d ≠ '\t' ∧ d ≠ '\n' ∧ d ≠ '\r' :=
    ⟨ne_of_isDigit hd rfl, ne_of_isDigit hd rfl, ne_of_isDigit hd rfl, ne_of_isDigit hd rfl⟩
  refine ⟨?_, ne_of_isDigit hd rfl, ne_of_isDigit hd rfl, ne_of_isDigit hd rfl⟩
  simpa [isSpace, and_assoc] using hspace

theorem isPart_intText (i : Int) : IsPart (Decimal.intText i).toList := by
  obtain ⟨c, cs, hcs, rfl | hc⟩ := exists_intText_eq_cons i
  · exact ⟨'-', cs, hcs, by decide⟩
  · exact ⟨c, cs, hcs, startsValue_of_isDigit hc⟩

/-! ## Blocks -/

/-- What stands after the first part of a block, and after the block. -/
def blockRest (level : Nat) (closing : Char) (rest : List Char) : List (List Char) → List Char
  | [] => newLine level ++ closing :: rest
  | part :: parts => ',' :: (newLine (level + 1) ++ (part ++ blockRest level closing rest parts))

theorem block_append (level : Nat) (opening closing : Char) (part : List Char)
    (parts : List (List Char)) (rest : List Char) :
    block level opening closing (part :: parts) ++ rest
      = opening :: (newLine (level + 1) ++ (part ++ blockRest level closing rest parts)) := by
  have hparts : ∀ parts : List (List Char),
      parts.flatMap (fun part => ',' :: newLine (level + 1) ++ part) ++ newLine level
          ++ closing :: rest = blockRest level closing rest parts := by
    intro parts
    induction parts with
    | nil => rfl
    | cons p ps ih => simp [blockRest, ← ih]
  simp [block, ← hparts]

theorem isPart_block {level : Nat} {opening closing : Char} (h : StartsValue opening)
    (parts : List (List Char)) : IsPart (block level opening closing parts) := by
  cases parts with
  | nil => exact ⟨opening, _, rfl, h⟩
  | cons part parts => exact ⟨opening, _, rfl, h⟩

theorem follows_blockRest (level : Nat) (closing : Char) (rest : List Char)
    (parts : List (List Char)) : Follows (blockRest level closing rest parts) := by
  intro c hc
  cases parts with
  | nil =>
    have hline : '\n' = c := Option.some.inj hc
    exact Or.inr hline.symm
  | cons part parts =>
    have hcomma : ',' = c := Option.some.inj hc
    exact Or.inl hcomma.symm

theorem length_blockRest (level : Nat) (closing : Char) (rest : List Char)
    (parts : List (List Char)) : rest.length < (blockRest level closing rest parts).length := by
  induction parts with
  | nil =>
    simp only [blockRest, newLine, List.length_append, List.length_cons]
    omega
  | cons part parts ih =>
    simp only [blockRest, List.length_append, List.length_cons]
    omega

/-- A written value starts like one. -/
theorem isPart_write {depth : Nat} {v : Value} (h : v.HasJson depth) (level : Nat) :
    IsPart (write level v) := by
  cases h with
  | null => exact ⟨'n', _, rfl, by decide⟩
  | bool b => cases b <;> exact ⟨_, _, rfl, by decide⟩
  | int h => exact isPart_intText _
  | str h => exact ⟨'"', _, rfl, by decide⟩
  | list h => exact isPart_block (by decide) _
  | map hnames hunsplit h => exact isPart_block (by decide) _

/-! ## Reading values -/

/-- The value is read back at any level, and what follows it is left. -/
def ReadsBack (depth : Nat) (v : Value) : Prop :=
  ∀ {calls level : Nat} {rest : List Char}, (write level v).length ≤ calls → Follows rest →
    value calls depth (write level v ++ rest) = .ok (v, rest)

/-- A string is read as the text that it was written from. -/
theorem value_stringText (calls depth : Nat) {t : Text} (h : t.Unsplit) (rest : List Char) :
    value (calls + 1) depth (stringText t.codes ++ rest) = .ok (.str t, rest) := by
  have htext : stringText t.codes ++ rest
      = '"' :: (t.codes.flatMap stringCode ++ '"' :: rest) := by
    simp [stringText]
  rw [htext, value, stringAfterQuote_codes h]
  simp only [Text.ofCodes_codes]

/-- What begins neither a string nor a bracket is an atom. -/
theorem value_atom {calls depth : Nat} {c : Char} {cs : List Char} (hquote : c ≠ '"')
    (hlist : c ≠ '[') (hmap : c ≠ '\x7b') :
    value (calls + 1) depth (c :: cs) = atomValue (c :: cs) := by
  rw [value]
  all_goals simp [hquote, hlist, hmap]

/-- Where a part follows the bracket, the items of a list are read. -/
theorem value_list {calls depth : Nat} {inner : List Char} (h : IsPart inner) (level : Nat) :
    value (calls + 1) (depth + 1) ('[' :: (newLine level ++ inner))
      = match items calls depth inner with
        | .error stop => .error stop
        | .ok (vs, left) => .ok (.list vs, left) := by
  obtain ⟨c, cs, rfl, hspace, hclosing, -⟩ := h
  rw [value.eq_def]
  simp only [skipSpace_newLine level hspace]
  split
  · next h => exact absurd h (Nat.succ_ne_zero depth)
  · next h _ => exact absurd (List.cons.inj h).1 hclosing
  · next h _ =>
    obtain rfl := Nat.succ.inj h
    rfl

/-- Where a part follows the bracket, the members of a mapping are read. -/
theorem value_map {calls depth : Nat} {inner : List Char} (h : IsPart inner) (level : Nat) :
    value (calls + 1) (depth + 1) ('\x7b' :: (newLine level ++ inner))
      = match members calls depth inner with
        | .error stop => .error stop
        | .ok (pairs, left) => .ok (.mapping pairs, left) := by
  obtain ⟨c, cs, rfl, hspace, -, hclosing, -⟩ := h
  rw [value.eq_def]
  simp only [skipSpace_newLine level hspace]
  split
  · next h => exact absurd h (Nat.succ_ne_zero depth)
  · next h _ => exact absurd (List.cons.inj h).1 hclosing
  · next h _ =>
    obtain rfl := Nat.succ.inj h
    rfl

theorem writeItems_eq_map (level : Nat) :
    ∀ vs : List Value, writeItems level vs = vs.map (write level)
  | [] => rfl
  | v :: vs => by rw [writeItems, writeItems_eq_map level vs, List.map_cons]

/-- The text of a member. -/
def memberText (level : Nat) (f : Text × Value) : List Char :=
  stringText f.1.codes ++ ':' :: ' ' :: write level f.2

theorem writeMembers_eq_map (level : Nat) :
    ∀ fields : List (Text × Value),
      writeMembers level (fields.map fun f => (.str f.1, f.2)) = fields.map (memberText level)
  | [] => rfl
  | f :: fields => by
    rw [List.map_cons, writeMembers, writeMembers_eq_map level fields, List.map_cons]
    rfl

/-- A value before the closing bracket is the last item. -/
theorem items_last {calls depth level : Nat} {v : Value} {cs rest : List Char}
    (hvalue : value calls depth cs = .ok (v, newLine level ++ ']' :: rest)) :
    items (calls + 1) depth cs = .ok ([v], rest) := by
  rw [items, hvalue]
  simp only [skipSpace_newLine level (by decide : isSpace ']' = false)]

/-- After a value and a comma the items go on. -/
theorem items_more {calls depth level : Nat} {v : Value} {cs inner : List Char}
    (hvalue : value calls depth cs = .ok (v, ',' :: (newLine level ++ inner)))
    (hinner : IsPart inner) {vs : List Value} {rest : List Char}
    (hmore : items calls depth inner = .ok (vs, rest)) :
    items (calls + 1) depth cs = .ok (v :: vs, rest) := by
  rw [items, hvalue]
  simp only [skipSpace_cons (by decide : isSpace ',' = false), hinner.skipSpace_newLine, hmore]

/-- **Written items are read back** up to the closing bracket. -/
theorem items_write {depth level : Nat} (rest : List Char) :
    ∀ {vs : List Value} {v : Value} {calls : Nat},
      (∀ u ∈ v :: vs, ReadsBack depth u ∧ IsPart (write (level + 1) u)) →
      (write (level + 1) v ++ blockRest level ']' rest (vs.map (write (level + 1)))).length
        ≤ calls + rest.length →
      items calls depth
          (write (level + 1) v ++ blockRest level ']' rest (vs.map (write (level + 1))))
        = .ok (v :: vs, rest)
  | vs, _, 0, _, hcalls => by
    have hrest := length_blockRest level ']' rest (vs.map (write (level + 1)))
    rw [List.length_append] at hcalls
    omega
  | vs, v, calls + 1, h, hcalls => by
    have hrest := length_blockRest level ']' rest (vs.map (write (level + 1)))
    rw [List.length_append] at hcalls
    have hvalue := (h v (by simp)).1 (by omega : (write (level + 1) v).length ≤ calls)
      (follows_blockRest level ']' rest (vs.map (write (level + 1))))
    cases vs with
    | nil => exact items_last hvalue
    | cons u vs =>
      have hpart := (h u (by simp)).2.append
        (blockRest level ']' rest (vs.map (write (level + 1))))
      refine items_more hvalue hpart (items_write rest (fun x hx => h x (by simp [hx])) ?_)
      simp only [List.map_cons, blockRest, List.length_append, List.length_cons] at hcalls ⊢
      omega

/-- A member is a key, a colon and a value. -/
theorem members_stringText {calls depth : Nat} {t : Text} (ht : t.Unsplit) {v : Value}
    {cs after : List Char} (hcs : IsPart cs) (hvalue : value calls depth cs = .ok (v, after)) :
    members (calls + 1) depth (stringText t.codes ++ ':' :: ' ' :: cs)
      = match skipSpace after with
        | '\x7d' :: left => .ok ([(.str t, v)], left)
        | ',' :: more =>
          match members calls depth (skipSpace more) with
          | .error stop => .error stop
          | .ok (pairs, left) => .ok ((.str t, v) :: pairs, left)
        | other => .error (.defect .comma other) := by
  have htext : stringText t.codes ++ ':' :: ' ' :: cs
      = '"' :: (t.codes.flatMap stringCode ++ '"' :: ':' :: ' ' :: cs) := by
    simp [stringText]
  have hblank : skipSpace (' ' :: cs) = cs := by
    obtain ⟨c, more, rfl, hc⟩ := hcs
    exact skipSpace_cons hc.1 more
  rw [htext, members, stringAfterQuote_codes ht]
  simp only [skipSpace_cons (by decide : isSpace ':' = false), hblank, Text.ofCodes_codes]
  generalize value calls depth cs = read at hvalue ⊢
  subst hvalue
  rfl

/-- A member before the closing brace is the last one. -/
theorem members_last {calls depth level : Nat} {t : Text} (ht : t.Unsplit) {v : Value}
    {cs rest : List Char} (hcs : IsPart cs)
    (hvalue : value calls depth cs = .ok (v, newLine level ++ '\x7d' :: rest)) :
    members (calls + 1) depth (stringText t.codes ++ ':' :: ' ' :: cs)
      = .ok ([(.str t, v)], rest) := by
  rw [members_stringText ht hcs hvalue]
  simp only [skipSpace_newLine level (by decide : isSpace '\x7d' = false)]

/-- After a member and a comma the members go on. -/
theorem members_more {calls depth level : Nat} {t : Text} (ht : t.Unsplit) {v : Value}
    {cs inner : List Char} (hcs : IsPart cs)
    (hvalue : value calls depth cs = .ok (v, ',' :: (newLine level ++ inner)))
    (hinner : IsPart inner) {pairs : List (Value × Value)} {rest : List Char}
    (hmore : members calls depth inner = .ok (pairs, rest)) :
    members (calls + 1) depth (stringText t.codes ++ ':' :: ' ' :: cs)
      = .ok ((.str t, v) :: pairs, rest) := by
  rw [members_stringText ht hcs hvalue]
  simp only [skipSpace_cons (by decide : isSpace ',' = false), hinner.skipSpace_newLine, hmore]

theorem isPart_memberText (level : Nat) (f : Text × Value) : IsPart (memberText level f) :=
  ⟨'"', _, rfl, by decide⟩

/-- **Written members are read back** up to the closing brace. -/
theorem members_write {depth level : Nat} (rest : List Char) :
    ∀ {fields : List (Text × Value)} {f : Text × Value} {calls : Nat},
      (∀ g ∈ f :: fields,
        g.1.Unsplit ∧ ReadsBack depth g.2 ∧ IsPart (write (level + 1) g.2)) →
      (memberText (level + 1) f
          ++ blockRest level '\x7d' rest (fields.map (memberText (level + 1)))).length
        ≤ calls + rest.length →
      members calls depth
          (memberText (level + 1) f
            ++ blockRest level '\x7d' rest (fields.map (memberText (level + 1))))
        = .ok ((f :: fields).map fun g => (.str g.1, g.2), rest)
  | fields, _, 0, _, hcalls => by
    have hrest := length_blockRest level '\x7d' rest (fields.map (memberText (level + 1)))
    rw [List.length_append] at hcalls
    omega
  | fields, f, calls + 1, h, hcalls => by
    obtain ⟨hkey, hback, hstart⟩ := h f (by simp)
    have hrest := length_blockRest level '\x7d' rest (fields.map (memberText (level + 1)))
    have hsplit : ∀ tail, memberText (level + 1) f ++ tail
        = stringText f.1.codes ++ ':' :: ' ' :: (write (level + 1) f.2 ++ tail) := by
      intro tail
      simp [memberText]
    have hlength : (write (level + 1) f.2).length ≤ calls := by
      rw [hsplit] at hcalls
      simp only [List.length_append, List.length_cons] at hcalls
      omega
    have hvalue := hback hlength
      (follows_blockRest level '\x7d' rest (fields.map (memberText (level + 1))))
    rw [List.length_append] at hcalls
    rw [hsplit]
    cases fields with
    | nil => exact members_last hkey (hstart.append _) hvalue
    | cons g fields =>
      have hpart := (isPart_memberText (level + 1) g).append
        (blockRest level '\x7d' rest (fields.map (memberText (level + 1))))
      refine members_more hkey (hstart.append _) hvalue hpart
        (members_write rest (fun x hx => h x (by simp [hx])) ?_)
      simp only [List.map_cons, blockRest, List.length_append, List.length_cons] at hcalls ⊢
      omega

/-- One call is never too few, since every part takes up some text. -/
theorem readsBack_of_isPart {depth : Nat} {v : Value} (hpart : ∀ level, IsPart (write level v))
    (h : ∀ {calls level : Nat} {rest : List Char}, (write level v).length ≤ calls + 1 →
      Follows rest → value (calls + 1) depth (write level v ++ rest) = .ok (v, rest)) :
    ReadsBack depth v := by
  intro calls level rest hcalls hrest
  cases calls with
  | zero =>
    obtain ⟨c, cs, hcs, -⟩ := hpart level
    simp [hcs] at hcalls
  | succ calls => exact h hcalls hrest

theorem readsBack_int {depth : Nat} {i : Int}
    (hlimit : (natDigits i.natAbs).length ≤ integerDigitLimit) : ReadsBack depth (.int i) := by
  refine readsBack_of_isPart (isPart_write (@Value.HasJson.int depth i hlimit)) ?_
  intro calls level rest _ hrest
  have hatom := atomValue_intText hlimit hrest
  obtain ⟨c, cs, hcs, hc⟩ := exists_intText_eq_cons i
  have hne : c ≠ '"' ∧ c ≠ '[' ∧ c ≠ '\x7b' := by
    rcases hc with rfl | hc
    · decide
    · exact ⟨ne_of_isDigit hc rfl, ne_of_isDigit hc rfl, ne_of_isDigit hc rfl⟩
  rw [write]
  rw [hcs] at hatom ⊢
  exact (value_atom hne.1 hne.2.1 hne.2.2).trans hatom

theorem readsBack_list {depth : Nat} {vs : List Value} (hall : ∀ v ∈ vs, v.HasJson depth)
    (ih : ∀ v ∈ vs, ReadsBack depth v) : ReadsBack (depth + 1) (.list vs) := by
  refine readsBack_of_isPart (isPart_write (.list hall)) ?_
  intro calls level rest hcalls _
  cases vs with
  | nil => rfl
  | cons v vs =>
    have hwrite : write level (.list (v :: vs)) ++ rest
        = '[' :: (newLine (level + 1) ++ (write (level + 1) v
            ++ blockRest level ']' rest (vs.map (write (level + 1))))) := by
      rw [write, writeItems_eq_map, List.map_cons, block_append]
    have hlength := congrArg List.length hwrite
    simp only [List.length_append, List.length_cons] at hlength
    have hpart := (isPart_write (hall v (by simp)) (level + 1)).append
      (blockRest level ']' rest (vs.map (write (level + 1))))
    have hitems : items calls depth _ = .ok (v :: vs, rest) :=
      items_write rest (fun u hu => ⟨ih u hu, isPart_write (hall u hu) (level + 1)⟩)
        (by rw [List.length_append]; omega)
    rw [hwrite, value_list hpart, hitems]

theorem readsBack_ofFields {depth : Nat} {fields : List (Text × Value)}
    (hnames : (fields.map Prod.fst).Nodup) (hunsplit : ∀ f ∈ fields, f.1.Unsplit)
    (hall : ∀ f ∈ fields, f.2.HasJson depth) (ih : ∀ f ∈ fields, ReadsBack depth f.2) :
    ReadsBack (depth + 1) (.ofFields fields) := by
  refine readsBack_of_isPart (isPart_write (.map hnames hunsplit hall)) ?_
  intro calls level rest hcalls _
  cases fields with
  | nil => rfl
  | cons f fields =>
    have hwrite : write level (.ofFields (f :: fields)) ++ rest
        = '\x7b' :: (newLine (level + 1) ++ (memberText (level + 1) f
            ++ blockRest level '\x7d' rest (fields.map (memberText (level + 1))))) := by
      rw [Value.ofFields, write, writeMembers_eq_map, List.map_cons, block_append]
    have hlength := congrArg List.length hwrite
    simp only [List.length_append, List.length_cons] at hlength
    have hpart := (isPart_memberText (level + 1) f).append
      (blockRest level '\x7d' rest (fields.map (memberText (level + 1))))
    have hmembers : members calls depth _ = .ok (_, rest) :=
      members_write rest
        (fun g hg => ⟨hunsplit g hg, ih g hg, isPart_write (hall g hg) (level + 1)⟩)
        (by rw [List.length_append]; omega)
    rw [hwrite, value_map hpart, hmembers]
    exact congrArg (fun v => Except.ok (v, rest)) (Value.mapping_of_nodup hnames)

/-- **Every value that JSON has a form for is read back.** -/
theorem readsBack_of_hasJson {depth : Nat} {v : Value} (h : v.HasJson depth) :
    ReadsBack depth v := by
  induction h with
  | @null depth =>
    exact readsBack_of_isPart (isPart_write (@Value.HasJson.null depth)) fun _ _ => rfl
  | @bool depth b =>
    refine readsBack_of_isPart (isPart_write (@Value.HasJson.bool depth b)) fun _ _ => ?_
    cases b <;> rfl
  | int hlimit => exact readsBack_int hlimit
  | @str depth t ht =>
    exact readsBack_of_isPart (isPart_write (@Value.HasJson.str depth t ht)) fun _ _ =>
      value_stringText _ _ ht _
  | list hall ih => exact readsBack_list hall ih
  | map hnames hunsplit hall ih => exact readsBack_ofFields hnames hunsplit hall ih

/-! ## Whole texts -/

/-- The text of a value with a line end after it. -/
theorem read_write {v : Value} (h : v.HasJson nestingLimit) :
    read (write 0 v ++ ['\n']) = .ok v := by
  obtain ⟨c, cs, hcs, hspace, -, -, hmark⟩ := isPart_write h 0
  have hvalue : value (2 * (write 0 v ++ ['\n']).length + 2) nestingLimit (write 0 v ++ ['\n'])
      = .ok (v, ['\n']) := by
    refine readsBack_of_hasJson h ?_ (fun c hc => Or.inr (Option.some.inj hc).symm)
    rw [List.length_append]
    omega
  have hskip : skipSpace (write 0 v ++ ['\n']) = write 0 v ++ ['\n'] := by
    rw [hcs]
    exact skipSpace_cons hspace _
  have hhead : (write 0 v ++ ['\n']).head? ≠ some '\ufeff' := by
    rw [hcs]
    exact fun hc => hmark (Option.some.inj hc)
  rw [read, if_neg hhead, hskip, hvalue]
  rfl

/-! ## Line ends -/

theorem unifyLineEnds_of_not_mem :
    ∀ {cs : List Char}, '\r' ∉ cs → Text.unifyLineEnds cs = cs
  | [], _ => rfl
  | c :: cs, h => by
    rw [List.mem_cons, not_or] at h
    rw [Text.unifyLineEnds, unifyLineEnds_of_not_mem h.2]
    · rintro _ rfl
      exact absurd rfl h.1
    · rintro rfl
      exact absurd rfl h.1

theorem not_mem_block {c : Char} {level : Nat} {opening closing : Char}
    {parts : List (List Char)} (hopening : c ≠ opening) (hclosing : c ≠ closing)
    (hline : c ∉ ['\n', ' ', ',']) (h : ∀ part ∈ parts, c ∉ part) :
    c ∉ block level opening closing parts := by
  simp only [List.mem_cons, List.not_mem_nil, or_false, not_or] at hline
  have hnewLine : ∀ n, c ∉ newLine n := by
    intro n hc
    rcases List.mem_cons.mp hc with hc | hc
    · exact hline.1 hc
    · exact hline.2.1 (List.eq_of_mem_replicate hc)
  cases parts with
  | nil => simp [block, hopening, hclosing]
  | cons part parts =>
    have hpart := h part (by simp)
    have hparts : ∀ p ∈ parts, c ∉ p := fun p hp => h p (by simp [hp])
    simp only [block, List.mem_append, List.mem_cons, List.mem_flatMap, hnewLine, hopening,
      hclosing, hpart, hline.2.2, List.not_mem_nil, or_false, false_or, not_exists, not_and]
    exact hparts

theorem not_mem_intText {c : Char} (hsign : c ≠ '-') (hdigit : isDigit c = false) (i : Int) :
    c ∉ (Decimal.intText i).toList := by
  have hdigits : c ∉ natDigits i.natAbs := fun h =>
    Bool.false_ne_true (hdigit.symm.trans (isDigit_of_mem_natDigits h))
  rw [Decimal.intText, String.toList_ofList]
  split
  · simp [hsign, hdigits]
  · exact hdigits

/-- No carriage return is written. -/
theorem not_mem_write {depth : Nat} {v : Value} (h : v.HasJson depth) (level : Nat) :
    '\r' ∉ write level v := by
  induction h generalizing level with
  | null => simp [write]
  | bool b => cases b <;> simp [write]
  | int _ => exact not_mem_intText (by decide) (by decide) _
  | str _ => exact not_mem_stringText _
  | list _ ih =>
    rw [write, writeItems_eq_map]
    refine not_mem_block (by decide) (by decide) (by decide) ?_
    rintro part hpart
    obtain ⟨v, hv, rfl⟩ := List.mem_map.mp hpart
    exact ih v hv (level + 1)
  | map _ _ _ ih =>
    rw [Value.ofFields, write, writeMembers_eq_map]
    refine not_mem_block (by decide) (by decide) (by decide) ?_
    rintro part hpart
    obtain ⟨f, hf, rfl⟩ := List.mem_map.mp hpart
    have hvalue := ih f hf (level + 1)
    simp [memberText, not_mem_stringText, hvalue]

/-- **A written text is read back from a file**, the line end after it
included. -/
theorem read_unifyLineEnds_text {v : Value} (h : v.HasJson nestingLimit) :
    read (Text.unifyLineEnds (text v ++ "\n").toList) = .ok v := by
  have htext : (text v ++ "\n").toList = write 0 v ++ ['\n'] := by
    rw [String.toList_append, text, String.toList_ofList]
    rfl
  have hclean : '\r' ∉ write 0 v ++ ['\n'] := by
    simp [not_mem_write h]
  rw [htext, unifyLineEnds_of_not_mem hclean, read_write h]

end Workspace.Json
