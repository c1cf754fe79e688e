/-
Workspace.Proofs.JsonString — a string that is written as JSON is read back.

`CodeForm` lists the four ways in which a code point stands in a written
string: an escape of one letter, itself, an escape of four digits, or two of
these for a character beyond the basic plane. Each of them reads back as that
code point (`stringBody_stringCode`), with one exception: a high surrogate is
read as one half of a pair when the low half follows. Reading never tells
whether two such escapes were written for one character or for two code
points, so the round trip (`stringAfterQuote_codes`) is one of texts without
a split pair (`Text.Unsplit`). Texts of characters are such
(`unsplit_ofString`).
-/
import Mathlib.Data.List.Chain
import Workspace.Json.Reader
import Workspace.Json.Writer

namespace Workspace

open Workspace.Json (isHighSurrogate isLowSurrogate)

/-! ## Split pairs -/

/-- The two code points are the halves of a surrogate pair, in this order. -/
def AreHalves (high low : Nat) : Prop :=
  isHighSurrogate high = true ∧ isLowSurrogate low = true

instance (high low : Nat) : Decidable (AreHalves high low) :=
  inferInstanceAs (Decidable (_ ∧ _))

/-- No two neighbours are the halves of a surrogate pair. -/
def UnsplitCodes (codes : List Nat) : Prop :=
  codes.IsChain fun a b => ¬AreHalves a b

/-- No character of the text is split into the halves of a surrogate pair. -/
def Text.Unsplit (t : Text) : Prop :=
  UnsplitCodes t.codes

instance (t : Text) : Decidable t.Unsplit :=
  inferInstanceAs (Decidable (List.IsChain _ _))

theorem CodePoint.toNat_lt (p : CodePoint) : p.toNat < 0x110000 := by
  cases p with
  | char c =>
    have hvalid := c.valid
    simp only [CodePoint.toNat, Char.toNat]
    rcases hvalid with h | h
    · omega
    · exact h.2
  | surrogate i =>
    simp only [CodePoint.toNat]
    omega

theorem Text.lt_of_mem_codes {t : Text} {code : Nat} (h : code ∈ t.codes) : code < 0x110000 := by
  obtain ⟨p, -, rfl⟩ := List.mem_map.mp h
  exact p.toNat_lt

/-- A character is no half of a pair. -/
theorem isHighSurrogate_char (c : Char) : isHighSurrogate c.toNat = false := by
  have hvalid : c.toNat.isValidChar := c.valid
  simp only [Nat.isValidChar] at hvalid
  simp only [isHighSurrogate, Bool.and_eq_false_iff, decide_eq_false_iff_not]
  omega

/-- **A text of characters has no split pair.** -/
theorem Text.unsplit_ofString (s : String) : (Text.ofString s).Unsplit := by
  refine List.Pairwise.isChain (List.pairwise_of_forall_mem_list fun a ha b _ hhalves => ?_)
  obtain ⟨p, hp, rfl⟩ := List.mem_map.mp ha
  obtain ⟨c, -, rfl⟩ := List.mem_map.mp hp
  exact Bool.false_ne_true ((isHighSurrogate_char c).symm.trans hhalves.1)

end Workspace

namespace Workspace.Json

/-! ## Four digits -/

theorem hexDigit?_digitChar : ∀ d < 16, Text.hexDigit? (Text.digitChar d) = some d := by
  decide

/-- Four written digits are read where something follows. -/
theorem fourHex?_fixedDigits {n : Nat} (h : n < 0x10000) {tail : List Char} (htail : tail ≠ []) :
    fourHex? (Text.fixedDigits 16 4 n ++ tail) = some (n, tail) := by
  obtain ⟨c, rest, rfl⟩ := List.exists_cons_of_ne_nil htail
  have hdigits : Text.fixedDigits 16 4 n
      = [Text.digitChar (n / 16 / 16 / 16 % 16), Text.digitChar (n / 16 / 16 % 16),
          Text.digitChar (n / 16 % 16), Text.digitChar (n % 16)] := rfl
  have hvalue : ((n / 16 / 16 / 16 % 16 * 16 + n / 16 / 16 % 16) * 16 + n / 16 % 16) * 16 + n % 16
      = n := by omega
  have hdigit : ∀ m, Text.hexDigit? (Text.digitChar (m % 16)) = some (m % 16) := fun m =>
    hexDigit?_digitChar _ (Nat.mod_lt m (by decide))
  rw [hdigits]
  simp only [List.cons_append, List.nil_append, fourHex?, hdigit, bind, Option.bind_some, pure,
    hvalue]

/-! ## One code point -/

/-- How a code point can stand in a string. -/
inductive CodeForm (code : Nat) : List Char → Prop
  | letter (c : Char) (hc : c ≠ 'u') (h : simpleEscape? c = some code) : CodeForm code ['\\', c]
  | itself (c : Char) (h : c.toNat = code) (hprintable : 0x20 ≤ code) (hquote : c ≠ '"')
      (hslash : c ≠ '\\') : CodeForm code [c]
  | unit (h : code < 0x10000) : CodeForm code (unitEscape code)
  | pair (high low : Nat) (hhigh : isHighSurrogate high = true) (hlow : isLowSurrogate low = true)
      (h : joinSurrogates high low = code) : CodeForm code (unitEscape high ++ unitEscape low)

theorem joinSurrogates_halves {code : Nat} (h : 0x10000 ≤ code) :
    joinSurrogates (0xd800 + (code - 0x10000) / 0x400) (0xdc00 + (code - 0x10000) % 0x400)
      = code := by
  have hjoin : ∀ a b, joinSurrogates (0xd800 + a) (0xdc00 + b) = 0x10000 + (a * 0x400 + b) := by
    intro a b
    unfold joinSurrogates
    omega
  rw [hjoin, Nat.div_add_mod', Nat.add_sub_cancel' h]

theorem toNat_ofNat_of_lt {code : Nat} (h : code < 0xd800) : (Char.ofNat code).toNat = code := by
  have hvalid : code.isValidChar := Or.inl h
  rw [Char.ofNat, dif_pos hvalid]
  rfl

theorem codeForm_stringCode {code : Nat} (h : code < 0x110000) :
    CodeForm code (stringCode code) := by
  unfold stringCode
  split
  · exact .letter '"' (by decide) (by simp [simpleEscape?, *])
  split
  · exact .letter '\\' (by decide) (by simp [simpleEscape?, *])
  split
  · exact .letter 'n' (by decide) (by simp [simpleEscape?, *])
  split
  · exact .letter 'r' (by decide) (by simp [simpleEscape?, *])
  split
  · exact .letter 't' (by decide) (by simp [simpleEscape?, *])
  split
  · exact .letter 'f' (by decide) (by simp [simpleEscape?, *])
  split
  · exact .letter 'b' (by decide) (by simp [simpleEscape?, *])
  split
  · next hprintable =>
    have hnat : (Char.ofNat code).toNat = code := toNat_ofNat_of_lt (by omega)
    refine .itself _ hnat hprintable.1 ?_ ?_
    · intro hc
      exact absurd (hnat.symm.trans (congrArg Char.toNat hc)) ‹_›
    · intro hc
      exact absurd (hnat.symm.trans (congrArg Char.toNat hc)) ‹_›
  split
  · next hbasic => exact .unit hbasic
  · refine .pair _ _ ?_ ?_ ?_
    · simp only [isHighSurrogate, Bool.and_eq_true, decide_eq_true_eq]
      omega
    · simp only [isLowSurrogate, Bool.and_eq_true, decide_eq_true_eq]
      omega
    · exact joinSurrogates_halves (by omega)

/-- The reading of a string goes on after a code point. -/
def andThen (code : Nat) : Read (List Nat) → Read (List Nat)
  | .error stop => .error stop
  | .ok (codes, left) => .ok (code :: codes, left)

section

variable {start rounds : List Char} {r : Char}

theorem stringBody_letter {c : Char} {code : Nat} (hc : c ≠ 'u') (h : simpleEscape? c = some code)
    (tail : List Char) :
    stringBody start (r :: rounds) ('\\' :: c :: tail)
      = andThen code (stringBody start rounds tail) := by
  rw [stringBody]
  · simp only [h]
    rfl
  · exact hc

theorem stringBody_itself {c : Char} (hprintable : 0x20 ≤ c.toNat) (hquote : c ≠ '"')
    (hslash : c ≠ '\\') (tail : List Char) :
    stringBody start (r :: rounds) (c :: tail)
      = andThen c.toNat (stringBody start rounds tail) := by
  rw [stringBody]
  · simp only [if_neg (Nat.not_lt.mpr hprintable)]
    rfl
  all_goals simp [hquote, hslash]

theorem stringBody_unicode {code : Nat} {digits tail : List Char}
    (h : unicodeEscape digits = .ok (code, tail)) :
    stringBody start (r :: rounds) ('\\' :: 'u' :: digits)
      = andThen code (stringBody start rounds tail) := by
  rw [stringBody]
  simp only [h]
  rfl

end

/-- An escape of four digits is the second half of a pair when it stands for a
low surrogate. -/
theorem lowHalf?_unitEscape {n : Nat} (h : n < 0x10000) {tail : List Char} (htail : tail ≠ []) :
    lowHalf? (unitEscape n ++ tail)
      = .ok (if isLowSurrogate n then some (n, tail) else none) := by
  have hdrop : (Text.fixedDigits 16 4 n ++ tail).drop 4 ≠ [] := htail
  show lowHalf? ('\\' :: 'u' :: (Text.fixedDigits 16 4 n ++ tail)) = _
  rw [lowHalf?, if_neg hdrop, fourHex?_fixedDigits h htail]

theorem lt_of_isHighSurrogate {n : Nat} (h : isHighSurrogate n = true) : n < 0xdc00 := by
  simp only [isHighSurrogate, Bool.and_eq_true, decide_eq_true_eq] at h
  exact h.2

theorem lt_of_isLowSurrogate {n : Nat} (h : isLowSurrogate n = true) : n < 0xe000 := by
  simp only [isLowSurrogate, Bool.and_eq_true, decide_eq_true_eq] at h
  exact h.2

theorem isLowSurrogate_of_isHighSurrogate {n : Nat} (h : isHighSurrogate n = true) :
    isLowSurrogate n = false := by
  have hlt := lt_of_isHighSurrogate h
  simp only [isLowSurrogate, Bool.and_eq_false_iff, decide_eq_false_iff_not]
  omega

/-- Nothing but a low surrogate is written as the second half of a pair. -/
theorem lowHalf?_codeForm {code : Nat} {form : List Char} (hform : CodeForm code form)
    (hlow : isLowSurrogate code = false) {tail : List Char} (htail : tail ≠ []) :
    lowHalf? (form ++ tail) = .ok none := by
  cases hform with
  | letter c hc h =>
    show lowHalf? ('\\' :: c :: tail) = _
    rw [lowHalf?]
    simp [hc]
  | itself c h hprintable hquote hslash =>
    show lowHalf? (c :: tail) = _
    rw [lowHalf?]
    simp [hslash]
  | unit h =>
    rw [lowHalf?_unitEscape h htail, hlow]
    rfl
  | pair high low hhigh _ h =>
    have hbasic : high < 0x10000 := Nat.lt_trans (lt_of_isHighSurrogate hhigh) (by decide)
    rw [List.append_assoc, lowHalf?_unitEscape hbasic (by simp [unitEscape]),
      isLowSurrogate_of_isHighSurrogate hhigh]
    rfl

/-- An escape of four digits is read as its code point, unless the other half
of a pair follows. -/
theorem unicodeEscape_fixedDigits {n : Nat} (h : n < 0x10000) {tail : List Char}
    (htail : tail ≠ []) (hnext : isHighSurrogate n = true → lowHalf? tail = .ok none) :
    unicodeEscape (Text.fixedDigits 16 4 n ++ tail) = .ok (n, tail) := by
  unfold unicodeEscape
  simp only [fourHex?_fixedDigits h htail]
  split
  · next hhigh => rw [hnext hhigh]
  · rfl

theorem unicodeEscape_pair {high low : Nat} (hhigh : isHighSurrogate high = true)
    (hlow : isLowSurrogate low = true) {tail : List Char} (htail : tail ≠ []) :
    unicodeEscape (Text.fixedDigits 16 4 high ++ (unitEscape low ++ tail))
      = .ok (joinSurrogates high low, tail) := by
  have hbasicHigh : high < 0x10000 := Nat.lt_trans (lt_of_isHighSurrogate hhigh) (by decide)
  have hbasicLow : low < 0x10000 := Nat.lt_trans (lt_of_isLowSurrogate hlow) (by decide)
  have hmore : unitEscape low ++ tail ≠ [] := by simp [unitEscape]
  unfold unicodeEscape
  simp only [fourHex?_fixedDigits hbasicHigh hmore, hhigh, if_true,
    lowHalf?_unitEscape hbasicLow htail, hlow]

/-- **A written code point is read back**, unless it is a high surrogate and
what follows is read as the other half of a pair. -/
theorem stringBody_codeForm {start rounds : List Char} {r : Char} {code : Nat} {form : List Char}
    (hform : CodeForm code form) {tail : List Char} (htail : tail ≠ [])
    (hnext : isHighSurrogate code = true → lowHalf? tail = .ok none) :
    stringBody start (r :: rounds) (form ++ tail)
      = andThen code (stringBody start rounds tail) := by
  cases hform with
  | letter c hc h => exact stringBody_letter hc h tail
  | itself c h hprintable hquote hslash =>
    subst h
    exact stringBody_itself hprintable hquote hslash tail
  | unit h => exact stringBody_unicode (unicodeEscape_fixedDigits h htail hnext)
  | pair high low hhigh hlow h =>
    rw [List.append_assoc]
    exact stringBody_unicode (h ▸ unicodeEscape_pair hhigh hlow htail)

/-! ## Whole strings -/

/-- Written code points are read back up to the closing quote. -/
theorem stringBody_codes {start : List Char} (rest : List Char) :
    ∀ {codes : List Nat} {rounds : List Char}, codes.length < rounds.length →
      (∀ code ∈ codes, code < 0x110000) → UnsplitCodes codes →
      stringBody start rounds (codes.flatMap stringCode ++ '"' :: rest) = .ok (codes, rest)
  | _, [], h, _, _ => absurd h (Nat.not_lt_zero _)
  | [], _ :: _, _, _, _ => rfl
  | code :: codes, _ :: rounds, hlength, hcodes, hunsplit => by
    obtain ⟨hhead, hchain⟩ := List.isChain_cons.mp hunsplit
    have htail : codes.flatMap stringCode ++ '"' :: rest ≠ [] := by simp
    have hnext : isHighSurrogate code = true →
        lowHalf? (codes.flatMap stringCode ++ '"' :: rest) = .ok none := by
      intro hhigh
      cases codes with
      | nil => rfl
      | cons next more =>
        have hlow : isLowSurrogate next = false := by
          simpa [AreHalves, hhigh] using hhead next rfl
        rw [List.flatMap_cons, List.append_assoc]
        exact lowHalf?_codeForm (codeForm_stringCode (hcodes next (by simp))) hlow (by simp)
    have ih : stringBody start rounds (codes.flatMap stringCode ++ '"' :: rest)
        = .ok (codes, rest) :=
      stringBody_codes rest (Nat.lt_of_succ_lt_succ hlength)
        (fun c hc => hcodes c (by simp [hc])) hchain
    rw [List.flatMap_cons, List.append_assoc,
      stringBody_codeForm (codeForm_stringCode (hcodes code (by simp))) htail hnext, ih]
    rfl

theorem CodeForm.ne_nil {code : Nat} {form : List Char} (h : CodeForm code form) : form ≠ [] := by
  cases h <;> simp [unitEscape]

theorem length_le_flatMap_stringCode :
    ∀ {codes : List Nat}, (∀ code ∈ codes, code < 0x110000) →
      codes.length ≤ (codes.flatMap stringCode).length
  | [], _ => Nat.zero_le _
  | code :: codes, h => by
    have hhead := List.length_pos_iff.mpr (codeForm_stringCode (h code (by simp))).ne_nil
    have ih := length_le_flatMap_stringCode fun c hc => h c (List.mem_cons_of_mem _ hc)
    rw [List.flatMap_cons, List.length_append, List.length_cons]
    omega

/-- **A text without a split pair is read back.** -/
theorem stringAfterQuote_codes {t : Text} (h : t.Unsplit) (rest : List Char) :
    stringAfterQuote (t.codes.flatMap stringCode ++ '"' :: rest) = .ok (t.codes, rest) := by
  have hcodes : ∀ code ∈ t.codes, code < 0x110000 := fun _ hcode => Text.lt_of_mem_codes hcode
  refine stringBody_codes rest ?_ hcodes h
  have hlength := length_le_flatMap_stringCode hcodes
  simp only [List.length_cons, List.length_append]
  omega

/-! ## No carriage return -/

theorem not_mem_fixedDigits (count n : Nat) : '\r' ∉ Text.fixedDigits 16 count n := by
  have hdigit : ∀ d < 16, '\r' ≠ Text.digitChar d := by decide
  induction count generalizing n with
  | zero => simp [Text.fixedDigits]
  | succ count ih =>
    rw [Text.fixedDigits, List.mem_append, List.mem_singleton, not_or]
    exact ⟨ih (n / 16), hdigit _ (Nat.mod_lt n (by decide))⟩

theorem not_mem_unitEscape (n : Nat) : '\r' ∉ unitEscape n := by
  simp [unitEscape, not_mem_fixedDigits]

theorem CodeForm.not_mem {code : Nat} {form : List Char} (h : CodeForm code form) :
    '\r' ∉ form := by
  cases h with
  | letter c hc h =>
    have hne : '\r' ≠ c := by
      rintro rfl
      simp [simpleEscape?] at h
    simp [hne]
  | itself c h hprintable _ _ =>
    have hne : '\r' ≠ c := by
      rintro rfl
      have : (0x20 : Nat) ≤ '\r'.toNat := h ▸ hprintable
      exact absurd this (by decide)
    simpa using hne
  | unit _ => exact not_mem_unitEscape code
  | pair high low _ _ _ => simp [not_mem_unitEscape]

/-- A carriage return is escaped, like every control character. -/
theorem not_mem_stringText (t : Text) : '\r' ∉ stringText t.codes := by
  have hcodes : '\r' ∉ t.codes.flatMap stringCode := by
    intro h
    obtain ⟨code, hcode, hform⟩ := List.mem_flatMap.mp h
    exact (codeForm_stringCode (Text.lt_of_mem_codes hcode)).not_mem hform
  simp [stringText, hcodes]

end Workspace.Json
