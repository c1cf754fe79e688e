/-
Workspace.Proofs.JsonFault — how reading a JSON text can fail.

A text that does not follow the grammar is refused with the place of the
defect. There are only two other ways to fail: an integer has more decimal
digits than are read, or brackets are nested too deep
(`isNumeralOrDepth_of_read`). Every reader hands on how the readers of its
parts stopped, so the proof goes along their calls; `Stop.IsExpected` is what
all of them keep.
-/
import Workspace.Json.Reader

namespace Workspace.Json

/-- What a JSON text can have wrong besides its grammar: an integer that is
too long, or brackets that are nested too deep. -/
def IsNumeralOrDepth (fault : ContentFault) : Prop :=
  (∃ digits, integerDigitLimit < digits ∧ fault = .longInteger digits) ∨ fault = .tooDeep

/-- A reader stops at a defect, or at one of the two other faults. -/
def Stop.IsExpected : Stop → Prop
  | .defect _ _ => True
  | .content fault => IsNumeralOrDepth fault

/-! ## Strings and numbers -/

theorem isExpected_lowHalf? {rest : List Char} {stop : Stop} (h : lowHalf? rest = .error stop) :
    stop.IsExpected := by
  unfold lowHalf? at h
  split at h
  · split at h
    · simp at h
    · split at h
      · cases h; trivial
      · simp at h
  · simp at h

theorem isExpected_unicodeEscape {cs : List Char} {stop : Stop}
    (h : unicodeEscape cs = .error stop) : stop.IsExpected := by
  unfold unicodeEscape at h
  split at h
  · cases h; trivial
  · split at h
    · split at h
      · next hlow =>
        cases h
        exact isExpected_lowHalf? hlow
      · simp at h
      · simp at h
    · simp at h

theorem isExpected_stringBody {start : List Char} {stop : Stop} :
    ∀ {rounds cs : List Char}, stringBody start rounds cs = .error stop → stop.IsExpected
  | [], cs, h => by
    cases h; trivial
  | _ :: rounds, cs, h => by
    unfold stringBody at h
    split at h
    · cases h; trivial
    · simp at h
    · cases h; trivial
    · -- a code point by its number
      split at h
      · next hescape =>
        cases h
        exact isExpected_unicodeEscape hescape
      · split at h
        · next hbody =>
          cases h
          exact isExpected_stringBody hbody
        · simp at h
    · split at h
      · cases h; trivial
      · split at h
        · next hbody =>
          cases h
          exact isExpected_stringBody hbody
        · simp at h
    · split at h
      · cases h; trivial
      · split at h
        · next hbody =>
          cases h
          exact isExpected_stringBody hbody
        · simp at h

theorem isExpected_stringAfterQuote {cs : List Char} {stop : Stop}
    (h : stringAfterQuote cs = .error stop) : stop.IsExpected :=
  isExpected_stringBody h

theorem isExpected_numberValue {start cs : List Char} {negative : Bool} {stop : Stop}
    (h : numberValue start negative cs = .error stop) : stop.IsExpected := by
  unfold numberValue at h
  split at h
  · cases h; trivial
  · simp only at h
    split at h
    · split at h
      · next hlong =>
        cases h
        exact Or.inl ⟨_, hlong, rfl⟩
      · simp at h
    · simp at h

theorem isExpected_atomValue {cs : List Char} {stop : Stop} (h : atomValue cs = .error stop) :
    stop.IsExpected := by
  unfold atomValue at h
  split at h
  · cases h; trivial
  · split at h
    · simp at h
    · split at h
      · exact isExpected_numberValue h
      · exact isExpected_numberValue h

/-! ## Values -/

/-- With this many calls, readers of values, items and members stop as
expected. -/
structure StopsAsExpected (calls : Nat) : Prop where
  value : ∀ {depth cs stop}, value calls depth cs = .error stop → stop.IsExpected
  items : ∀ {depth cs stop}, items calls depth cs = .error stop → stop.IsExpected
  members : ∀ {depth cs stop}, members calls depth cs = .error stop → stop.IsExpected

theorem StopsAsExpected.succ_value {n : Nat} (ih : StopsAsExpected n) {depth : Nat}
    {cs : List Char} {stop : Stop} (h : Json.value (n + 1) depth cs = .error stop) :
    stop.IsExpected := by
  unfold Json.value at h
  split at h
  · split at h
    · next hstring =>
      cases h
      exact isExpected_stringAfterQuote hstring
    · simp at h
  · split at h
    · cases h
      exact Or.inr rfl
    · simp at h
    · split at h
      · next hitems =>
        cases h
        exact ih.items hitems
      · simp at h
  · split at h
    · cases h
      exact Or.inr rfl
    · simp at h
    · split at h
      · next hmembers =>
        cases h
        exact ih.members hmembers
      · simp at h
  · exact isExpected_atomValue h

theorem StopsAsExpected.succ_items {n : Nat} (ih : StopsAsExpected n) {depth : Nat}
    {cs : List Char} {stop : Stop} (h : Json.items (n + 1) depth cs = .error stop) :
    stop.IsExpected := by
  unfold Json.items at h
  split at h
  · next hvalue =>
    cases h
    exact ih.value hvalue
  · split at h
    · simp at h
    · split at h
      · next hitems =>
        cases h
        exact ih.items hitems
      · simp at h
    · cases h; trivial

theorem StopsAsExpected.succ_members {n : Nat} (ih : StopsAsExpected n) {depth : Nat}
    {cs : List Char} {stop : Stop} (h : Json.members (n + 1) depth cs = .error stop) :
    stop.IsExpected := by
  unfold Json.members at h
  split at h
  · split at h
    · next hstring =>
      cases h
      exact isExpected_stringAfterQuote hstring
    · split at h
      · split at h
        · next hvalue =>
          cases h
          exact ih.value hvalue
        · split at h
          · simp at h
          · split at h
            · next hmembers =>
              cases h
              exact ih.members hmembers
            · simp at h
          · cases h; trivial
      · cases h; trivial
  · cases h; trivial

theorem stopsAsExpected (calls : Nat) : StopsAsExpected calls := by
  induction calls with
  | zero =>
    constructor
    · intro depth cs stop h
      cases h; trivial
    · intro depth cs stop h
      cases h; trivial
    · intro depth cs stop h
      cases h; trivial
  | succ n ih => exact ⟨ih.succ_value, ih.succ_items, ih.succ_members⟩

/-- **Besides its grammar, a JSON text can only have too long an integer, or
too deep a nesting.** -/
theorem isNumeralOrDepth_of_read {text : List Char} {fault : ContentFault}
    (h : read text = .error (.content fault)) : IsNumeralOrDepth fault := by
  unfold read at h
  split at h
  · simp at h
  · split at h
    · simp at h
    · next hvalue =>
      cases h
      exact (stopsAsExpected _).value hvalue
    · split at h <;> simp at h

end Workspace.Json
