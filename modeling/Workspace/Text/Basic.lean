/-
Workspace.Text.Basic — texts as lists of code points.

What a configuration spells need not be a sequence of characters: an escape
can stand for one half of a surrogate pair, which is a code point but no
character. A `Text` is therefore a list of code points. Every string is a
text (`Text.ofString`), and a text is a string again exactly when it has no
surrogates (`Text.toString?_eq_some_iff`).
-/
namespace Workspace

/-- A character, or one of the 2048 surrogates, which start at U+D800. -/
inductive CodePoint where
  | char (c : Char)
  | surrogate (index : Fin 2048)
  deriving DecidableEq, Repr

namespace CodePoint

instance : Coe Char CodePoint := ⟨.char⟩

def toNat : CodePoint → Nat
  | .char c => c.toNat
  | .surrogate i => 0xd800 + i

/-- The code point with a number. -/
def ofNat (n : Nat) : CodePoint :=
  if n.isValidChar then .char (Char.ofNat n) else .surrogate (Fin.ofNat 2048 (n - 0xd800))

def isSurrogate : CodePoint → Bool
  | .char _ => false
  | .surrogate _ => true

/-- The code point is a character that satisfies `p`. -/
def satisfies (p : Char → Bool) : CodePoint → Bool
  | .char c => p c
  | .surrogate _ => false

theorem ofNat_toNat (p : CodePoint) : ofNat p.toNat = p := by
  cases p with
  | char c =>
    have h : c.toNat.isValidChar := c.valid
    simp [ofNat, toNat, h]
  | surrogate i =>
    have h : ¬ (0xd800 + i.val).isValidChar := by
      simp only [Nat.isValidChar]
      omega
    rw [ofNat, toNat, if_neg h, Nat.add_sub_cancel_left, Fin.ofNat_val_eq_self]

end CodePoint

abbrev Text := List CodePoint

namespace Text

/-- The text with the characters of a string. -/
def ofString (s : String) : Text :=
  s.toList.map .char

instance : Coe String Text := ⟨ofString⟩

/-- The text with these code points. -/
def ofCodes (codes : List Nat) : Text :=
  codes.map .ofNat

/-- The numbers of the code points. -/
def codes (t : Text) : List Nat :=
  t.map CodePoint.toNat

/-- The characters of a text; none if it holds a surrogate. -/
def chars? : Text → Option (List Char)
  | [] => some []
  | .char c :: rest => (chars? rest).map (c :: ·)
  | .surrogate _ :: _ => none

/-- The string with the characters of a text; none if it holds a surrogate. -/
def toString? (t : Text) : Option String :=
  t.chars?.map String.ofList

/-- The text with `count` replacement characters for each surrogate. -/
def withReplacements (count : Nat) (t : Text) : String :=
  String.ofList (t.flatMap fun
    | .char c => [c]
    | .surrogate _ => List.replicate count '\ufffd')

theorem ofCodes_codes (t : Text) : ofCodes t.codes = t := by
  simp [ofCodes, codes, Function.comp_def, CodePoint.ofNat_toNat]

theorem chars?_map_char (cs : List Char) : chars? (cs.map .char) = some cs := by
  induction cs with
  | nil => rfl
  | cons c cs ih => simp [chars?, ih]

theorem eq_map_char_of_chars? {t : Text} {cs : List Char} (h : t.chars? = some cs) :
    t = cs.map .char := by
  induction t generalizing cs with
  | nil => simp_all [chars?]
  | cons p rest ih =>
    cases p with
    | char c =>
      obtain ⟨ds, hds, rfl⟩ := Option.map_eq_some_iff.1 h
      simp [← ih hds]
    | surrogate i => simp [chars?] at h

theorem toString?_eq_some_iff {t : Text} {s : String} :
    t.toString? = some s ↔ t = ofString s := by
  constructor
  · intro h
    obtain ⟨cs, hcs, rfl⟩ := Option.map_eq_some_iff.1 h
    simpa [ofString] using eq_map_char_of_chars? hcs
  · rintro rfl
    simp [toString?, ofString, chars?_map_char]

theorem toString?_ofString (s : String) : (ofString s).toString? = some s :=
  toString?_eq_some_iff.2 rfl

end Text

end Workspace
