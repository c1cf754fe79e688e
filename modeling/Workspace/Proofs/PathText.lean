/-
Workspace.Proofs.PathText — path texts that can be handed to the operating
system.

A disk takes no text with the null character and, where path texts are
encoded, none with a surrogate that stands for no byte. Both are matters of
single code points (`Disk.Bars`), and neither a slash nor a dot is barred. So
whether a path can be looked up at all is a matter of its segments
(`spells_render_iff`), and normalizing a path or joining two of them does no
harm (`spells_absolutizePath`).

A text that is refused stays so with a clean file name behind it, and for the
same reason: what is wrong with it comes first (`spellingFault?_append`).
-/
import Workspace.Proofs.Containment
import Workspace.World

namespace Workspace

open Text (pieces joinWith)

/-! ## Pieces and their characters -/

theorem Text.mem_of_mem_pieces {α : Type} [DecidableEq α] {sep x : α} :
    ∀ {cs p : List α}, p ∈ pieces sep cs → x ∈ p → x ∈ cs
  | [], p, hp, hx => by
    simp only [pieces, List.mem_singleton] at hp
    rwa [hp] at hx
  | c :: cs, p, hp, hx => by
    rw [pieces] at hp
    split at hp
    · rcases List.mem_cons.mp hp with rfl | hp
      · simp at hx
      · exact List.mem_cons_of_mem _ (mem_of_mem_pieces hp hx)
    · cases hcs : pieces sep cs with
      | nil => exact absurd hcs (Text.pieces_ne_nil sep cs)
      | cons q qs =>
        have hrest : ∀ r ∈ q :: qs, x ∈ r → x ∈ cs := fun r hr => mem_of_mem_pieces (hcs ▸ hr)
        simp only [hcs, List.mem_cons] at hp
        rcases hp with rfl | hp
        · rcases List.mem_cons.mp hx with rfl | hx
          · simp
          · exact List.mem_cons_of_mem _ (hrest q (by simp) hx)
        · exact List.mem_cons_of_mem _ (hrest p (by simp [hp]) hx)

/-- Apart from the separator a joined text has the characters of its pieces. -/
theorem Text.mem_joinWith_iff {α : Type} {sep x : α} (hx : x ≠ sep) :
    ∀ {ps : List (List α)}, x ∈ joinWith sep ps ↔ ∃ p ∈ ps, x ∈ p
  | [] => by simp [joinWith]
  | p :: ps => by
    by_cases hps : ps = []
    · subst hps
      simp [joinWith]
    · rw [joinWith_cons hps, List.mem_append, List.mem_cons, Text.mem_joinWith_iff hx]
      simp [hx]

/-- A run at the start of a text does not go on behind it where the next
character ends it. -/
theorem takeWhile_append_of_head? {α : Type} {p : α → Bool} {xs ys : List α}
    (h : ∀ y ∈ ys.head?, p y = false) : (xs ++ ys).takeWhile p = xs.takeWhile p := by
  induction xs with
  | nil => cases ys <;> simp_all
  | cons x xs ih => simp [List.takeWhile_cons, ih]

/-! ## Texts that a disk takes -/

/-- The character that ends path texts. -/
def nul : CodePoint := .char '\x00'

namespace Disk

variable {disk : Disk} {t u : Text} {n : Nat}

/-- A text with the code point cannot be handed over. -/
def Bars (disk : Disk) (p : CodePoint) : Prop :=
  p = nul ∨ disk.isStray p = true

instance (disk : Disk) (p : CodePoint) : Decidable (disk.Bars p) :=
  inferInstanceAs (Decidable (_ ∨ _))

/-- The text can be handed over: it is a path, whether or not something is
there. -/
def Spells (disk : Disk) (t : Text) : Prop :=
  ∀ p ∈ t, ¬disk.Bars p

instance (disk : Disk) (t : Text) : Decidable (disk.Spells t) :=
  inferInstanceAs (Decidable (∀ p ∈ t, ¬disk.Bars p))

@[simp] theorem spells_nil : disk.Spells [] := by simp [Spells]

@[simp] theorem spells_append : disk.Spells (t ++ u) ↔ disk.Spells t ∧ disk.Spells u :=
  List.forall_mem_append

@[simp] theorem spells_cons {p : CodePoint} :
    disk.Spells (p :: t) ↔ ¬disk.Bars p ∧ disk.Spells t :=
  List.forall_mem_cons

theorem not_bars_char {c : Char} (h : c ≠ '\x00') : ¬disk.Bars (.char c) := by
  simp [Bars, nul, isStray, h]

/-- No machine refuses a character other than the null character. -/
theorem spells_ofString {s : String} (h : '\x00' ∉ s.toList) : disk.Spells s := by
  intro p hp
  obtain ⟨c, hc, rfl⟩ := List.mem_map.mp hp
  exact not_bars_char fun e => h (e ▸ hc)

/-- On a disk whose machine hands over all texts as they are, the null
character is the only obstacle. -/
theorem spells_iff_of_plain (h : disk.machine.encodesPaths = false) :
    disk.Spells t ↔ nul ∉ t := by
  have hstray : ∀ p, disk.isStray p = false := fun p => by cases p <;> simp [isStray, h]
  simp [Spells, Bars, hstray, List.forall_mem_ne']

end Disk

/-- A surrogate that stands for no byte. -/
def strayText : Text := [.surrogate ⟨0, by decide⟩]

example : Disk.empty.Spells strayText ∧ ¬Disk.encoding.Spells strayText := by decide

namespace Disk

variable {disk : Disk} {t u : Text} {n : Nat}

/-! ## The fault of a text -/

theorem encodeFault?_eq_none_iff :
    disk.encodeFault? n t = none ↔ ∀ p ∈ t, disk.isStray p = false := by
  induction t generalizing n with
  | nil => simp [encodeFault?]
  | cons p rest ih =>
    rw [encodeFault?]
    split
    · next hstray => simp [hstray]
    · next hstray => simp [hstray, ih]

/-- A text is refused exactly when it has a code point that is barred. -/
theorem spellingFault?_eq_none_iff : disk.spellingFault? t = none ↔ disk.Spells t := by
  have hbars : disk.Spells t ↔ (∀ p ∈ t, disk.isStray p = false) ∧ nul ∉ t := by
    simp only [Spells, Bars, not_or, Bool.not_eq_true, forall_and]
    exact and_comm.trans (and_congr_right' (List.forall_mem_ne'))
  rw [hbars, ← encodeFault?_eq_none_iff (n := 0), spellingFault?]
  cases disk.encodeFault? 0 t with
  | some fault => simp
  | none => simp [nul]

/-- A fault in the front of a text is the fault of the text, if no surrogate
follows. -/
theorem encodeFault?_append_of_some {fault : EncodeFault} (h : disk.encodeFault? n t = some fault)
    (hu : ∀ p ∈ u.head?, p.isSurrogate = false) : disk.encodeFault? n (t ++ u) = some fault := by
  induction t generalizing n with
  | nil => simp [encodeFault?] at h
  | cons p rest ih =>
    rw [encodeFault?] at h
    rw [List.cons_append, encodeFault?]
    split at h
    · next hstray =>
      rw [if_pos hstray, ← h, takeWhile_append_of_head? hu]
    · next hstray =>
      rw [if_neg hstray]
      exact ih h

/-- **What is wrong with a text stays wrong with a clean text behind it**, and
is what the whole is refused for. -/
theorem spellingFault?_append (hu : disk.Spells u) (hhead : ∀ p ∈ u.head?, p.isSurrogate = false) :
    disk.spellingFault? (t ++ u) = disk.spellingFault? t := by
  cases hencode : disk.encodeFault? 0 t with
  | some fault =>
    rw [spellingFault?, spellingFault?, encodeFault?_append_of_some hencode hhead, hencode]
  | none =>
    have hclean : ∀ p ∈ u, disk.isStray p = false ∧ p ≠ nul := fun p hp => by
      simpa [Bars, and_comm] using hu p hp
    have hwhole : disk.encodeFault? 0 (t ++ u) = none := by
      rw [encodeFault?_eq_none_iff, List.forall_mem_append, ← encodeFault?_eq_none_iff (n := 0)]
      exact ⟨hencode, fun p hp => (hclean p hp).1⟩
    have hnul : .char '\x00' ∉ u := fun hmem => (hclean _ hmem).2 rfl
    rw [spellingFault?, spellingFault?, hwhole, hencode]
    simp [hnul]

/-! ## Paths -/

/-- Every segment of the path can be handed over. -/
def SpellsPath (disk : Disk) (p : Path) : Prop :=
  ∀ s ∈ p.segments, disk.Spells s

/-- The anchor and the slashes of a path are no obstacle. -/
theorem spells_render_iff {p : Path} : disk.Spells p.render ↔ disk.SpellsPath p := by
  have hanchor : disk.Spells p.anchor.text := by
    cases p.anchor <;> simp [Anchor.text, not_bars_char]
  unfold Path.render
  split
  · next hempty => simp [SpellsPath, hempty.2, not_bars_char]
  · rw [spells_append, and_iff_right hanchor]
    constructor
    · intro h s hs p hp hbars
      refine h p ?_ hbars
      rw [Text.mem_joinWith_iff fun e => not_bars_char (by decide) (e ▸ hbars)]
      exact ⟨s, hs, hp⟩
    · intro h p hp hbars
      rw [Text.mem_joinWith_iff fun e => not_bars_char (by decide) (e ▸ hbars)] at hp
      obtain ⟨s, hs, hps⟩ := hp
      exact h s hs p hps hbars

theorem Spells.parse (h : disk.Spells t) : disk.SpellsPath (Path.parse t) := by
  intro s hs p hp
  exact h p (Text.mem_of_mem_pieces (List.mem_filter.mp hs).1 hp)

namespace SpellsPath

variable {p q : Path}

theorem normalize (h : disk.SpellsPath p) : disk.SpellsPath p.normalize := fun s hs =>
  h s (Path.mem_of_mem_cancel hs)

theorem under (hp : disk.SpellsPath p) (hq : disk.SpellsPath q) : disk.SpellsPath (p.under q) := by
  unfold Path.under
  split
  · exact hq
  · exact List.forall_mem_append.mpr ⟨hp, hq⟩

theorem of_holds (h : disk.SpellsPath q) (hp : p.Holds q) : disk.SpellsPath p := fun s hs =>
  h s (hp.2.subset hs)

end SpellsPath

theorem spells_absolutizePath (ht : disk.Spells t) (hu : disk.Spells u) :
    disk.Spells (absolutizePath t u) :=
  spells_render_iff.mpr (hu.parse.under ht.parse).normalize

end Disk

end Workspace
