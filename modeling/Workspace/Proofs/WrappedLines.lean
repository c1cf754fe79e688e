/-
Workspace.Proofs.WrappedLines — what is left of a text on a console.

A text of one line is printed as it is where the console has room for it
(`printed_of_fits`): its words stay on one line (`fillLines_of_fits`), and they
are the whole line (`flatten_lineWords`). Room means columns. Only white space
at the end is dealt with by the number of code points, so a text with characters
that take no column may lose blanks there although it has room (`Fits`).

Whatever the room, a line of the console is the start of a stretch of the text,
with a blank or an ellipsis behind it if something was cut off
(`exists_lines_of_wrapLine`, `exists_start_of_cutLine`). So there is nothing on
a console that was not in the text but these (`mem_of_mem_wrapLine`), and no
bracket or backslash that was not there (`marks_printed_le`).
-/
import Mathlib.Data.List.Basic
import Workspace.Proofs.PathText
import Workspace.Proofs.ShownMarkup
import Workspace.Terminal.Wrap

namespace Workspace.Terminal

open Text (pieces width)
open Markup (marks marks_append marks_le_of_sublist)

variable {t u line : Text} {lines words : List Text} {overflow : Overflow} {columns : Nat}

/-! ## Columns of the terminal -/

theorem width_append (t u : Text) : width (t ++ u) = width t + width u := by
  induction t with
  | nil => simp [width]
  | cons p rest ih => simp only [width, List.cons_append, List.foldr_cons] at ih ⊢; omega

theorem width_le_of_sublist (h : t.Sublist u) : width t ≤ width u := by
  induction h with
  | slnil => exact le_rfl
  | cons p _ ih => simp only [width, List.foldr_cons] at ih ⊢; omega
  | cons_cons p _ ih => simp only [width, List.foldr_cons] at ih ⊢; omega

theorem width_reverse (t : Text) : width t.reverse = width t := by
  induction t with
  | nil => rfl
  | cons p rest ih =>
    rw [List.reverse_cons, width_append, ih]
    simp only [width, List.foldr_cons, List.foldr_nil]
    omega

/-! ## Words on a line -/

theorem wordWidth_le (word : Text) : wordWidth word ≤ width word := by
  rw [wordWidth, ← width_reverse word]
  exact width_le_of_sublist (List.dropWhile_sublist _)

/-- Words that fit on a line stay on it. -/
theorem fillLines_of_fits (h : width (line ++ words.flatten) ≤ columns) :
    fillLines overflow columns line words = [line ++ words.flatten] := by
  induction words generalizing line with
  | nil => simp [fillLines]
  | cons word rest ih =>
    rw [List.flatten_cons, ← List.append_assoc] at h ⊢
    have hword : width line + wordWidth word ≤ columns := by
      have hle := wordWidth_le word
      simp only [width_append] at h
      omega
    rw [fillLines, if_pos hword, ih h]

theorem fillLines_ne_nil (line : Text) (words : List Text) :
    fillLines overflow columns line words ≠ [] := by
  induction words generalizing line with
  | nil => simp [fillLines]
  | cons word rest ih =>
    rw [fillLines]
    repeat' split
    all_goals simp [ih]

/-- Behind its white space a text begins with a word or is empty. -/
theorem dropWhile_eq_nil_of_takeWhile
    (h : (t.dropWhile Text.isBlankPoint).takeWhile (!Text.isBlankPoint ·) = []) :
    t.dropWhile Text.isBlankPoint = [] := by
  have hhead := List.head?_dropWhile_not Text.isBlankPoint t
  cases hdrop : t.dropWhile Text.isBlankPoint with
  | nil => rfl
  | cons p rest =>
    rw [hdrop] at h hhead
    have hp : Text.isBlankPoint p = false := by simpa using hhead
    simp [hp] at h

theorem flatten_wordsFrom {rounds : Nat} (lead : Text) (h : t.length ≤ rounds)
    (hhead : t.takeWhile (!Text.isBlankPoint ·) = [] → t = []) :
    (wordsFrom rounds lead t).flatten = if t = [] then [] else lead ++ t := by
  fun_induction wordsFrom rounds lead t with
  | case1 lead t =>
    obtain rfl := List.length_eq_zero_iff.mp (Nat.le_zero.mp h)
    rfl
  | case2 rounds lead t word hword => rw [if_pos (hhead hword), List.flatten_nil]
  | case3 rounds lead t word hword rest ih =>
    have hrest : word ++ rest = t := List.prefix_iff_eq_append.mp (List.takeWhile_prefix _)
    have hpos : 0 < word.length := List.length_pos_iff.mpr hword
    have hlength : (rest.dropWhile Text.isBlankPoint).length ≤ rounds := by
      have hle := List.length_dropWhile_le Text.isBlankPoint rest
      have hsum := congrArg List.length hrest
      rw [List.length_append] at hsum
      omega
    have hne : t ≠ [] := by
      rintro rfl
      exact hword rfl
    rw [List.flatten_cons, ih hlength dropWhile_eq_nil_of_takeWhile, if_neg hne, ← hrest]
    conv_rhs => rw [← List.takeWhile_append_dropWhile (p := Text.isBlankPoint) (l := rest)]
    split
    · next hnil => simp [hnil]
    · simp

theorem flatten_lineWords (h : lineWords line ≠ []) : (lineWords line).flatten = line := by
  have hlength := List.length_dropWhile_le Text.isBlankPoint line
  have hflatten := flatten_wordsFrom (line.takeWhile Text.isBlankPoint) hlength
    dropWhile_eq_nil_of_takeWhile
  rw [← lineWords] at hflatten
  have hne : line.dropWhile Text.isBlankPoint ≠ [] := by
    intro hnil
    refine h ?_
    rw [lineWords, hnil]
    cases line.length <;> rfl
  rw [hflatten, if_neg hne, List.takeWhile_append_dropWhile]

/-! ## A text with room -/

theorem withoutExcess_begins (columns : Nat) (line : Text) : withoutExcess columns line <+: line :=
  List.take_prefix _ _

/-- A text of one line for which there is room stays on one line. Only white
space at its end can be cut off. -/
theorem wrapText_of_width_le (hnewline : .char '\n' ∉ t) (htab : .char '\t' ∉ t)
    (h : width t ≤ columns) : wrapText overflow columns t = [withoutExcess columns t] := by
  have hcut : cutLine overflow columns (withoutExcess columns t) = withoutExcess columns t := by
    have hle := width_le_of_sublist (withoutExcess_begins columns t).sublist
    exact if_pos (hle.trans h)
  rw [wrapText, Text.pieces_of_not_mem hnewline, List.flatMap_singleton, wrapLine,
    expandTabs_eq_self htab]
  cases hwords : lineWords t with
  | nil => rw [List.map_singleton, hcut]
  | cons word words =>
    have hflatten : (word :: words).flatten = t := by
      rw [← hwords, flatten_lineWords (by simp [hwords])]
    have hfill : fillLines overflow columns [] (word :: words) = [t] := by
      rw [fillLines_of_fits (by rwa [hflatten]), hflatten, List.nil_append]
    simp only [hfill, List.map_singleton, hcut]

/-- There is room for the text on a line, and for the white space at its end. -/
structure Fits (columns : Nat) (t : Text) : Prop where
  width : width t ≤ columns
  ending : t.length ≤ columns ∨ ∀ p ∈ t.getLast?, Text.isBlankPoint p = false

instance (columns : Nat) (t : Text) : Decidable (Fits columns t) :=
  decidable_of_iff (Text.width t ≤ columns
      ∧ (t.length ≤ columns ∨ ∀ p ∈ t.getLast?, Text.isBlankPoint p = false))
    ⟨fun ⟨hwidth, hending⟩ => ⟨hwidth, hending⟩, fun h => ⟨h.width, h.ending⟩⟩

theorem withoutExcess_of_fits (h : Fits columns t) : withoutExcess columns t = t := by
  rw [withoutExcess]
  refine List.take_of_length_le ?_
  rcases h.ending with hlength | hlast
  · omega
  · have hnone : t.reverse.takeWhile Text.isBlankPoint = [] := by
      rw [← List.head?_reverse] at hlast
      cases hreverse : t.reverse with
      | nil => rfl
      | cons p rest => simp [hlast p (by simp [hreverse])]
    simp [hnone]

/-- **A text that fits is printed as it is.** -/
theorem printed_of_fits (hcolumns : 0 < columns) (h : Fits columns t) (hnewline : .char '\n' ∉ t)
    (htab : .char '\t' ∉ t) : printed columns t = t ++ [.char '\n'] := by
  rw [printed, consoleLines, if_neg hcolumns.ne', wrapText_of_width_le hnewline htab h.width,
    withoutExcess_of_fits h, List.flatMap_singleton]

/-! ## A text with or without room -/

/-- What stands behind a line that was cut. -/
def IsEllipsis (ending : Text) : Prop :=
  ∀ p ∈ ending, p = .char ' ' ∨ p = .char '…'

theorem exists_start_of_startOfWidth {width rounds first last : Nat} :
    ∃ start ending, start <+: line ∧ IsEllipsis ending
      ∧ startOfWidth width line rounds first last = start ++ ending := by
  induction rounds generalizing first last with
  | zero => exact ⟨_, [], List.take_prefix _ _, nofun, (List.append_nil _).symm⟩
  | succ rounds ih =>
    rw [startOfWidth]
    split
    · refine ⟨_, " ", (List.dropLast_prefix _).trans (List.take_prefix _ _), ?_, rfl⟩
      exact fun p hp => Or.inl (List.mem_singleton.mp hp)
    · split
      · exact ⟨_, [], List.take_prefix _ _, nofun, (List.append_nil _).symm⟩
      · split
        · exact ih
        · exact ih

/-- A line that is cut keeps its start. -/
theorem exists_start_of_cutLine (overflow : Overflow) (columns : Nat) (line : Text) :
    ∃ start ending, start <+: line ∧ IsEllipsis ending
      ∧ cutLine overflow columns line = start ++ ending := by
  unfold cutLine
  simp only
  split
  · exact ⟨line, [], List.prefix_rfl, nofun, (List.append_nil _).symm⟩
  · cases overflow with
    | fold => exact exists_start_of_startOfWidth
    | ellipsis =>
      obtain ⟨start, ending, hstart, hending, heq⟩ :=
        @exists_start_of_startOfWidth line (columns - 1) (line.length + 1) 0 line.length
      refine ⟨start, ending ++ "…", hstart, ?_, by rw [heq, List.append_assoc]⟩
      exact List.forall_mem_append.mpr ⟨hending, fun p hp => Or.inr (List.mem_singleton.mp hp)⟩

/-- The lines that a line becomes are stretches of it, one behind the other, each
of them perhaps cut. -/
theorem exists_lines_of_wrapLine (overflow : Overflow) (columns : Nat) (line : Text) :
    ∃ lines, lines ≠ [] ∧ lines.flatten = expandTabs line
      ∧ wrapLine overflow columns line
        = lines.map fun l => cutLine overflow columns (withoutExcess columns l) := by
  unfold wrapLine
  simp only
  cases hwords : lineWords (expandTabs line) with
  | nil => exact ⟨[expandTabs line], by simp, by simp, rfl⟩
  | cons word words =>
    refine ⟨_, fillLines_ne_nil _ _, ?_, rfl⟩
    rw [flatten_fillLines, ← hwords, flatten_lineWords (by simp [hwords]), List.nil_append]

theorem mem_of_mem_expandTabsFrom {column : Nat} {p : CodePoint}
    (h : p ∈ expandTabsFrom column t) : p ∈ t ∨ p = .char ' ' := by
  induction t generalizing column with
  | nil => exact absurd h List.not_mem_nil
  | cons q rest ih =>
    have hrest : ∀ {column}, p ∈ expandTabsFrom column rest → p ∈ q :: rest ∨ p = .char ' ' :=
      fun h => (ih h).imp_left (List.mem_cons_of_mem _)
    rw [expandTabsFrom] at h
    split at h
    · rcases List.mem_cons.mp h with rfl | h
      · exact Or.inl List.mem_cons_self
      · exact hrest h
    · split at h
      · rcases List.mem_append.mp h with h | h
        · exact Or.inr (List.eq_of_mem_replicate h)
        · exact hrest h
      · rcases List.mem_cons.mp h with rfl | h
        · exact Or.inl List.mem_cons_self
        · exact hrest h

/-- On the lines that a line becomes stands nothing but its own code points,
blanks and ellipses. -/
theorem mem_of_mem_wrapLine {p : CodePoint} {l : Text} (hl : l ∈ wrapLine overflow columns line)
    (hp : p ∈ l) : p ∈ line ∨ p = .char ' ' ∨ p = .char '…' := by
  obtain ⟨lines, -, hflatten, hlines⟩ := exists_lines_of_wrapLine overflow columns line
  rw [hlines] at hl
  obtain ⟨whole, hwhole, rfl⟩ := List.mem_map.mp hl
  obtain ⟨start, ending, hstart, hending, heq⟩ :=
    exists_start_of_cutLine overflow columns (withoutExcess columns whole)
  rw [heq] at hp
  rcases List.mem_append.mp hp with hp | hp
  · have hmem : p ∈ expandTabs line := by
      rw [← hflatten, List.mem_flatten]
      exact ⟨whole, hwhole, (withoutExcess_begins _ _).subset (hstart.subset hp)⟩
    exact (mem_of_mem_expandTabsFrom hmem).imp_right Or.inl
  · exact Or.inr (hending p hp)

/-- No line of a text has a line feed. -/
theorem mem_of_mem_wrapText {p : CodePoint} (hline : line ∈ wrapText overflow columns t)
    (hp : p ∈ line) : (p ∈ t ∨ p = .char ' ' ∨ p = .char '…') ∧ p ≠ .char '\n' := by
  obtain ⟨piece, hpiece, hline⟩ := List.mem_flatMap.mp hline
  have hmem := mem_of_mem_wrapLine hline hp
  refine ⟨hmem.imp_left fun h => Text.mem_of_mem_pieces hpiece h, ?_⟩
  rintro rfl
  rcases hmem with hmem | hmem | hmem
  · exact Text.not_mem_of_mem_pieces hpiece hmem
  · exact absurd hmem (by decide)
  · exact absurd hmem (by decide)

theorem wrapText_ne_nil (overflow : Overflow) (columns : Nat) (t : Text) :
    wrapText overflow columns t ≠ [] := by
  obtain ⟨piece, rest, hpieces⟩ := List.exists_cons_of_ne_nil (Text.pieces_ne_nil (.char '\n') t)
  obtain ⟨lines, hne, -, hlines⟩ := exists_lines_of_wrapLine overflow columns piece
  rw [wrapText, hpieces, List.flatMap_cons, hlines]
  simp [hne]

theorem mem_of_mem_printed {p : CodePoint} (h : p ∈ printed columns t) :
    p ∈ t ∨ p = .char ' ' ∨ p = .char '…' ∨ p = .char '\n' := by
  obtain ⟨line, hline, hp⟩ := List.mem_flatMap.mp h
  rw [consoleLines] at hline
  split at hline
  · exact absurd hline List.not_mem_nil
  · rcases List.mem_append.mp hp with hp | hp
    · exact (mem_of_mem_wrapText hline hp).1.imp_right (Or.imp_right Or.inl)
    · exact Or.inr (Or.inr (Or.inr (List.mem_singleton.mp hp)))

/-- A console of at least one column shows something of every text. -/
theorem printed_ne_nil (hcolumns : 0 < columns) (t : Text) : printed columns t ≠ [] := by
  obtain ⟨line, rest, hlines⟩ :=
    List.exists_cons_of_ne_nil (wrapText_ne_nil .fold columns t)
  rw [printed, consoleLines, if_neg hcolumns.ne', hlines, List.flatMap_cons]
  simp

theorem writable_printed (columns : Nat) (h : t.Writable) : (printed columns t).Writable := by
  intro p hp
  rcases mem_of_mem_printed hp with hp | rfl | rfl | rfl
  · exact h p hp
  all_goals exact ⟨_, rfl⟩

/-! ## Brackets and backslashes -/

theorem marks_flatMap_le {f : Text → Text} (h : ∀ l, marks (f l) ≤ marks l) :
    marks (lines.flatMap f) ≤ marks lines.flatten := by
  induction lines with
  | nil => exact le_rfl
  | cons l lines ih =>
    rw [List.flatMap_cons, List.flatten_cons, marks_append, marks_append]
    exact Nat.add_le_add (h l) ih

theorem marks_of_isEllipsis (h : IsEllipsis u) : marks u = 0 := by
  have hnone : ∀ c : Char, c ≠ ' ' → c ≠ '…' → u.count (.char c) = 0 := by
    intro c hblank hellipsis
    refine List.count_eq_zero.mpr fun hmem => ?_
    rcases h _ hmem with heq | heq
    · exact hblank (CodePoint.char.inj heq)
    · exact hellipsis (CodePoint.char.inj heq)
  simp [marks, hnone]

theorem marks_expandTabsFrom (column : Nat) (t : Text) :
    marks (expandTabsFrom column t) ≤ marks t := by
  induction t generalizing column with
  | nil => exact le_rfl
  | cons p rest ih =>
    have hcons : ∀ u : Text, marks (p :: u) = marks [p] + marks u := fun u => marks_append [p] u
    rw [expandTabsFrom]
    split
    · rw [hcons, hcons rest]
      exact Nat.add_le_add_left (ih 0) _
    · split
      · have hblanks : IsEllipsis (List.replicate (8 - column % 8) (.char ' ')) :=
          fun q hq => Or.inl (List.eq_of_mem_replicate hq)
        rw [marks_append, marks_of_isEllipsis hblanks, Nat.zero_add, hcons rest]
        exact (ih _).trans (Nat.le_add_left _ _)
      · rw [hcons, hcons rest]
        exact Nat.add_le_add_left (ih _) _

theorem marks_wrapLine_le (line : Text) :
    marks (wrapLine overflow columns line).flatten ≤ marks line := by
  obtain ⟨lines, -, hflatten, hlines⟩ := exists_lines_of_wrapLine overflow columns line
  have hcut : ∀ l, marks (cutLine overflow columns (withoutExcess columns l)) ≤ marks l := by
    intro l
    obtain ⟨start, ending, hstart, hending, heq⟩ :=
      exists_start_of_cutLine overflow columns (withoutExcess columns l)
    rw [heq, marks_append, marks_of_isEllipsis hending]
    exact marks_le_of_sublist (hstart.trans (withoutExcess_begins _ _)).sublist
  calc marks (wrapLine overflow columns line).flatten
      ≤ marks lines.flatten := by
        rw [hlines, ← List.flatMap_def]
        exact marks_flatMap_le hcut
    _ ≤ marks line := by
        rw [hflatten]
        exact marks_expandTabsFrom 0 line

theorem flatten_pieces_sublist (t : Text) : (pieces (.char '\n') t).flatten.Sublist t := by
  induction t with
  | nil => exact List.Sublist.refl _
  | cons p rest ih =>
    rw [pieces]
    split
    · exact .cons p ih
    · split
      · next hnil => exact absurd hnil (Text.pieces_ne_nil _ _)
      · next piece more hpieces =>
        rw [hpieces] at ih
        exact .cons_cons p ih

/-- No bracket or backslash appears on a console that was not in the text. -/
theorem marks_printed_le (columns : Nat) (t : Text) : marks (printed columns t) ≤ marks t := by
  have hfeed : ∀ l : Text, marks (l ++ [.char '\n']) ≤ marks l := fun l => by
    rw [marks_append]
    exact le_rfl
  rw [printed, consoleLines]
  split
  · exact Nat.zero_le _
  · calc marks ((wrapText .fold columns t).flatMap (· ++ [.char '\n']))
        ≤ marks (wrapText .fold columns t).flatten := marks_flatMap_le hfeed
      _ = marks ((pieces (.char '\n') t).flatMap fun l => (wrapLine .fold columns l).flatten) := by
        rw [wrapText, List.flatMap_def, List.flatMap_def, List.flatten_flatten, List.map_map]
        rfl
      _ ≤ marks (pieces (.char '\n') t).flatten := marks_flatMap_le marks_wrapLine_le
      _ ≤ marks t := marks_le_of_sublist (flatten_pieces_sublist t)

end Workspace.Terminal
