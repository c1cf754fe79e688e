/-
Workspace.Proofs.TableRows — what the lines of a table show.

Where the console has room for the whole table (`Table.Fits`), its columns are as
wide as they ask for, so every cell is no wider than its column (`covers_widths`). A
cell that takes one line (`TakesLine`) is then drawn as it is, with blanks behind it:
only blanks at its end can be cut off, which are filled up again
(`cellLines_of_takesLine`). So a table of such cells has a line for each row, and
these are the lines that begin with a bar (`showsRows_render`). A table with narrower
cells has room as well (`Fits.of_narrower`).

`Framed` says what such a line looks like. It does not say where a cell ends, since
bars and blanks may also stand in a cell; but brackets and backslashes come from the
cells only (`Framed.marks_eq`).
-/
import Mathlib.Data.List.Basic
import Mathlib.Data.List.Forall2
import Workspace.Proofs.WrappedLines
import Workspace.Terminal.Table

namespace Workspace.Terminal

open Text (pieces width)

variable {t u line cell : Text} {cells : List Text} {columns : Nat}

theorem width_blanks (count : Nat) : width (Table.blanks count) = count := by
  induction count with
  | zero => rfl
  | succ count ih =>
    rw [Table.blanks, List.replicate_succ, ← Table.blanks]
    simp only [width, List.foldr_cons] at ih ⊢
    rw [ih]
    have hblank : Text.pointWidth (.char ' ') = 1 := by decide
    omega

/-! ## Cells of one line -/

/-- The cell takes one line, and the white space at its end is the blank. -/
structure TakesLine (cell : Text) : Prop where
  noBreak : ∀ p ∈ cell, p.satisfies Table.endsLine = false
  noTab : .char '\t' ∉ cell
  blankEnd : ∀ p ∈ cell.reverse.takeWhile Text.isBlankPoint, p = .char ' '

theorem TakesLine.not_mem_newline (h : TakesLine cell) : .char '\n' ∉ cell := by
  intro hmem
  exact absurd (h.noBreak _ hmem) (by decide)

theorem cellWidth_of_takesLine (h : TakesLine cell) : Table.cellWidth cell = width cell := by
  have hsame : cell.map (fun p => if p.satisfies Table.endsLine then .char '\n' else p) = cell := by
    calc cell.map (fun p => if p.satisfies Table.endsLine then .char '\n' else p)
        = cell.map id := List.map_congr_left fun p hp => if_neg (by simp [h.noBreak p hp])
      _ = cell := List.map_id cell
  simp only [Table.cellWidth, hsame, Text.pieces_of_not_mem h.not_mem_newline, List.foldl_cons,
    List.foldl_nil, Nat.zero_max]

/-- What is cut off is blanks. -/
theorem exists_withoutExcess_append (h : TakesLine cell) (columns : Nat) :
    ∃ count, withoutExcess columns cell ++ Table.blanks count = cell := by
  have hreverse := List.takeWhile_append_dropWhile (p := Text.isBlankPoint) (l := cell.reverse)
  have hblank := h.blankEnd
  rw [withoutExcess]
  generalize hend : cell.reverse.takeWhile Text.isBlankPoint = ending at hreverse hblank
  generalize hcount : min ending.length (cell.length - columns) = count
  have hle : count ≤ ending.length := hcount ▸ Nat.min_le_left _ _
  have hdropped : (cell.drop (cell.length - count)).reverse = ending.take count := by
    rw [← List.take_reverse, ← hreverse, List.take_append_of_le_length hle]
  have hblanks : cell.drop (cell.length - count) = Table.blanks count := by
    rw [← List.reverse_inj, hdropped, Table.blanks, List.reverse_replicate, List.eq_replicate_iff]
    exact ⟨by rw [List.length_take, Nat.min_eq_left hle],
      fun p hp => hblank p (List.mem_of_mem_take hp)⟩
  exact ⟨count, by rw [← hblanks, List.take_append_drop]⟩

/-- A cell of one line is drawn as it is. -/
theorem cellLines_of_takesLine (h : TakesLine cell) (hfits : width cell ≤ columns) :
    ∃ shown, Table.cellLines columns cell = [shown]
      ∧ Table.padded columns shown = Table.padded columns cell := by
  obtain ⟨count, hcount⟩ := exists_withoutExcess_append h columns
  have hwidth : width cell = width (withoutExcess columns cell) + count := by
    conv_lhs => rw [← hcount, width_append, width_blanks]
  refine ⟨withoutExcess columns cell, wrapText_of_width_le h.not_mem_newline h.noTab hfits, ?_⟩
  calc Table.padded columns (withoutExcess columns cell)
      = withoutExcess columns cell
          ++ Table.blanks (columns - width (withoutExcess columns cell)) := rfl
    _ = withoutExcess columns cell
          ++ (Table.blanks count ++ Table.blanks (columns - width cell)) := by
      rw [Table.blanks, Table.blanks, Table.blanks, List.replicate_append_replicate]
      congr 2
      omega
    _ = Table.padded columns cell := by rw [← List.append_assoc, hcount, Table.padded]

namespace Table

/-! ## Rows -/

/-- The columns are as wide as the cells of a row. -/
def Covers (widths : List Nat) (cells : List Text) : Prop :=
  List.Forall₂ (fun w cell => cellWidth cell ≤ w) widths cells

/-- The columns of `ws` made as wide as the cells of a row. -/
def widened (ws : List Nat) (row : List Text) : List Nat :=
  List.zipWith (fun w cell => max w (cellWidth cell)) ws row

theorem length_widened {ws : List Nat} {row : List Text} (h : row.length = ws.length) :
    (widened ws row).length = ws.length := by
  rw [widened, List.length_zipWith, h, Nat.min_self]

/-- Wider columns still cover what they covered. -/
theorem Covers.widened {ws : List Nat} {row : List Text} (h : Covers ws cells)
    (hrow : row.length = ws.length) : Covers (Table.widened ws row) cells := by
  induction h generalizing row with
  | nil => exact .nil
  | cons hcell _ ih =>
    obtain ⟨cell, row, rfl⟩ := List.exists_cons_of_length_eq_add_one hrow
    exact .cons (hcell.trans (le_max_left _ _)) (ih (Nat.succ.inj hrow))

theorem covers_widened {ws : List Nat} {row : List Text} (h : row.length = ws.length) :
    Covers (widened ws row) row := by
  induction ws generalizing row with
  | nil =>
    obtain rfl := List.length_eq_zero_iff.mp h
    exact .nil
  | cons w ws ih =>
    obtain ⟨cell, row, rfl⟩ := List.exists_cons_of_length_eq_add_one h
    exact .cons (le_max_right _ _) (ih (Nat.succ.inj h))

theorem covers_foldl_widened {rows : List (List Text)} {ws : List Nat}
    (h : ∀ row ∈ rows, row.length = ws.length) :
    (∀ cells, Covers ws cells → Covers (rows.foldl widened ws) cells)
      ∧ ∀ row ∈ rows, Covers (rows.foldl widened ws) row := by
  induction rows generalizing ws with
  | nil => exact ⟨fun _ => id, nofun⟩
  | cons row rows ih =>
    have hrow : row.length = ws.length := h row List.mem_cons_self
    have hrest : ∀ r ∈ rows, r.length = (widened ws row).length := fun r hr => by
      rw [length_widened hrow, h r (List.mem_cons_of_mem _ hr)]
    obtain ⟨hkept, hcovers⟩ := ih hrest
    refine ⟨fun cells hcells => hkept cells (hcells.widened hrow), ?_⟩
    exact List.forall_mem_cons.mpr ⟨hkept row (covers_widened hrow), hcovers⟩

/-- The console has room for the table as wide as it asks for. -/
def Fits (columns : Nat) (t : Table) : Prop :=
  frameWidth t.naturalWidths ≤ columns

instance (columns : Nat) (t : Table) : Decidable (Fits columns t) :=
  inferInstanceAs (Decidable (_ ≤ _))

/-- Every table takes a column at least. -/
theorem Fits.columns_pos {t : Table} (h : Fits columns t) : 0 < columns := by
  have hpos : 0 < frameWidth t.naturalWidths := by
    cases t.naturalWidths with
    | nil => exact Nat.one_pos
    | cons w ws =>
      simp only [frameWidth, List.foldr_cons]
      omega
  exact hpos.trans_le h

/-- With room for the table every column is as wide as its head and all of its
cells. -/
theorem covers_widths {t : Table} (h : ∀ row ∈ t.rows, row.length = t.heads.length)
    (hfits : Fits columns t) : ∀ row ∈ t.heads :: t.rows, Covers (t.widths columns) row := by
  have hwidths : t.widths columns = t.naturalWidths := if_pos hfits
  rw [hwidths]
  have hlength : ∀ row ∈ t.rows, row.length = (t.heads.map cellWidth).length := by
    simpa using h
  have hheads : Covers (t.heads.map cellWidth) t.heads :=
    List.forall₂_map_left_iff.mpr (List.forall₂_same.mpr fun cell _ => le_rfl)
  obtain ⟨hkept, hcovers⟩ := covers_foldl_widened hlength
  exact List.forall_mem_cons.mpr ⟨hkept t.heads hheads, hcovers⟩

theorem rowLine_congr {bar : Char} {ws : List Nat} {cells' : List Text}
    (h : List.zipWith padded ws cells = List.zipWith padded ws cells') :
    rowLine bar ws cells = rowLine bar ws cells' := by
  have hcells : ∀ cs : List Text, rowLine bar ws cs
      = .char bar :: ((List.zipWith padded ws cs).map fun t =>
          .char ' ' :: t ++ [.char ' ', .char bar]).flatten := by
    intro cs
    rw [List.map_zipWith]
    rfl
  rw [hcells, hcells, h]

theorem exists_zipWith_cellLines {ws : List Nat} (hcovers : Covers ws cells)
    (hcells : ∀ cell ∈ cells, TakesLine cell) :
    ∃ shown, List.zipWith cellLines ws cells = shown.map ([·])
      ∧ List.zipWith padded ws shown = List.zipWith padded ws cells := by
  induction hcovers with
  | nil => exact ⟨[], rfl, rfl⟩
  | @cons w cell ws cells hw _ ih =>
    obtain ⟨hcell, hrest⟩ := List.forall_mem_cons.mp hcells
    obtain ⟨more, hlines, hpadded⟩ := ih hrest
    obtain ⟨shown, hshown, hsame⟩ := cellLines_of_takesLine hcell
      ((cellWidth_of_takesLine hcell).symm.trans_le hw)
    refine ⟨shown :: more, ?_, ?_⟩
    · rw [List.zipWith_cons_cons, hshown, hlines, List.map_cons]
    · rw [List.zipWith_cons_cons, List.zipWith_cons_cons, hsame, hpadded]

/-- Cells of one line make a row of one line. -/
theorem rowLines_of_takesLine {ws : List Nat} (bar : Char) (hcovers : Covers ws cells)
    (hcells : ∀ cell ∈ cells, TakesLine cell) : rowLines bar ws cells = [rowLine bar ws cells] := by
  obtain ⟨shown, hlines, hpadded⟩ := exists_zipWith_cellLines hcovers hcells
  have hheight : ∀ cs : List Text,
      (cs.map ([·])).foldl (fun h ls => max h ls.length) 1 = 1 := by
    intro cs
    induction cs with
    | nil => rfl
    | cons c cs ih => simpa using ih
  have hfirst : (shown.map ([·])).map (fun ls => ls.getD 0 []) = shown := by
    rw [List.map_map]
    exact List.map_id shown
  simp only [rowLines, hlines, hheight, List.range_one, List.map_singleton, hfirst,
    rowLine_congr hpadded]

/-- A table whose cells can be drawn each on one line. -/
structure TakesLines (t : Table) : Prop where
  sameLength : ∀ row ∈ t.rows, row.length = t.heads.length
  takesLine : ∀ row ∈ t.heads :: t.rows, ∀ cell ∈ row, TakesLine cell

theorem lines_of_takesLines {t : Table} (h : t.TakesLines) (hfits : Fits columns t) :
    t.lines columns = t.titleLines (frameWidth (t.widths columns))
      ++ [rule '┏' '━' '┳' '┓' (t.widths columns), rowLine '┃' (t.widths columns) t.heads,
        rule '┡' '━' '╇' '┩' (t.widths columns)]
      ++ t.rows.map (rowLine '│' (t.widths columns))
      ++ [rule '└' '─' '┴' '┘' (t.widths columns)] := by
  have hcovers := covers_widths h.sameLength hfits
  have hrow : ∀ bar, ∀ row ∈ t.heads :: t.rows, rowLines bar (t.widths columns) row
      = [rowLine bar (t.widths columns) row] :=
    fun bar row hmem => rowLines_of_takesLine bar (hcovers row hmem) (h.takesLine row hmem)
  have hbody : t.rows.flatMap (rowLines '│' (t.widths columns))
      = t.rows.map (rowLine '│' (t.widths columns)) := by
    rw [List.map_eq_flatMap]
    exact List.flatMap_congr fun row hmem => hrow '│' row (List.mem_cons_of_mem _ hmem)
  simp only [lines, hrow '┃' t.heads List.mem_cons_self, hbody, List.append_assoc,
    List.cons_append, List.nil_append]

/-! ## Room for narrower cells -/

/-- No cell is wider than the one in its place. -/
def Narrower (rows rows' : List (List Text)) : Prop :=
  List.Forall₂ (List.Forall₂ fun cell cell' => cellWidth cell ≤ cellWidth cell') rows rows'

theorem widened_le_widened {ws ws' : List Nat} {row row' : List Text}
    (hws : List.Forall₂ (· ≤ ·) ws ws')
    (hrow : List.Forall₂ (fun cell cell' => cellWidth cell ≤ cellWidth cell') row row') :
    List.Forall₂ (· ≤ ·) (widened ws row) (widened ws' row') := by
  induction hws generalizing row row' with
  | nil => exact .nil
  | cons hw _ ih =>
    cases hrow with
    | nil => exact .nil
    | cons hcell hrow =>
      refine .cons ?_ (ih hrow)
      simp only
      omega

theorem foldl_widened_le {rows rows' : List (List Text)} {ws ws' : List Nat}
    (h : Narrower rows rows') (hws : List.Forall₂ (· ≤ ·) ws ws') :
    List.Forall₂ (· ≤ ·) (rows.foldl widened ws) (rows'.foldl widened ws') := by
  induction h generalizing ws ws' with
  | nil => exact hws
  | cons hrow _ ih => exact ih (widened_le_widened hws hrow)

theorem frameWidth_le {ws ws' : List Nat} (h : List.Forall₂ (· ≤ ·) ws ws') :
    frameWidth ws ≤ frameWidth ws' := by
  induction h with
  | nil => exact le_rfl
  | cons hw _ ih =>
    simp only [frameWidth, List.foldr_cons] at ih ⊢
    omega

theorem Fits.of_narrower {title : Text} {heads : List Text} {rows rows' : List (List Text)}
    (hfits : Fits columns ⟨title, heads, rows'⟩) (h : Narrower rows rows') :
    Fits columns ⟨title, heads, rows⟩ :=
  (frameWidth_le (foldl_widened_le h (List.forall₂_same.mpr fun _ _ => le_rfl))).trans hfits

/-! ## Lines that show a row -/

/-- The line shows the cells between bars, with a blank before each and blanks behind it. -/
inductive Framed (bar : Char) : List Text → Text → Prop where
  | nil : Framed bar [] [.char bar]
  | cons {cell : Text} {cells : List Text} {line : Text} (gap : Nat) : Framed bar cells line →
      Framed bar (cell :: cells) (.char bar :: .char ' ' :: (cell ++ blanks (gap + 1) ++ line))

variable {bar : Char}

theorem framed_rowLine {ws : List Nat} (bar : Char) (h : ws.length = cells.length) :
    Framed bar cells (rowLine bar ws cells) := by
  induction ws generalizing cells with
  | nil =>
    obtain rfl := List.length_eq_zero_iff.mp h.symm
    exact .nil
  | cons w ws ih =>
    obtain ⟨cell, cells, rfl⟩ := List.exists_cons_of_length_eq_add_one h.symm
    have hframed : Framed bar (cell :: cells) _ := .cons (w - width cell) (ih (Nat.succ.inj h))
    have hline : rowLine bar (w :: ws) (cell :: cells) = .char bar :: .char ' '
        :: (cell ++ blanks (w - width cell + 1) ++ rowLine bar ws cells) := by
      simp [rowLine, padded, blanks, List.replicate_succ']
    rwa [hline]

theorem Framed.head? (h : Framed bar cells line) : line.head? = some (.char bar) := by
  cases h <;> rfl

theorem Framed.mem_iff {p : CodePoint} (h : Framed bar cells line) (hbar : p ≠ .char bar)
    (hblank : p ≠ .char ' ') : p ∈ line ↔ ∃ cell ∈ cells, p ∈ cell := by
  induction h with
  | nil => simp [hbar]
  | cons gap _ ih =>
    have hgap : p ∉ blanks (gap + 1) := fun hp => hblank (List.eq_of_mem_replicate hp)
    simp [hbar, hblank, hgap, ih]

/-- Brackets and backslashes come from the cells. -/
theorem Framed.marks_eq (h : Framed bar cells line) (hbar : Markup.marks [.char bar] = 0) :
    Markup.marks line = Markup.marks cells.flatten := by
  induction h with
  | nil => exact hbar
  | @cons cell cells line gap _ ih =>
    have hblank : Markup.marks [.char ' '] = 0 := by decide
    have hgap : Markup.marks (blanks (gap + 1)) = 0 := by
      simp [Markup.marks, blanks, List.count_replicate]
    have hline : .char bar :: .char ' ' :: (cell ++ blanks (gap + 1) ++ line)
        = [.char bar] ++ [.char ' '] ++ cell ++ blanks (gap + 1) ++ line := by
      simp
    rw [hline]
    simp only [Markup.marks_append, hbar, hblank, hgap, ih, List.flatten_cons]
    omega

/-- The lines that begin with a bar are one for each row, and show its cells. -/
def ShowsRows (rows : List (List Text)) (output : Text) : Prop :=
  List.Forall₂ (Framed '│') rows
    ((pieces (.char '\n') output).filter (·.head? = some (.char '│')))

theorem pieces_lines_append {lines : List Text} (h : ∀ line ∈ lines, .char '\n' ∉ line)
    (rest : Text) :
    pieces (.char '\n') (lines.flatMap (· ++ [.char '\n']) ++ rest)
      = lines ++ pieces (.char '\n') rest := by
  induction lines with
  | nil => rfl
  | cons line lines ih =>
    obtain ⟨hline, hlines⟩ := List.forall_mem_cons.mp h
    rw [List.flatMap_cons, List.append_assoc, List.append_assoc, List.singleton_append,
      Text.pieces_append_sep, Text.pieces_of_not_mem hline, ih hlines, List.cons_append,
      List.nil_append]
    rfl

theorem mem_rule {start fill joint finish : Char} {ws : List Nat} {p : CodePoint}
    (h : p ∈ rule start fill joint finish ws) :
    p ∈ [start, fill, joint, finish].map CodePoint.char := by
  by_cases hjoint : p = .char joint
  · simp [hjoint]
  · simp only [rule, List.cons_append, List.mem_cons, List.mem_append,
      Text.mem_joinWith_iff hjoint, List.mem_map, List.not_mem_nil, or_false] at h
    rcases h with h | ⟨q, ⟨w, -, rfl⟩, hp⟩ | h
    · simp [h]
    · simp [List.eq_of_mem_replicate hp]
    · simp [h]

theorem mem_titleLines {t : Table} {width : Nat} {p : CodePoint} (hline : line ∈ t.titleLines width)
    (hp : p ∈ line) : (p ∈ t.title ∨ p = .char ' ' ∨ p = .char '…') ∧ p ≠ .char '\n' := by
  obtain ⟨whole, hwhole, rfl⟩ := List.mem_map.mp hline
  have hblank : ∀ {count}, p ∈ blanks count →
      (p ∈ t.title ∨ p = .char ' ' ∨ p = .char '…') ∧ p ≠ .char '\n' := by
    intro count hmem
    obtain rfl := List.eq_of_mem_replicate hmem
    exact ⟨.inr (.inl rfl), by decide⟩
  simp only [centred, padded, List.mem_append] at hp
  rcases hp with (hp | hp) | hp
  · exact hblank hp
  · exact mem_of_mem_wrapText hwhole
      (List.mem_reverse.mp ((List.dropWhile_sublist _).subset (List.mem_reverse.mp hp)))
  · exact hblank hp

/-- The code points that a table is drawn with. -/
def drawing : Text :=
  " …┏━┳┓┃┡╇┩│└─┴┘"

theorem length_widths {t : Table} (h : ∀ row ∈ t.rows, row.length = t.heads.length)
    (hfits : Fits columns t) : (t.widths columns).length = t.heads.length :=
  (covers_widths h hfits t.heads List.mem_cons_self).length_eq

theorem framed_row {t : Table} (h : t.TakesLines) (hfits : Fits columns t) (bar : Char)
    {row : List Text} (hrow : row ∈ t.heads :: t.rows) :
    Framed bar row (rowLine bar (t.widths columns) row) := by
  refine framed_rowLine bar ((length_widths h.sameLength hfits).trans ?_)
  rcases List.mem_cons.mp hrow with rfl | hrow
  · rfl
  · exact (h.sameLength row hrow).symm

/-- A table has nothing in it but its drawing, its title and its cells. -/
theorem mem_of_mem_lines {t : Table} (h : t.TakesLines) (hfits : Fits columns t) {p : CodePoint}
    (hline : line ∈ t.lines columns) (hp : p ∈ line) :
    p ∈ drawing ∨ (p ∈ t.title ∧ p ≠ .char '\n')
      ∨ ∃ row ∈ t.heads :: t.rows, ∃ cell ∈ row, p ∈ cell := by
  have hrow : ∀ bar, .char bar ∈ drawing → ∀ row ∈ t.heads :: t.rows,
      p ∈ rowLine bar (t.widths columns) row →
        p ∈ drawing ∨ (p ∈ t.title ∧ p ≠ .char '\n')
          ∨ ∃ row ∈ t.heads :: t.rows, ∃ cell ∈ row, p ∈ cell := by
    intro bar hbar row hmem hp
    by_cases hpbar : p = .char bar
    · exact .inl (hpbar ▸ hbar)
    · by_cases hpblank : p = .char ' '
      · exact .inl (hpblank ▸ by decide)
      · obtain ⟨cell, hcell, hp⟩ :=
          ((framed_row h hfits bar hmem).mem_iff hpbar hpblank).mp hp
        exact .inr (.inr ⟨row, hmem, cell, hcell, hp⟩)
  have hrule : ∀ start fill joint finish, [start, fill, joint, finish].map .char ⊆ drawing →
      p ∈ rule start fill joint finish (t.widths columns) → p ∈ drawing :=
    fun _ _ _ _ hsub hp => hsub (mem_rule hp)
  rw [lines_of_takesLines h hfits] at hline
  simp only [List.mem_append, List.mem_cons, List.not_mem_nil, or_false, List.mem_map] at hline
  rcases hline with ((htitle | rfl | rfl | rfl) | ⟨row, hmem, rfl⟩) | rfl
  · obtain ⟨hmem | rfl | rfl, hnewline⟩ := mem_titleLines htitle hp
    · exact .inr (.inl ⟨hmem, hnewline⟩)
    · exact .inl (by decide)
    · exact .inl (by decide)
  · exact .inl (hrule _ _ _ _ (by decide) hp)
  · exact hrow _ (by decide) _ List.mem_cons_self hp
  · exact .inl (hrule _ _ _ _ (by decide) hp)
  · exact hrow _ (by decide) _ (List.mem_cons_of_mem _ hmem) hp
  · exact .inl (hrule _ _ _ _ (by decide) hp)

theorem newline_not_mem_line {t : Table} (h : t.TakesLines) (hfits : Fits columns t)
    (hline : line ∈ t.lines columns) : .char '\n' ∉ line := by
  intro hp
  rcases mem_of_mem_lines h hfits hline hp with hp | ⟨-, hne⟩ | ⟨row, hrow, cell, hcell, hp⟩
  · exact absurd hp (by decide)
  · exact hne rfl
  · exact (h.takesLine row hrow cell hcell).not_mem_newline hp

/-- A table whose cells take a line each shows its rows on a console that has room
for it, whatever is written behind it without a bar. -/
theorem showsRows_render {t : Table} (h : t.TakesLines) (hfits : Fits columns t)
    (htitle : .char '│' ∉ t.title) {rest : Text} (hrest : .char '│' ∉ rest) :
    ShowsRows t.rows (t.render columns ++ rest) := by
  have hpieces := pieces_lines_append (fun line hline => newline_not_mem_line h hfits hline) rest
  have hother : ∀ lines : List Text, (∀ line ∈ lines, line.head? ≠ some (.char '│')) →
      lines.filter (·.head? = some (.char '│')) = [] := by
    intro lines hlines
    exact List.filter_eq_nil_iff.mpr fun line hline => by simpa using hlines line hline
  have habove : ∀ line ∈ t.titleLines (frameWidth (t.widths columns))
      ++ [rule '┏' '━' '┳' '┓' (t.widths columns), rowLine '┃' (t.widths columns) t.heads,
        rule '┡' '━' '╇' '┩' (t.widths columns)], line.head? ≠ some (.char '│') := by
    intro line hline hhead
    have hmem := List.mem_of_mem_head? hhead
    simp only [List.mem_append, List.mem_cons, List.not_mem_nil, or_false] at hline
    rcases hline with hline | rfl | rfl | rfl
    · obtain ⟨hbar | hbar | hbar, -⟩ := mem_titleLines hline hmem
      · exact htitle hbar
      · exact absurd hbar (by decide)
      · exact absurd hbar (by decide)
    · exact absurd hhead (by simp [rule])
    · exact absurd hhead (by simp [rowLine])
    · exact absurd hhead (by simp [rule])
  have hbelow : ∀ line ∈ rule '└' '─' '┴' '┘' (t.widths columns) :: pieces (.char '\n') rest,
      line.head? ≠ some (.char '│') := by
    intro line hline hhead
    rcases List.mem_cons.mp hline with rfl | hline
    · exact absurd hhead (by simp [rule])
    · exact hrest (Text.mem_of_mem_pieces hline (List.mem_of_mem_head? hhead))
  have hrows : ∀ line ∈ t.rows.map (rowLine '│' (t.widths columns)),
      decide (line.head? = some (.char '│')) = true := by
    intro line hline
    obtain ⟨row, -, rfl⟩ := List.mem_map.mp hline
    exact decide_eq_true rfl
  rw [ShowsRows, render, hpieces, lines_of_takesLines h hfits, List.append_assoc,
    List.filter_append, List.filter_append, List.singleton_append, hother _ habove,
    hother _ hbelow, List.filter_eq_self.mpr hrows, List.nil_append, List.append_nil]
  refine List.forall₂_map_right_iff.mpr (List.forall₂_same.mpr fun row hrow => ?_)
  exact framed_row h hfits '│' (List.mem_cons_of_mem _ hrow)

theorem exists_mem_of_forall₂ {α β : Type} {R : α → β → Prop} {as : List α} {bs : List β}
    (h : List.Forall₂ R as bs) {a : α} (ha : a ∈ as) : ∃ b ∈ bs, R a b := by
  induction h with
  | nil => exact absurd ha List.not_mem_nil
  | cons hab _ ih =>
    rcases List.mem_cons.mp ha with rfl | ha
    · exact ⟨_, List.mem_cons_self, hab⟩
    · obtain ⟨b, hb, hab⟩ := ih ha
      exact ⟨b, List.mem_cons_of_mem _ hb, hab⟩

variable {rows : List (List Text)} {output : Text}

/-- Output that can be held shows cells that can be. -/
theorem ShowsRows.writable (h : ShowsRows rows output) (houtput : output.Writable) :
    ∀ row ∈ rows, ∀ cell ∈ row, cell.Writable := by
  intro row hrow cell hcell p hp
  obtain ⟨line, hline, hframed⟩ := exists_mem_of_forall₂ h hrow
  by_cases hbar : p = .char '│'
  · exact ⟨_, hbar⟩
  · by_cases hblank : p = .char ' '
    · exact ⟨_, hblank⟩
    · have hmem := (hframed.mem_iff hbar hblank).mpr ⟨cell, hcell, hp⟩
      exact houtput p (Text.mem_of_mem_pieces (List.mem_filter.mp hline).1 hmem)

/-- The lines that show rows have the brackets and backslashes of the rows. -/
theorem ShowsRows.marks_eq (h : ShowsRows rows output) :
    rows.map (fun row => Markup.marks row.flatten)
      = ((pieces (.char '\n') output).filter (·.head? = some (.char '│'))).map Markup.marks := by
  rw [← List.forall₂_eq_eq_eq, List.forall₂_map_left_iff, List.forall₂_map_right_iff]
  exact List.Forall₂.imp (fun row line hframed => (hframed.marks_eq (by decide)).symm) h

theorem writable_render {t : Table} (h : t.TakesLines) (hfits : Fits columns t)
    (htitle : t.title.Writable)
    (hcells : ∀ row ∈ t.heads :: t.rows, ∀ cell ∈ row, cell.Writable) :
    (t.render columns).Writable := by
  intro p hp
  obtain ⟨line, hline, hp⟩ := List.mem_flatMap.mp hp
  rcases List.mem_append.mp hp with hp | hp
  · rcases mem_of_mem_lines h hfits hline hp with hp | ⟨hp, -⟩ | ⟨row, hrow, cell, hcell, hp⟩
    · have hdrawing : drawing.Writable := Text.writable_iff_exists_eq.mpr ⟨_, rfl⟩
      exact hdrawing p hp
    · exact htitle p hp
    · exact hcells row hrow cell hcell p hp
  · exact ⟨_, List.mem_singleton.mp hp⟩

end Table

end Workspace.Terminal
