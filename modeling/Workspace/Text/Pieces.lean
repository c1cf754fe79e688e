/-
Workspace.Text.Pieces — cutting a text at a separator.

`pieces sep cs` cuts at every occurrence of one character; `piecesAt sep cs`
cuts at every occurrence of a longer separator, scanning from the left and
never reusing a character. Both keep the empty pieces, so a text with `n`
separators has `n + 1` pieces, and joining the pieces with the separator
gives the text back (`joinWith_pieces`). Texts may consist of characters or
of code points.
-/
namespace Workspace.Text

variable {α : Type}

/-- The maximal runs of `cs` between occurrences of `sep`, empty runs kept. -/
def pieces [DecidableEq α] (sep : α) : List α → List (List α)
  | [] => [[]]
  | c :: cs =>
    if c = sep then [] :: pieces sep cs
    else
      match pieces sep cs with
      | [] => [[c]]
      | p :: ps => (c :: p) :: ps

/-- The texts of `ps` in order, with `sep` between neighbours. -/
def joinWith (sep : α) : List (List α) → List α
  | [] => []
  | [p] => p
  | p :: ps => p ++ sep :: joinWith sep ps

theorem pieces_ne_nil [DecidableEq α] (sep : α) (cs : List α) : pieces sep cs ≠ [] := by
  cases cs with
  | nil => simp [pieces]
  | cons c cs =>
    simp only [pieces]
    split
    · simp
    · split <;> simp

/-- Cutting loses nothing but the separators. -/
theorem joinWith_pieces [DecidableEq α] (sep : α) (cs : List α) :
    joinWith sep (pieces sep cs) = cs := by
  induction cs with
  | nil => rfl
  | cons c cs ih =>
    simp only [pieces]
    split
    · next h =>
      subst h
      cases hp : pieces c cs with
      | nil => exact absurd hp (pieces_ne_nil c cs)
      | cons p ps => simp [joinWith, ← hp, ih]
    · cases hp : pieces sep cs with
      | nil => exact absurd hp (pieces_ne_nil sep cs)
      | cons p ps =>
        rw [hp] at ih
        cases ps with
        | nil => simp_all [joinWith]
        | cons q qs => simp_all [joinWith]

/-- No piece holds the separator. -/
theorem not_mem_of_mem_pieces [DecidableEq α] {sep : α} {cs p : List α}
    (h : p ∈ pieces sep cs) : sep ∉ p := by
  induction cs generalizing p with
  | nil => simp_all [pieces]
  | cons c cs ih =>
    simp only [pieces] at h
    split at h
    · rcases List.mem_cons.1 h with rfl | h
      · simp
      · exact ih h
    · next hc =>
      cases hp : pieces sep cs with
      | nil => exact absurd hp (pieces_ne_nil sep cs)
      | cons q qs =>
        rw [hp] at h ih
        rcases List.mem_cons.1 h with rfl | h
        · have := ih (List.mem_cons_self ..)
          simp [this, Ne.symm hc]
        · exact ih (List.mem_cons_of_mem _ h)

/-- The separator `sep` starts here, so its remaining characters are passed over. -/
def piecesFrom [DecidableEq α] (sep : List α) :
    (skip : Nat) → (piece : List α) → List α → List (List α)
  | _, piece, [] => [piece.reverse]
  | skip + 1, piece, _ :: cs => piecesFrom sep skip piece cs
  | 0, piece, c :: cs =>
    if sep.isPrefixOf (c :: cs) then piece.reverse :: piecesFrom sep (sep.length - 1) [] cs
    else piecesFrom sep 0 (c :: piece) cs

/-- The runs of `cs` between occurrences of the non-empty separator `sep`,
found from the left. -/
def piecesAt [DecidableEq α] (sep cs : List α) : List (List α) :=
  piecesFrom sep 0 [] cs

end Workspace.Text
