/-
Workspace.Terminal.Line — lines as a terminal shows them.

Tabs are filled up to every eighth column, and control sequences can be left
out where the output goes to a file.
-/
import Workspace.Text.Width

namespace Workspace.Terminal

/-- The blanks for tabs; `column` is where the text starts. -/
def expandTabsFrom (column : Nat) : Text → Text
  | [] => []
  | p :: rest =>
    if p = .char '\n' then p :: expandTabsFrom 0 rest
    else if p = .char '\t' then
      List.replicate (8 - column % 8) (.char ' ')
        ++ expandTabsFrom (column + (8 - column % 8)) rest
    else p :: expandTabsFrom (column + Text.pointWidth p) rest

/-- A text with blanks for its tabs. -/
def expandTabs (t : Text) : Text :=
  expandTabsFrom 0 t

/-- A character between the start and the end of a control sequence. -/
def isParameter (c : Char) : Bool :=
  c = ';' || c = '?' || ('0' ≤ c && c ≤ '9')

/-- The text after the control sequence that follows an escape character. -/
def afterControl? : Text → Option Text
  | .char '[' :: rest =>
    match rest.dropWhile (·.satisfies isParameter) with
    | p :: after => if p.satisfies Char.isAlpha then some after else none
    | [] => none
  | _ => none

/-- The text without control sequences. Every round uses up a character. -/
def withoutControlsFrom : (rounds : Nat) → Text → Text
  | 0, t => t
  | _, [] => []
  | rounds + 1, p :: rest =>
    match if p = .char '\x1b' then afterControl? rest else none with
    | some after => withoutControlsFrom rounds after
    | none => p :: withoutControlsFrom rounds rest

/-- The text without control sequences. -/
def withoutControls (t : Text) : Text :=
  withoutControlsFrom t.length t

end Workspace.Terminal
