/-
Workspace.Path — path texts, read as an anchor and a list of segments.

A path text is read once (`Path.parse`) and written once (`Path.render`);
every operation in between works on segments. Reading drops the empty and
the `.` segments, so `a//b/.` and `a/b` are the same path, but it keeps
`..`: only `Path.normalize` cancels those, and it does so on the text alone,
without asking any file system about links.

A text that starts with exactly two slashes keeps them (`Anchor.doubleRoot`);
three or more count as one.
-/
import Workspace.Text.Basic
import Workspace.Text.Pieces

namespace Workspace

/-- Where a path starts: at the current directory, at the root, or at the
alternative root that is written with two slashes. -/
inductive Anchor where
  | relative
  | root
  | doubleRoot
  deriving DecidableEq, Repr

namespace Anchor

/-- The slashes that a path with this anchor begins with. -/
def text : Anchor → Text
  | .relative => []
  | .root => ['/']
  | .doubleRoot => ['/', '/']

/-- The anchor of a path text, decided by its leading slashes. -/
def ofText : Text → Anchor
  | .char '/' :: .char '/' :: .char '/' :: _ => .root
  | .char '/' :: .char '/' :: _ => .doubleRoot
  | .char '/' :: _ => .root
  | _ => .relative

def isAbsolute : Anchor → Bool
  | .relative => false
  | _ => true

end Anchor

/-- An anchored list of segments. -/
structure Path where
  anchor : Anchor
  segments : List Text
  deriving DecidableEq, Repr

namespace Path

open Text (pieces joinWith)

/-- A segment that stands for a step: neither empty nor `.`. -/
def isStep (segment : Text) : Bool :=
  segment ≠ [] && segment ≠ [.char '.']

/-- The path that a text spells. -/
def parse (t : Text) : Path where
  anchor := Anchor.ofText t
  segments := (pieces (.char '/') t).filter isStep

/-- The text of a path; the empty relative path is written `.`. -/
def render (p : Path) : Text :=
  if p.anchor = .relative ∧ p.segments = [] then ['.']
  else p.anchor.text ++ joinWith (.char '/') p.segments

def isAbsolute (p : Path) : Bool :=
  p.anchor.isAbsolute

/-- The path `p` as seen from `base`: an absolute `p` stands for itself. -/
def under (base p : Path) : Path :=
  if p.isAbsolute then p
  else { base with segments := base.segments ++ p.segments }

/-! ## Cancelling `..` -/

/-- The segment that leads to the directory above. -/
def parentStep : Text := ['.', '.']

/-- One more segment on top of those kept so far, which are listed last
first. A `..` takes the last kept segment away; where there is none it
vanishes at a root and stays in a relative path. -/
def cancelStep (absolute : Bool) (kept : List Text) (segment : Text) : List Text :=
  if segment = parentStep then
    match kept with
    | [] => if absolute then [] else [parentStep]
    | last :: before => if last = parentStep then parentStep :: kept else before
  else segment :: kept

/-- The segments that are left once every `..` has cancelled the segment
kept before it. -/
def cancel (absolute : Bool) (segments : List Text) : List Text :=
  (segments.foldl (cancelStep absolute) []).reverse

/-- The canonical form of a path: no `..` but at the start of a relative one. -/
def normalize (p : Path) : Path :=
  { p with segments := cancel p.isAbsolute p.segments }

/-! ## Ancestors and containment -/

/-- The paths above a reversed list of segments, the longest first and the
anchor alone last. -/
def upward (anchor : Anchor) : List Text → List Path
  | [] => [⟨anchor, []⟩]
  | s :: rest => ⟨anchor, (s :: rest).reverse⟩ :: upward anchor rest

/-- The path itself and then each of its ancestors, nearest first. -/
def chain (p : Path) : List Path :=
  upward p.anchor p.segments.reverse

/-- `p` is `dir` or lies below it, compared segment by segment. -/
def isBelow (p dir : Path) : Bool :=
  p.anchor = dir.anchor && dir.segments.isPrefixOf p.segments

/-- The text of the directory that holds `p`: everything before the last
segment, without the slash between them. -/
def directoryText (p : Path) : Text :=
  p.anchor.text ++ joinWith (.char '/') p.segments.dropLast

/-! ## Extensions -/

/-- The part of a name from its last dot on, unless the dot begins or ends
the name. -/
def extensionOf (name : Text) : Text :=
  let tail := (name.reverse.takeWhile (· ≠ .char '.')).reverse
  if tail.length + 1 < name.length ∧ tail ≠ [] then .char '.' :: tail else []

/-- The extension of the last segment, with its dot; empty when there is none. -/
def extension (p : Path) : Text :=
  match p.segments.getLast? with
  | none => []
  | some name => extensionOf name

end Path

/-! ## Path texts -/

/-- The canonical text of a path. -/
def normalizePath (path : Text) : Text :=
  (Path.parse path).normalize.render

/-- The canonical text of `path`, taken from `root` when it is relative. -/
def absolutizePath (path root : Text) : Text :=
  ((Path.parse root).under (Path.parse path)).normalize.render

/-- How many non-empty runs of characters lie between the slashes of a path
text. A root has depth 0 and each nested directory adds one. -/
def pathDepth (path : Text) : Nat :=
  ((Text.pieces (.char '/') path).filter (· ≠ [])).length

/-- The depth of a text under another separator, whose occurrences and whose
stand-ins `/` both count; there is none for the empty separator. -/
def pathDepthBy (separator path : Text) : Option Nat :=
  if separator = [] then none
  else
    let spelled := if separator = [.char '/'] then path
      else path.flatMap fun c => if c = .char '/' then separator else [c]
    some ((Text.piecesAt separator spelled).filter (· ≠ [])).length

/-- The file or directory at `path` is the directory `root` or lies below it. -/
def isPathWithin (path root : Text) : Bool :=
  (Path.parse path).normalize.isBelow (Path.parse root).normalize

end Workspace
