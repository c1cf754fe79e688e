/-
Workspace.Terminal.Markup — texts with style tags.

A tag stands between square brackets and begins with a lower-case letter,
`#`, `/` or `@`. Tags set styles and are not shown. A backslash before a tag
makes it text, and a backslash before a backslash that does so stands for
itself. `[/name]` closes the latest open tag of that name, `[/]` the latest
of any name; closing what is not open is an error. An equals sign in a tag
is followed by parameters, which are words of the style; those of a tag that
begins with `@` are arguments, which have to be literals once it is closed.

`render` gives what is shown of a text, which is all that matters where there
are no styles. `escape` makes a text that shows another one.
-/
import Workspace.Terminal.Emoji
import Workspace.Terminal.Literal
import Workspace.Terminal.Style
import Workspace.Text.Printable

namespace Workspace.Terminal.Markup

/-- What can be wrong with the tags of a text. -/
inductive Fault where
  /-- A closing tag without an open one. -/
  | unopened (name : Text)
  /-- The arguments of a tag are no literals. -/
  | arguments (parameters : Text)
  | style (fault : Style.Fault)
  deriving DecidableEq, Repr

/-- What stands between the brackets of a tag. -/
structure Tag where
  name : Text
  parameters : Option Text
  deriving DecidableEq, Repr

/-- A part of a text with tags. -/
inductive Part where
  | text (t : Text)
  | tag (tag : Tag)
  deriving DecidableEq, Repr

/-- A character that begins a tag. -/
def beginsTag (c : Char) : Bool :=
  ('a' ≤ c && c ≤ 'z') || c = '#' || c = '/' || c = '@'

/-- The inside of a tag after its bracket, and the text after the tag. -/
def tagInside? : Text → Option (Text × Text)
  | [] => none
  | p :: rest =>
    if p.satisfies beginsTag then
      let inBody (q : CodePoint) : Bool := q ≠ .char '[' && q ≠ .char ']'
      match rest.dropWhile inBody with
      | .char ']' :: after => some (p :: rest.takeWhile inBody, after)
      | _ => none
    else none

/-- The backslashes at the start of a text. -/
def slashes (t : Text) : Text :=
  t.takeWhile (· = .char '\\')

/-- A tag at the start of a text, with the backslashes before it: their
number, the inside of the tag, and the text after it. -/
def tag? (t : Text) : Option (Nat × Text × Text) :=
  match t.drop (slashes t).length with
  | .char '[' :: rest =>
    (tagInside? rest).map fun (inside, after) => ((slashes t).length, inside, after)
  | _ => none

/-- The text read so far as a part, unless there is none. -/
def textPart (reversed : Text) : List Part :=
  match reversed with
  | [] => []
  | t => [.text t.reverse]

/-- A number of backslashes. -/
def slashText (count : Nat) : Text :=
  List.replicate count (.char '\\')

/-- A text between square brackets. -/
def bracketed (inside : Text) : Text :=
  "[" ++ inside ++ "]"

/-- The name and the parameters of a tag. -/
def Tag.ofInside (inside : Text) : Tag :=
  let name := inside.takeWhile (· ≠ .char '=')
  ⟨name, match inside.drop name.length with | [] => none | _ :: parameters => some parameters⟩

/-- The parts of a tag and the backslashes before it. Two backslashes show
one, and an odd one turns the tag into text. -/
def tagParts (count : Nat) (inside : Text) : List Part :=
  (if count < 2 then [] else [.text (slashText (count / 2))])
    ++ [if count % 2 = 1 then .text (bracketed inside)
      else .tag (.ofInside inside)]

/-- The parts of a text. Every round uses up at least one character, and
`seen` is the text since the last tag, last character first. -/
def partsFrom : (rounds : Nat) → (seen : Text) → Text → List Part
  | 0, seen, _ => textPart seen
  | _, seen, [] => textPart seen
  | rounds + 1, seen, p :: rest =>
    match tag? (p :: rest) with
    | some (count, inside, after) =>
      textPart seen ++ tagParts count inside ++ partsFrom rounds [] after
    | none =>
      match slashes (p :: rest) with
      | [] => partsFrom rounds (p :: seen) rest
      | run => partsFrom rounds (run ++ seen) ((p :: rest).drop run.length)

def parts (t : Text) : List Part :=
  partsFrom t.length [] t

/-! ## Rendering -/

/-- A bracket that begins no tag may be escaped all the same. -/
def unescapeBrackets : Text → Text
  | .char '\\' :: .char '[' :: rest => .char '[' :: unescapeBrackets rest
  | p :: rest => p :: unescapeBrackets rest
  | [] => []

/-- A control character that no text shows. -/
def isHidden (c : Char) : Bool :=
  c = '\x07' || c = '\x08' || c = '\x0b' || c = '\x0c' || c = '\x0d'

/-- What is shown of a text without tags. -/
def shownText (t : Text) : Text :=
  (replaceEmoji (unescapeBrackets t)).filter fun p => !p.satisfies isHidden

/-- A character that the name of an action may have. -/
def isActionChar (c : Char) : Bool :=
  c.isAlphanum || c = '_' || c = '.'
    || (128 ≤ c.toNat && Text.isPrintable c.toNat && !Text.isBlankChar c)

/-- Parameters are the name of an action, the name of an action with its
arguments in parentheses, or arguments alone. -/
def areArguments (parameters : List Char) : Bool :=
  let trimmed := Text.trimBoth Text.isBlankChar parameters
  match trimmed.dropWhile isActionChar with
  | [] => true
  | c :: cs =>
    if c = '(' ∧ cs.getLast? = some ')' ∧ '\n' ∉ cs then Literal.isLiteral (c :: cs)
    else Literal.isLiteral trimmed

/-- The tag can be closed. -/
def Tag.close (tag : Tag) : Except Fault Unit :=
  match tag.name.head?, tag.parameters with
  | some (.char '@'), some (p :: rest) =>
    if (Text.chars? (p :: rest)).any areArguments then .ok () else .error (.arguments (p :: rest))
  | _, _ => .ok ()

/-- The tag under the normal form of its name. The parameters have to be
readable as words of its style. -/
def Tag.opened (tag : Tag) : Except Fault Tag := do
  let name ← (Style.normalForm tag.name).mapError .style
  let described := name ++ (match tag.parameters with | none => [] | some words => " " ++ words)
  let _ ← (Style.ofText? described).mapError .style
  return { tag with name }

/-- The open tags after the latest one of a name was closed, if it is open. -/
def closeNamed (name : Text) : List Tag → Except Fault (List Tag)
  | [] => .error (.unopened name)
  | tag :: others =>
    if tag.name = name then do
      tag.close
      return others
    else return tag :: (← closeNamed name others)

/-- The open tags after a tag, the latest first. -/
def applyTag (tag : Tag) (opened : List Tag) : Except Fault (List Tag) :=
  match tag.name with
  | .char '/' :: rest =>
    let closing := Text.trimBoth Text.isBlankPoint rest
    if closing = [] then
      match opened with
      | latest :: others => do
        latest.close
        return others
      | [] => .error (.unopened [])
    else do
      closeNamed (← (Style.normalForm closing).mapError .style) opened
  | _ => do return (← tag.opened) :: opened

def renderParts (opened : List Tag) : List Part → Except Fault Text
  | [] => .ok []
  | .text t :: rest => do return shownText t ++ (← renderParts opened rest)
  | .tag tag :: rest => do renderParts (← applyTag tag opened) rest

/-- What is shown of a text with tags. -/
def render (t : Text) : Except Fault Text :=
  renderParts [] (parts t)

/-! ## Escaping -/

/-- The text with its tags escaped. Every round uses up a character. -/
def escapeTags : (rounds : Nat) → Text → Text
  | 0, t => t
  | _, [] => []
  | rounds + 1, p :: rest =>
    match tag? (p :: rest) with
    | some (count, inside, after) =>
      slashText (2 * count + 1) ++ bracketed inside ++ escapeTags rounds after
    | none =>
      match slashes (p :: rest) with
      | [] => p :: escapeTags rounds rest
      | run => run ++ escapeTags rounds ((p :: rest).drop run.length)

/-- A text that shows `t` when it is rendered before other text: its tags are
escaped, and a single backslash at its end is doubled. -/
def escape (t : Text) : Text :=
  let escaped := escapeTags t.length t
  if (slashes escaped.reverse).length = 1 then escaped ++ slashText 1 else escaped

end Workspace.Terminal.Markup
