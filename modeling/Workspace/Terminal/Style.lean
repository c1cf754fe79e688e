/-
Workspace.Terminal.Style — when two descriptions name the same style.

A style is described by words: attributes, perhaps negated, a colour, `on`
with a background colour, and `link` with an address. `Style.normalForm` puts
the words into one order, so that `bold red` and `red b` agree. What is no
description of a style agrees with itself only, in any case.
-/
import Workspace.Text.Blank
import Workspace.Text.Digit
import Workspace.Text.Lower
import Workspace.Text.Pieces

namespace Workspace.Terminal.Style

/-- The colours that have names. -/
def colorNames : String := "
black red green yellow blue magenta cyan white bright_black bright_red bright_green
bright_yellow bright_blue bright_magenta bright_cyan bright_white grey0 gray0 navy_blue
dark_blue blue3 blue1 dark_green deep_sky_blue4 dodger_blue3 dodger_blue2 green4 spring_green4
turquoise4 deep_sky_blue3 dodger_blue1 green3 spring_green3 dark_cyan light_sea_green
deep_sky_blue2 deep_sky_blue1 spring_green2 cyan3 dark_turquoise turquoise2 green1 spring_green1
medium_spring_green cyan2 cyan1 dark_red deep_pink4 purple4 purple3 blue_violet orange4 grey37
gray37 medium_purple4 slate_blue3 royal_blue1 chartreuse4 dark_sea_green4 pale_turquoise4
steel_blue steel_blue3 cornflower_blue chartreuse3 cadet_blue sky_blue3 steel_blue1 pale_green3
sea_green3 aquamarine3 medium_turquoise chartreuse2 sea_green2 sea_green1 aquamarine1
dark_slate_gray2 dark_magenta dark_violet purple light_pink4 plum4 medium_purple3 slate_blue1
yellow4 wheat4 grey53 gray53 light_slate_grey light_slate_gray medium_purple light_slate_blue
dark_olive_green3 dark_sea_green light_sky_blue3 sky_blue2 dark_sea_green3 dark_slate_gray3
sky_blue1 chartreuse1 light_green pale_green1 dark_slate_gray1 red3 medium_violet_red magenta3
dark_orange3 indian_red hot_pink3 medium_orchid3 medium_orchid medium_purple2 dark_goldenrod
light_salmon3 rosy_brown grey63 gray63 medium_purple1 gold3 dark_khaki navajo_white3 grey69
gray69 light_steel_blue3 light_steel_blue yellow3 dark_sea_green2 light_cyan3 light_sky_blue1
green_yellow dark_olive_green2 dark_sea_green1 pale_turquoise1 deep_pink3 magenta2 hot_pink2
orchid medium_orchid1 orange3 light_pink3 pink3 plum3 violet light_goldenrod3 tan misty_rose3
thistle3 plum2 khaki3 light_goldenrod2 light_yellow3 grey84 gray84 light_steel_blue1 yellow2
dark_olive_green1 honeydew2 light_cyan1 red1 deep_pink2 deep_pink1 magenta1 orange_red1
indian_red1 hot_pink dark_orange salmon1 light_coral pale_violet_red1 orchid2 orchid1 orange1
sandy_brown light_salmon1 light_pink1 pink1 plum1 gold1 navajo_white1 misty_rose1 thistle1
yellow1 light_goldenrod1 khaki1 wheat1 cornsilk1 grey100 gray100 grey3 gray3 grey7 gray7 grey11
gray11 grey15 gray15 grey19 gray19 grey23 gray23 grey27 gray27 grey30 gray30 grey35 gray35
grey39 gray39 grey42 gray42 grey46 gray46 grey50 gray50 grey54 gray54 grey58 gray58 grey62
gray62 grey66 gray66 grey70 gray70 grey74 gray74 grey78 gray78 grey82 gray82 grey85 gray85
grey89 gray89 grey93 gray93
"

/-- The attributes in the order of a normal form. -/
def attributeNames : List String :=
  ["bold", "dim", "italic", "underline", "blink", "blink2", "reverse", "conceal", "strike",
    "underline2", "frame", "encircle", "overline"]

/-- Short words for attributes. -/
def shortAttributes : List (String × String) :=
  [("d", "dim"), ("b", "bold"), ("i", "italic"), ("u", "underline"), ("r", "reverse"),
    ("c", "conceal"), ("s", "strike"), ("uu", "underline2"), ("o", "overline")]

/-- The attribute that a word stands for. -/
def attribute? (word : String) : Option String :=
  if attributeNames.contains word then some word else shortAttributes.lookup word

/-- The text between a start and a closing parenthesis. -/
def inParentheses? (start : String) (cs : List Char) : Option (List Char) :=
  if start.toList.isPrefixOf cs ∧ cs.getLast? = some ')' then
    some ((cs.drop start.toList.length).dropLast)
  else none

/-- One to three digits that spell a number up to 255; leading zeros are free
when any number of digits may stand. -/
def isByteNumber (most : Option Nat) (cs : List Char) : Bool :=
  let digits := cs.filterMap Text.decimalDigit?
  cs ≠ [] && digits.length = cs.length && most.all (cs.length ≤ ·)
    && digits.foldl (fun n d => n * 10 + d) 0 ≤ 255

/-- A colour made of numbers holds something in the place of a number that
cannot be read as one. -/
inductive Fault where
  | unreadableNumber
  deriving DecidableEq, Repr

/-- Three numbers between commas describe a colour if none is above 255. -/
def areComponents (parts : List (List Char)) : Except Fault Bool :=
  let isNumber (c : Char) : Bool := (Text.decimalDigit? c).isSome
  if parts.length ≠ 3 ∨ !parts.all (·.all isNumber) then .ok false
  else if parts.any fun digits => digits = [] || 4300 < digits.length then
    .error .unreadableNumber
  else .ok (parts.all (isByteNumber none))

/-- A string, in lower case, describes a colour: it is a name, `#rrggbb`, a
number, or three numbers. -/
def isColorName (word : String) : Except Fault Bool :=
  let cs := word.toList
  match inParentheses? "rgb(" cs with
  | some inner => areComponents (Text.pieces ',' inner)
  | none =>
    .ok (word = "default"
      || ((colorNames.splitOn "\n").flatMap fun line => line.splitOn " ").any (· = word)
        && word ≠ ""
      || (match cs with
        | '#' :: digits => digits.length = 6 && digits.all fun c => (Text.hexDigit? c).isSome
        | _ => false)
      || ((inParentheses? "color(" cs).any fun inner =>
        inner.all (fun c => (Text.asciiDigit? c).isSome) && isByteNumber (some 3) inner))

/-- A word, in lower case, describes a colour. -/
def isColor (word : Text) : Except Fault Bool :=
  match word.toString? with
  | some s => isColorName s
  | none => .ok false

/-- What the words of a description have said so far. -/
structure Description where
  /-- Attributes that are on or off, the last word first. -/
  attributes : List (String × Bool)
  color : Option Text
  background : Option Text
  link : Option Text

/-- The words of a text, between white space. -/
def wordsOf (t : Text) : List Text :=
  let blanked := t.map fun p => if Text.isBlankPoint p then .char ' ' else p
  (Text.pieces (.char ' ') blanked).filter (· ≠ [])

/-- Reads the words of a description one by one, up to the first one that does
not belong to a description. -/
def describe (d : Description) : List Text → Except Fault (Option Description)
  | [] => .ok (some d)
  | w :: rest =>
    let word := Text.lower w
    if word = "on" then
      match rest with
      | next :: more => do
        if ← isColor (Text.lower next) then
          describe { d with background := some (Text.lower next) } more
        else return none
      | [] => .ok none
    else if word = "not" then
      match rest with
      | next :: more =>
        match next.toString?.bind attribute? with
        | some a => describe { d with attributes := (a, false) :: d.attributes } more
        | none => .ok none
      | [] => .ok none
    else if word = "link" then
      match rest with
      | next :: more => describe { d with link := some next } more
      | [] => .ok none
    else
      match word.toString?.bind attribute? with
      | some a => describe { d with attributes := (a, true) :: d.attributes } rest
      | none => do
        if ← isColor word then describe { d with color := some word } rest else return none

/-- The description that a text makes up, if it is one. -/
def ofText? (t : Text) : Except Fault (Option Description) :=
  describe ⟨[], none, none, none⟩ (wordsOf t)

/-- The words of a description in their normal order. -/
def Description.words (d : Description) : List Text :=
  (attributeNames.filterMap fun a =>
    (d.attributes.lookup a).map fun on => if on then Text.ofString a else "not " ++ a)
    ++ d.color.toList ++ d.background.toList.map (fun color : Text => "on " ++ color)
    ++ d.link.toList.map (fun address : Text => "link " ++ address)

/-- The normal form of a description. -/
def normalForm (t : Text) : Except Fault Text := do
  match ← ofText? t with
  | some d =>
    match d.words with
    | [] => return "none"
    | words => return Text.joinWith (.char ' ') words
  | none => return Text.lower (Text.trimBoth Text.isBlankPoint t)

end Workspace.Terminal.Style
