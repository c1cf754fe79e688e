/-
Workspace.Terminal.Literal — the literals that a tag can have as arguments.

A literal is a number, perhaps with a sign, a sum of a real and an imaginary
number, a text or bytes between quotes, one of the constants `None`, `True`,
`False` and `...`, or a tuple, a set or a mapping of literals. The members of
sets and the keys of mappings can be neither sets nor mappings themselves.
Literals are only recognised (`isLiteral`), because nothing of them is shown.

A text is first cut into tokens, and these are then read from the front.
Square brackets do not occur, because they end a tag.
-/
import Workspace.Text.Digit
import Workspace.Text.Pieces

namespace Workspace.Terminal.Literal

inductive Token where
  | number (imaginary : Bool)
  | text (bytes : Bool)
  /-- A constant with a name. -/
  | constant
  /-- The word that gives the empty set when it is called. -/
  | emptySet
  | mark (c : Char)
  deriving DecidableEq, Repr

/-! ## Numbers -/

/-- A character of names and numbers. -/
def isWordChar (c : Char) : Bool :=
  c.isAlphanum || c = '_' || 128 ≤ c.toNat

/-- Digits with single underscores between them. -/
def areDigits (isDigit : Char → Bool) (cs : List Char) : Bool :=
  (Text.pieces '_' cs).all fun group => group ≠ [] && group.all isDigit

/-- The base that a mark after a zero stands for. -/
def baseOf? (mark : Char) : Option Nat :=
  [('x', 16), ('X', 16), ('o', 8), ('O', 8), ('b', 2), ('B', 2)].lookup mark

def isDigitIn (base : Nat) (c : Char) : Bool :=
  (Text.hexDigit? c).any (· < base)

/-- Decimal digits without a leading zero, unless all of them are zeros. -/
def isInteger (cs : List Char) : Bool :=
  areDigits Char.isDigit cs && (cs.head? ≠ some '0' || cs.all fun c => c = '0' || c = '_')
    && (cs.filter Char.isDigit).length ≤ 4300

/-- Decimal digits with a point among or beside them. -/
def isFraction (cs : List Char) : Bool :=
  match Text.pieces '.' cs with
  | [whole, fraction] =>
    (whole ≠ [] || fraction ≠ []) && [whole, fraction].all fun part =>
      part = [] || areDigits Char.isDigit part
  | _ => false

/-- The text without a sign at its start. -/
def withoutSign : List Char → List Char
  | '+' :: cs => cs
  | '-' :: cs => cs
  | cs => cs

/-- A decimal number with a point or an exponent. -/
def isPointed (cs : List Char) : Bool :=
  match cs.dropWhile fun c => c ≠ 'e' && c ≠ 'E' with
  | [] => isFraction cs
  | _ :: exponent =>
    let mantissa := cs.takeWhile fun c => c ≠ 'e' && c ≠ 'E'
    (isFraction mantissa || areDigits Char.isDigit mantissa)
      && areDigits Char.isDigit (withoutSign exponent)

/-- The token of a number that makes up all of a text. -/
def numberToken? (cs : List Char) : Option Token :=
  match cs with
  | '0' :: mark :: digits =>
    match baseOf? mark with
    | some base =>
      let digits := if digits.head? = some '_' then digits.tail else digits
      if areDigits (isDigitIn base) digits then some (.number false) else none
    | none => plain
  | _ => plain
where
  /-- The token of a decimal number; a `j` at its end makes it imaginary. -/
  plain : Option Token :=
    if cs.getLast? = some 'j' ∨ cs.getLast? = some 'J' then
      if isPointed cs.dropLast || areDigits Char.isDigit cs.dropLast then some (.number true)
      else none
    else if isInteger cs || isPointed cs then some (.number false)
    else none

/-- The characters that can only belong to one number. -/
def numberText (cs : List Char) : List Char :=
  let inNumber (c : Char) : Bool := isWordChar c || c = '.'
  let start := cs.takeWhile inNumber
  let based := (start[1]?.bind baseOf?).isSome
  match cs.drop start.length with
  | sign :: rest =>
    if (sign = '+' ∨ sign = '-') ∧ !based ∧ (start.getLast? = some 'e' ∨ start.getLast? = some 'E')
    then start ++ sign :: rest.takeWhile inNumber
    else start
  | [] => start

/-! ## Texts between quotes -/

/-- How a text stands between quotes. -/
structure Quoting where
  quote : Char
  /-- The quotes are tripled. -/
  triple : Bool
  /-- A backslash escapes nothing but a quote. -/
  raw : Bool
  bytes : Bool

/-- The number of an escape with `count` hexadecimal digits. -/
def hexNumber? (count : Nat) (cs : List Char) : Option Nat :=
  if count ≤ cs.length then
    (cs.take count).foldlM (fun n c => (Text.hexDigit? c).map (16 * n + ·)) 0
  else none

/-- An escape with this letter is complete; escapes by name are not known. -/
def isEscape (q : Quoting) (letter : Char) (rest : List Char) : Bool :=
  if q.raw then true
  else if letter = 'x' then (hexNumber? 2 rest).isSome
  else if q.bytes then true
  else if letter = 'u' then (hexNumber? 4 rest).isSome
  else if letter = 'U' then (hexNumber? 8 rest).any (· < 0x110000)
  else letter ≠ 'N'

/-- What follows the closing quote. -/
def afterQuote? (q : Quoting) : List Char → Option (List Char)
  | [] => none
  | c :: cs =>
    if q.bytes ∧ 128 ≤ c.toNat then none
    else if c = '\\' then
      match cs with
      | [] => none
      | d :: rest =>
        if isEscape q d rest ∧ !(q.bytes && 128 ≤ d.toNat) then afterQuote? q rest else none
    else if c = q.quote then
      if !q.triple then some cs
      else if [c, c].isPrefixOf cs then some (cs.drop 2)
      else afterQuote? q cs
    else if c = '\n' ∧ !q.triple then none
    else afterQuote? q cs

/-- The letters before a quote: whether backslashes escape nothing, and whether
bytes are meant. -/
def quotingOf? (letters : List Char) : Option (Bool × Bool) :=
  [([], (false, false)), (['r'], (true, false)), (['u'], (false, false)), (['b'], (false, true)),
    (['b', 'r'], (true, true)), (['r', 'b'], (true, true))].lookup (letters.map Char.toLower)

/-- A text at its opening quote, and what follows it. -/
def takeText (letters cs : List Char) : Option (Token × List Char) :=
  match quotingOf? letters, cs with
  | some (raw, bytes), quote :: rest =>
    let triple := [quote, quote].isPrefixOf rest
    (afterQuote? ⟨quote, triple, raw, bytes⟩ (if triple then rest.drop 2 else rest)).map
      fun after => (.text bytes, after)
  | _, _ => none

/-! ## Tokens -/

/-- The token of a name. -/
def nameToken? (name : List Char) : Option Token :=
  [("None", .constant), ("True", .constant), ("False", .constant), ("set", .emptySet)].lookup
    (String.ofList name)

/-- A name, or a text with letters before its quote, and what follows. -/
def takeWord (cs : List Char) : Option (Token × List Char) :=
  let name := cs.takeWhile isWordChar
  let rest := cs.drop name.length
  if rest.head? = some '\'' ∨ rest.head? = some '"' then takeText name rest
  else (nameToken? name).map fun token => (token, rest)

/-- How deep brackets may be nested. -/
def nestingLimit : Nat := 200

/-- The tokens of a text. A line end outside brackets is the end of all tokens.
Every round uses up at least one character. -/
def tokensFrom : (rounds depth : Nat) → List Char → Option (List Token)
  | 0, _, _ => none
  | _, depth, [] => if depth = 0 then some [] else none
  | rounds + 1, depth, c :: cs =>
    let go (token : Token) (depth : Nat) (rest : List Char) : Option (List Token) :=
      (tokensFrom rounds depth rest).map (token :: ·)
    if c = ' ' ∨ c = '\t' ∨ c = '\x0c' then tokensFrom rounds depth cs
    else if c = '\n' then
      (tokensFrom rounds depth cs).filter fun tokens => 0 < depth || tokens = []
    else if c = '#' then tokensFrom rounds depth (cs.dropWhile (· ≠ '\n'))
    else if c = '\\' ∧ cs.head? = some '\n' then tokensFrom rounds depth cs.tail
    else if c = '(' ∨ c = '\x7b' then
      if depth < nestingLimit then go (.mark c) (depth + 1) cs else none
    else if c = ')' ∨ c = '\x7d' then
      if depth = 0 then none else go (.mark c) (depth - 1) cs
    else if c = ',' ∨ c = ':' ∨ c = '+' ∨ c = '-' then go (.mark c) depth cs
    else if ['.', '.'].isPrefixOf cs ∧ c = '.' then go .constant depth (cs.drop 2)
    else if c.isDigit ∨ (c = '.' ∧ (cs.head?.any Char.isDigit)) then
      let number := numberText (c :: cs)
      (numberToken? number).bind fun token => go token depth ((c :: cs).drop number.length)
    else
      (takeWord (c :: cs)).bind fun (token, rest) => go token depth rest

/-! ## Literals -/

/-- What a literal is, as far as it matters for the literal around it. -/
inductive Kind where
  | number (imaginary : Bool)
  /-- A number after a sign. -/
  | signed (imaginary : Bool)
  | plain
  /-- A set, a mapping, or a tuple that holds one. -/
  | collection
  deriving DecidableEq, Repr

/-- The kind of a tuple. -/
def tupleKind (members : List Kind) : Kind :=
  if members.contains .collection then .collection else .plain

/-- What a part of the tokens is read as, and the tokens after it. -/
abbrev Read (α : Type) := Option (α × List Token)

mutual

/-- A literal without a sign of its own. Each call uses up a round, of which
four for each token are enough. -/
def operand : (rounds : Nat) → List Token → Read Kind
  | 0, _ => none
  | n + 1, tokens =>
    match tokens with
    | .number imaginary :: rest => some (.number imaginary, rest)
    | .text bytes :: rest => some (.plain, rest.dropWhile (· = .text bytes))
    | .constant :: rest => some (.plain, rest)
    | .emptySet :: .mark '(' :: .mark ')' :: rest => some (.collection, rest)
    | .mark '(' :: rest =>
      match members n ')' rest with
      | some (([k], false), after) => some (k, after)
      | some ((ks, _), after) => some (tupleKind ks, after)
      | none => none
    | .mark '\x7b' :: .mark '\x7d' :: rest => some (.collection, rest)
    | .mark '\x7b' :: rest =>
      match literal n rest with
      | some (_, .mark ':' :: _) => (entries n rest).map fun after => (.collection, after)
      | some _ =>
        match members n '\x7d' rest with
        | some ((ks, _), after) => if ks.contains .collection then none else some (.collection, after)
        | none => none
      | none => none
    | _ => none

/-- A literal. -/
def literal : (rounds : Nat) → List Token → Read Kind
  | 0, _ => none
  | n + 1, tokens =>
    let first : Read Kind :=
      match tokens with
      | .mark '+' :: rest | .mark '-' :: rest =>
        match operand n rest with
        | some (.number imaginary, after) => some (.signed imaginary, after)
        | _ => none
      | _ => operand n tokens
    match first with
    | some (k, .mark c :: rest) =>
      if c = '+' ∨ c = '-' then
        match operand n rest with
        | some (.number true, after) =>
          if k = .number false ∨ k = .signed false then some (.plain, after) else none
        | _ => none
      else first
    | _ => first

/-- Literals with commas between them up to a closing mark, and whether a comma
was among them. -/
def members : (rounds : Nat) → (closing : Char) → List Token → Read (List Kind × Bool)
  | 0, _, _ => none
  | n + 1, closing, tokens =>
    if tokens.head? = some (.mark closing) then some (([], false), tokens.tail)
    else
      match literal n tokens with
      | some (k, .mark ',' :: rest) =>
        (members n closing rest).map fun ((ks, _), after) => ((k :: ks, true), after)
      | some (k, .mark c :: rest) => if c = closing then some (([k], false), rest) else none
      | _ => none

/-- The entries of a mapping up to its closing brace. -/
def entries : (rounds : Nat) → List Token → Option (List Token)
  | 0, _ => none
  | n + 1, tokens =>
    match literal n tokens with
    | some (key, .mark ':' :: more) =>
      if key = .collection then none
      else
        match literal n more with
        | some (_, .mark '\x7d' :: rest) => some rest
        | some (_, .mark ',' :: .mark '\x7d' :: rest) => some rest
        | some (_, .mark ',' :: rest) => entries n rest
        | _ => none
    | _ => none

end

/-- The text spells a literal, or several with commas between them. -/
def isLiteral (cs : List Char) : Bool :=
  match tokensFrom (cs.length + 1) 0 cs with
  | none | some [] => false
  | some tokens =>
    let bracketed := .mark '(' :: tokens ++ [.mark ')']
    (operand (4 * bracketed.length) bracketed).any fun r => r.2 = []

end Workspace.Terminal.Literal
