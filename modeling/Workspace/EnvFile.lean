/-
Workspace.EnvFile — variables kept in a `.env` file.

A file is read as a list of bindings, one a line. A name may be quoted and
may follow the word `export`; a value may stand between single or double
quotes, where it may run over several lines, or run to the end of its line
or to a comment. A line that fits none of this is passed over, and so is a
byte order mark at the very start.

In every value, `${NAME}` and `${NAME:-default}` stand for a variable: one
that is set already, or else the latest binding before. A binding without
`=` has no value: it sets nothing, and stands for nothing in a value.

`World.settled` is the world once its file has set its variables, which never
changes a variable that is set. The first variable that cannot be set ends
it (`World.settleFault?`), and those before it stay set. A file whose text
cannot be had sets nothing.
-/
import Workspace.World
import Workspace.Text.Blank

namespace Workspace.EnvFile

/-- A name and, after an equals sign, its value. -/
structure Binding where
  name : String
  value : Option String
  deriving DecidableEq, Repr

/-- White space that does not end a line. -/
def isInlineBlank (c : Char) : Bool :=
  Text.isBlankChar c && c ≠ '\n' && c ≠ '\r'

def isLineEnd (c : Char) : Bool :=
  c = '\n' || c = '\r'

/-- A text up to its first closing quote, and the text after it. A backslash
belongs to the character after it, which therefore closes nothing. -/
def untilQuote (quote : Char) : List Char → Option (List Char × List Char)
  | [] => none
  | '\\' :: c :: rest =>
    (untilQuote quote rest).map fun (inner, after) => ('\\' :: c :: inner, after)
  | c :: rest =>
    if c = quote then some ([], rest)
    else (untilQuote quote rest).map fun (inner, after) => (c :: inner, after)

/-- The escapes of a double-quoted value. -/
def doubleQuoteEscape? : Char → Option Char
  | '\\' => some '\\'
  | '\'' => some '\''
  | '"' => some '"'
  | 'a' => some '\x07'
  | 'b' => some '\x08'
  | 'f' => some '\x0c'
  | 'n' => some '\n'
  | 'r' => some '\r'
  | 't' => some '\t'
  | 'v' => some '\x0b'
  | _ => none

/-- The escapes of a single-quoted value. -/
def singleQuoteEscape? : Char → Option Char
  | '\\' => some '\\'
  | '\'' => some '\''
  | _ => none

/-- A text with its escapes replaced; a backslash before anything else stays. -/
def unescape (escape? : Char → Option Char) : List Char → List Char
  | '\\' :: c :: rest =>
    match escape? c with
    | some d => d :: unescape escape? rest
    | none => '\\' :: unescape escape? (c :: rest)
  | c :: rest => c :: unescape escape? rest
  | [] => []

/-- The text before white space that leads to a comment. -/
def beforeComment : List Char → List Char
  | [] => []
  | c :: rest =>
    if Text.isBlankChar c ∧ (rest.dropWhile Text.isBlankChar).head? = some '#' then []
    else c :: beforeComment rest

/-- The value after an equals sign, and the text after it. White space comes
before a quote, but a comment may follow it at once. -/
def takeValue (cs : List Char) : Option (List Char × List Char) :=
  match cs.dropWhile isInlineBlank with
  | '\'' :: rest =>
    (untilQuote '\'' rest).map fun (inner, after) => (unescape singleQuoteEscape? inner, after)
  | '"' :: rest =>
    (untilQuote '"' rest).map fun (inner, after) => (unescape doubleQuoteEscape? inner, after)
  | _ =>
    let line := cs.takeWhile (!isLineEnd ·)
    some (Text.trimBoth Text.isBlankChar (beforeComment line), cs.dropWhile (!isLineEnd ·))

/-- The name at the start of a text, and the text after it; a comment has no
name. -/
def takeName (cs : List Char) : Option (Option (List Char) × List Char) :=
  match cs with
  | '#' :: _ => some (none, cs)
  | '\'' :: rest =>
    match rest.takeWhile (· ≠ '\''), rest.dropWhile (· ≠ '\'') with
    | c :: name, _ :: after => some (some (c :: name), after)
    | _, _ => none
  | _ =>
    let inName (c : Char) : Bool := c ≠ '=' && c ≠ '#' && !Text.isBlankChar c
    match cs.takeWhile inName with
    | [] => none
    | name => some (some name, cs.dropWhile inName)

/-- The text after an `export` with white space behind it. -/
def skipExport (cs : List Char) : List Char :=
  match cs with
  | 'e' :: 'x' :: 'p' :: 'o' :: 'r' :: 't' :: c :: rest =>
    if isInlineBlank c then rest.dropWhile isInlineBlank else cs
  | _ => cs

/-- The text after a comment, if one comes next. -/
def skipComment (cs : List Char) : List Char :=
  match cs.dropWhile isInlineBlank with
  | '#' :: rest => rest.dropWhile (!isLineEnd ·)
  | _ => cs

/-- The text after the end of a line, if nothing else comes first. -/
def endOfLine? (cs : List Char) : Option (List Char) :=
  match cs.dropWhile isInlineBlank with
  | [] => some []
  | '\r' :: '\n' :: rest => some rest
  | c :: rest => if isLineEnd c then some rest else none

/-- The text after the current line. -/
def skipLine (cs : List Char) : List Char :=
  (cs.dropWhile (!isLineEnd ·)).drop 1

/-- The binding of a line and the text after the line. Where the line does not
fit, the rest of it is passed over from the place of the misfit on. -/
def takeBinding (cs : List Char) : Option Binding × List Char :=
  match takeName (skipExport cs) with
  | none => (none, skipLine (skipExport cs))
  | some (name, afterName) =>
    let finish (value : Option (List Char)) (rest : List Char) : Option Binding × List Char :=
      match endOfLine? (skipComment rest) with
      | none => (none, skipLine (skipComment rest))
      | some next =>
        (name.map fun n => ⟨String.ofList n, value.map String.ofList⟩, next)
    match afterName.dropWhile isInlineBlank with
    | '=' :: afterEquals =>
      match takeValue afterEquals with
      | none => (none, skipLine afterEquals)
      | some (value, rest) => finish (some value) rest
    | rest => finish none rest

/-- The bindings of a text, line by line; every round uses up at least one
character. -/
def bindingsFrom : (rounds : Nat) → List Char → List Binding
  | 0, _ => []
  | rounds + 1, cs =>
    match cs.dropWhile Text.isBlankChar with
    | [] => []
    | c :: rest =>
      let (binding, next) := takeBinding (c :: rest)
      binding.toList ++ bindingsFrom rounds next

/-- The text without a byte order mark at its start. -/
def withoutMark : List Char → List Char
  | '\ufeff' :: cs => cs
  | cs => cs

/-- The bindings of a file. -/
def bindings (text : String) : List Binding :=
  let cs := withoutMark text.toList
  bindingsFrom cs.length cs

/-! ## Variables in values -/

/-- A reference to a variable after `${`: its name, its default, and the text
after the closing brace. -/
def takeReference (cs : List Char) : Option (List Char × Option (List Char) × List Char) :=
  let inName (c : Char) : Bool := c ≠ '\x7d' && c ≠ ':'
  let name := cs.takeWhile inName
  match cs.dropWhile inName with
  | '\x7d' :: rest => some (name, none, rest)
  | ':' :: '-' :: more =>
    match more.dropWhile (· ≠ '\x7d') with
    | _ :: rest => some (name, some (more.takeWhile (· ≠ '\x7d')), rest)
    | [] => none
  | _ => none

/-- What a reference stands for: the variable in the environment, or else the
latest binding, or else the default. -/
def referenced (env : Environment) (earlier : List Binding) (name : String)
    (default : Option (List Char)) : List Char :=
  match env.value? name with
  | some v => v.toList
  | none =>
    match earlier.find? (·.name = name) with
    | some b => (b.value.getD "").toList
    | none => default.getD []

/-- A value with its references replaced. Every round uses up a character. -/
def interpolateFrom (env : Environment) (earlier : List Binding) :
    (rounds : Nat) → List Char → List Char
  | 0, cs => cs
  | _, [] => []
  | rounds + 1, c :: cs =>
    let plain := c :: interpolateFrom env earlier rounds cs
    match c, cs with
    | '$', '\x7b' :: inner =>
      match takeReference inner with
      | some (name, default, rest) =>
        referenced env earlier (String.ofList name) default
          ++ interpolateFrom env earlier rounds rest
      | none => plain
    | _, _ => plain

def interpolate (env : Environment) (earlier : List Binding) (value : String) : String :=
  String.ofList (interpolateFrom env earlier value.toList.length value.toList)

/-- The bindings with the references in their values replaced, latest first. -/
def resolved (env : Environment) (bs : List Binding) : List Binding :=
  bs.foldl (fun earlier b =>
    { b with value := b.value.map (interpolate env earlier) } :: earlier) []

/-- The variables that references in a value name. Every round uses up a
character. -/
def referencesIn : (rounds : Nat) → List Char → List String
  | 0, _ => []
  | _, [] => []
  | rounds + 1, c :: cs =>
    match c, cs with
    | '$', '\x7b' :: inner =>
      match takeReference inner with
      | some (name, _, rest) => String.ofList name :: referencesIn rounds rest
      | none => referencesIn rounds cs
    | _, _ => referencesIn rounds cs

/-- The variables that a file binds or refers to. -/
def names (text : String) : List String :=
  (bindings text).flatMap fun b =>
    let value := (b.value.getD "").toList
    b.name :: referencesIn value.length value

/-- The variables that a file binds, in order of first occurrence, each with
its last value. -/
def assignments (env : Environment) (text : String) : List (String × String) :=
  let latest := resolved env (bindings text)
  (latest.reverse.map Binding.name).eraseDups.filterMap fun name =>
    (latest.find? (·.name = name)).bind fun b => b.value.map fun value => (name, value)

end EnvFile

/-- The environment with the variables that the file sets and that were not
set before, and why not all of them could be set. -/
def Environment.withFile (env : Environment) :
    Option String → Environment × Option VariableFault
  | none => (env, none)
  | some text => env.assign (EnvFile.assignments env text)

/-- The text of the `.env` file, if it can be had. -/
def World.envText? (w : World) : Option String :=
  match w.envFault with
  | some _ => none
  | none => w.envFile

/-- The world once its `.env` file has been taken into the environment. -/
def World.settled (w : World) : World :=
  { w with environment := (w.environment.withFile w.envText?).1 }

/-- Why the `.env` file cannot be taken into the environment as a whole. -/
def World.settleFault? (w : World) : Option SettleFault :=
  match w.envFault with
  | some fault => some (.unreadable fault)
  | none => (w.environment.withFile w.envText?).2.map .unsettable

end Workspace
