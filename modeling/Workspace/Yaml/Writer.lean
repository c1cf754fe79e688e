/-
Workspace.Yaml.Writer — values written as YAML.

Mappings are written as blocks, two blanks deeper than their key. A text
stands plain if it would be read back as that text and has only letters,
digits, dots, hyphens and underscores; otherwise it stands between single
quotes. The writer is for settings: nested mappings of simple values.
-/
import Workspace.Yaml.Tag
import Workspace.Value

namespace Workspace.Yaml

/-- A text that can stand without quotes. -/
def isPlain (t : Text) : Bool :=
  let isWord (c : Char) : Bool := c.isAlphanum || c = '_'
  match t.chars? with
  | some (c :: cs) =>
    isWord c && cs.all (fun d => isWord d || d = '.' || d = '-') && Tag.ofPlain (c :: cs) = .str
  | _ => false

/-- A text as a scalar; a quote between quotes is written twice. -/
def scalarText (t : Text) : Text :=
  if isPlain t then t
  else "'" ++ t.flatMap (fun p => if p = .char '\'' then [p, p] else [p]) ++ "'"

mutual

/-- What follows a key, or a whole text: the scalar and the end of its line,
or the entries of a mapping on lines of their own. -/
def written (level : Nat) (afterKey : Bool) : Value → Text
  | .map (e :: es) => (if afterKey then "\n" else "") ++ writtenEntries level (e :: es)
  | v =>
    let text : Text :=
      match v with
      | .null => "null"
      | .bool true => "true"
      | .bool false => "false"
      | .int i => Decimal.intText i
      | .map [] => "\x7b\x7d"
      | v => scalarText v.plain
    (if afterKey then " " else "") ++ text ++ "\n"

def writtenEntries (level : Nat) : List (Value × Value) → Text
  | [] => []
  | (k, v) :: rest =>
    (List.replicate (2 * level) (.char ' ') : Text) ++ scalarText k.plain ++ ":"
      ++ written (level + 1) true v ++ writtenEntries level rest

end

/-- The text of a value. -/
def text (v : Value) : Text :=
  written 0 false v

end Workspace.Yaml
