/-
Workspace.Failure — failures of any origin, classified for the user.

A `Failure` is what code that uses the resolver may run into: the three
documented kinds, other failures of the resolver, refusals of the operating
system, and everything else. Each is described by the arguments that it was
raised with. `Failure.report` classifies it.
-/
import Workspace.Error

namespace Workspace

inductive Failure where
  /-- A declaration or a setting does not have the documented shape. -/
  | declaration (arguments : List Value)
  /-- A look at the disk failed. -/
  | inspection (message : Value) (path : Option Text)
  /-- A configuration file cannot be used. -/
  | configFile (message : Value) (path : Option Text)
  /-- Any other failure of the resolver. -/
  | resolver (arguments : List Value)
  /-- A refusal of the operating system. -/
  | system (arguments : List Value)
  /-- A look-up of a key that is not there. -/
  | missingKey (arguments : List Value)
  | other (arguments : List Value)

namespace Failure

/-- The text of arguments: nothing, the only one itself, or all of them in
parentheses. -/
def argumentsText : List Value → Text
  | [] => []
  | [v] => v.plain
  | vs => "(" ++ ", ".intercalate (vs.map Value.shown) ++ ")"

/-- The value, unless it is null. -/
def given? : Value → Option Value
  | .null => none
  | v => some v

/-- The file that a refusal is about: the third of two to five arguments. -/
def fileOf (arguments : List Value) : Option Value :=
  if arguments.length ≤ 5 then arguments[2]?.bind given? else none

/-- The other file that a refusal is about: the last of five arguments. -/
def secondFileOf (arguments : List Value) : Option Value :=
  if arguments.length ≤ 5 then arguments[4]?.bind given? else none

/-- The text of a refusal: its number, its description and the files. -/
def systemText (arguments : List Value) : Text :=
  match arguments with
  | number :: reason :: _ =>
    if 5 < arguments.length then argumentsText arguments
    else
      let files : String :=
        match fileOf arguments, secondFileOf arguments with
        | some a, some b => ": " ++ a.shown ++ " -> " ++ b.shown
        | some a, none => ": " ++ a.shown
        | none, _ => ""
      "[Errno " ++ number.plain ++ "] " ++ reason.plain ++ files
  | _ => argumentsText arguments

def message : Failure → Text
  | declaration arguments | resolver arguments | other arguments => argumentsText arguments
  | inspection message _ | configFile message _ => message.plain
  | system arguments => systemText arguments
  | missingKey [key] => key.shown
  | missingKey arguments => argumentsText arguments

def category : Failure → Category
  | declaration _ => .validation
  | inspection .. | system _ => .io
  | configFile .. => .config
  | resolver _ | missingKey _ | other _ => .unknown

def path? : Failure → Option Text
  | inspection _ path | configFile _ path => path
  | system arguments => (fileOf arguments).map Value.plain
  | _ => none

/-- The category that the kind of a failure has by itself; only the kinds of
the resolver have one. -/
def ownCategory? : Failure → Option Category
  | declaration _ => some .validation
  | inspection .. => some .io
  | configFile .. => some .config
  | resolver _ => some .unknown
  | system _ | missingKey _ | other _ => none

/-- A failure as it is shown to the user; only the documented kinds come with
a hint. -/
def report (f : Failure) : Report :=
  ⟨f.category, f.message, f.path?, (f.ownCategory?.map Category.hint).getD ""⟩

end Failure

end Workspace
