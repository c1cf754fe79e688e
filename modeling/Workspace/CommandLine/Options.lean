/-
Workspace.CommandLine.Options — the options among the words of a command.

An option has a long name, and perhaps a letter. A long name may carry its
value after an equals sign; letters may stand together, and the rest of a
word after the letter of an option that takes a value is that value. An
option that has no value yet takes the next word, whatever it is. After `--`
nothing is an option any more.
-/
import Workspace.Text.Pieces

namespace Workspace.CommandLine

/-- The options of all commands. -/
inductive Flag where
  | config
  | workspace
  | json
  | verbose
  | flat
  | help
  deriving DecidableEq, Repr

/-- How an option is written. -/
structure OptionForm where
  flag : Flag
  name : String
  letter : Option Char
  takesValue : Bool

def configForm : OptionForm := ⟨.config, "--config", some 'c', true⟩
def workspaceForm : OptionForm := ⟨.workspace, "--workspace", some 'w', true⟩
def jsonForm : OptionForm := ⟨.json, "--json", none, false⟩
def verboseForm : OptionForm := ⟨.verbose, "--verbose", some 'v', false⟩
def flatForm : OptionForm := ⟨.flat, "--flat", none, false⟩
def helpForm : OptionForm := ⟨.help, "--help", none, false⟩

/-- What the words of a command say: the options in order with their values,
which are empty for those that take none, and the other words. -/
structure Words where
  options : List (Flag × String)
  arguments : List String
  deriving DecidableEq, Repr

namespace Words

def empty : Words := ⟨[], []⟩

def has (w : Words) (flag : Flag) : Bool :=
  w.options.any (·.1 = flag)

/-- The value of an option; of several the last one counts. -/
def value? (w : Words) (flag : Flag) : Option String :=
  (w.options.reverse.find? (·.1 = flag)).map (·.2)

end Words

/-- The options that one word holds, and the option that still needs a value. -/
structure OptionWord where
  complete : List (Flag × String)
  waiting : Option Flag

/-- The options of letters that stand together. -/
def readLetters (forms : List OptionForm) : List Char → Option OptionWord
  | [] => some ⟨[], none⟩
  | c :: rest =>
    match forms.find? (·.letter = some c) with
    | none => none
    | some form =>
      if form.takesValue then
        match rest with
        | [] => some ⟨[], some form.flag⟩
        | _ => some ⟨[(form.flag, String.ofList rest)], none⟩
      else
        (readLetters forms rest).map fun w => { w with complete := (form.flag, "") :: w.complete }

/-- The options of a word that begins with a hyphen; none if it is not
understood. -/
def readOptionWord (forms : List OptionForm) (word : String) : Option OptionWord :=
  let cs := word.toList
  let name := String.ofList (cs.takeWhile (· ≠ '='))
  let attached : Option String :=
    match cs.dropWhile (· ≠ '=') with
    | _ :: value => some (String.ofList value)
    | [] => none
  match forms.find? (·.name = name) with
  | some form =>
    match form.takesValue, attached with
    | true, some value => some ⟨[(form.flag, value)], none⟩
    | true, none => some ⟨[], some form.flag⟩
    | false, some _ => none
    | false, none => some ⟨[(form.flag, "")], none⟩
  | none =>
    match cs with
    | '-' :: '-' :: _ => none
    | _ => readLetters forms cs.tail

/-- A word that is to be read as options. -/
def isOptionWord (word : String) : Bool :=
  match word.toList with
  | '-' :: _ :: _ => true
  | _ => false

/-- Takes the words of a command apart; none if they are not understood. -/
def readWords (forms : List OptionForm) : List String → Option Words
  | [] => some .empty
  | word :: rest =>
    if word = "--" then some ⟨[], rest⟩
    else if isOptionWord word then
      match readOptionWord forms word with
      | none => none
      | some ⟨complete, none⟩ =>
        (readWords forms rest).map fun w => { w with options := complete ++ w.options }
      | some ⟨complete, some flag⟩ =>
        match rest with
        | [] => none
        | value :: more =>
          (readWords forms more).map fun w =>
            { w with options := complete ++ (flag, value) :: w.options }
    else (readWords forms rest).map fun w => { w with arguments := word :: w.arguments }

/-- What comes before the name of a command: whether help is asked for, and
the words from the name on. Nothing but help is an option there. -/
def readLead : List String → Option (Bool × List String)
  | [] => some (false, [])
  | word :: rest =>
    if word = "--" then some (false, rest)
    else if isOptionWord word then
      if (readOptionWord [helpForm] word).isSome then
        (readLead rest).map fun (_, words) => (true, words)
      else none
    else some (false, word :: rest)

end Workspace.CommandLine
