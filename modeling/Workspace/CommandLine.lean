/-
Workspace.CommandLine — the commands `resolve`, `owner` and `defaults`.

* `resolve [WORKSPACE]` shows how a workspace resolves into projects, as a
  table or as JSON;
* `owner FILE` shows the root of the project that owns a file;
* `defaults` shows the default settings of the server, as YAML or as JSON.

`run` gives the outcome of a list of words in a world: the exit code and the
output, and the failure that the command broke off with, if it did. Words
that are not understood give exit code 2, and what cannot be done gives 1.

The output is what a file or a pipe gets: a terminal would be shown colours,
and the control sequences of a path as well. Lines and tables are fitted to the
columns of the world's console, but not what a shell is meant to read, which is
the root of an owner and everything in JSON.
-/
import Workspace.CommandLine.Options
import Workspace.Json.Writer
import Workspace.Session
import Workspace.Terminal.Line
import Workspace.Terminal.Markup
import Workspace.Terminal.Table
import Workspace.Yaml.Writer

namespace Workspace.CommandLine

/-- Why a command broke off. -/
inductive Crash where
  /-- The text to be shown has tags that cannot be followed. -/
  | markup (fault : Terminal.Markup.Fault)
  /-- The text to be shown holds a surrogate. -/
  | surrogate
  | nulInPath
  /-- The output holds an integer with too many digits. -/
  | longInteger
  deriving DecidableEq, Repr

/-- How a command ended. -/
structure Outcome where
  exitCode : Nat
  output : String
  crash : Option Crash
  deriving DecidableEq, Repr

namespace Outcome

def finished (output : String) : Outcome := ⟨0, output, none⟩

/-- The words of the command are not understood. -/
def misused : Outcome := ⟨2, "", none⟩

def crashed (crash : Crash) : Outcome := ⟨1, "", some crash⟩

/-- A command that shows a text and ends with an exit code. -/
def showing (exitCode : Nat) (t : Text) : Outcome :=
  match t.toString? with
  | some output => ⟨exitCode, output, none⟩
  | none => .crashed .surrogate

end Outcome

/-! ## Output -/

abbrev Shown := Except Terminal.Markup.Fault Text

/-- A text with tags as lines of output on a console of `columns`. -/
def shownLine (columns : Nat) (t : Text) : Shown :=
  (Terminal.Markup.render t).map (Terminal.printed columns)

/-- The outcome of a command that ends with an exit code. -/
def ending (exitCode : Nat) : Shown → Outcome
  | .ok t => .showing exitCode t
  | .error fault => .crashed (.markup fault)

/-- A text between two tags. -/
def tagged (style : String) (t : Text) : Text :=
  "[" ++ style ++ "]" ++ t ++ "[/" ++ style ++ "]"

/-- The lines that tell about an error: what it is, and what to do. -/
def reportLines (columns : Nat) (r : Report) : Shown := do
  let title := tagged "bold red" ("Error (" ++ r.category.name ++ "):")
  let first ← shownLine columns (title ++ " " ++ Terminal.Markup.escape r.message)
  let second ← if r.hint = "" then pure [] else shownLine columns (tagged "dim" r.hint)
  return first ++ second

/-- The outcome of a command that could not load or resolve. -/
def errorOutcome (columns : Nat) (e : Error) : Outcome :=
  ending 1 (reportLines columns e.report)

/-- The head of a column for each part of a project. -/
def projectHeads : List Text :=
  ["Root", "package.json", "tsconfig"]

/-- A part of a project in the table; a hyphen stands for none. -/
def partText (part : Option Text) : Text :=
  match nonEmpty? part with
  | none => "-"
  | some t => t

/-- The table of projects; its cells are read column by column. -/
def projectTable (columns : Nat) (projects : List Project) : Shown := do
  let column (cell : Project → Text) : Except Terminal.Markup.Fault (List Text) :=
    projects.mapM fun p => Terminal.Markup.render (cell p)
  let roots ← column Project.root
  let packages ← column fun p => partText p.package
  let tsconfigs ← column fun p => partText p.tsconfig
  let rows := roots.zip (packages.zip tsconfigs)
  return Terminal.Table.render ⟨"CoffeeSense projects", projectHeads,
    rows.map fun (root, package, tsconfig) => [root, package, tsconfig]⟩ columns

/-- The line that counts the settings, if there are any. -/
def settingsLine (columns : Nat) (settings : Settings) : Shown :=
  match settings with
  | [] => .ok []
  | _ => shownLine columns (tagged "dim" "Settings:" ++ " " ++ Decimal.intText settings.length
      ++ " override(s)")

/-- An integer with more decimal digits than are written. -/
def isLong : Setting → Bool
  | .int i => Nat.pow 10 4300 ≤ i.natAbs
  | _ => false

/-- A resolved configuration as JSON. -/
def jsonOutcome (config : FullConfig) : Outcome :=
  if config.settings.any fun s => isLong s.2 then .crashed .longInteger
  else .finished (Json.text config.toValue ++ "\n")

/-- A resolved configuration as a table. The cells of a table on a console without
columns are not even rendered. -/
def tableOutcome (columns : Nat) (config : FullConfig) : Outcome :=
  ending 0 (do
    let table ← if columns = 0 then pure [] else projectTable columns config.projects
    return table ++ (← settingsLine columns config.settings))

/-! ## Commands -/

/-- Loads and resolves the configuration of a workspace, both given relative
to the current directory. -/
def resolveWorkspace (w : World) (workspace : Text) (file : Option Text) :
    Except Error FullConfig :=
  let here (path : Text) : Text := absolutizePath path w.currentDirectory
  (w.loadAndResolve (here workspace) (file.map here)).map fun r => r.2.config

def runResolve (w : World) (workspace : Text) (file : Option Text) (json : Bool) : Outcome :=
  match resolveWorkspace w workspace file with
  | .error e => errorOutcome w.columns e
  | .ok config => if json then jsonOutcome config else tableOutcome w.columns config

/-- The line that says that nobody owns a file. -/
def unownedLine (columns : Nat) (file : Text) : Shown :=
  shownLine columns (tagged "yellow" ("No project owns " ++ (Path.parse file).render))

/-- The root of the project that owns a file. Its control sequences are left
out, as in all output that does not go to a terminal. -/
def runOwner (w : World) (file workspace : Text) (config : Option Text) : Outcome :=
  match resolveWorkspace w workspace config with
  | .error e => errorOutcome w.columns e
  | .ok resolved =>
    match findOwner resolved.projects (absolutizePath file w.currentDirectory) with
    | none => ending 1 (unownedLine w.columns file)
    | some p => .showing 0 (Terminal.withoutControls p.root ++ "\n")

def runDefaults (columns : Nat) (json flat : Bool) : Outcome :=
  let settings : ServerSettings := {}
  let value := if flat then settings.flattened [] else settings.toValue .editor
  if json then .finished (Json.text value ++ "\n")
  else
    .showing 0 (Text.joinWith (.char '\n') (Terminal.consoleLines columns (Yaml.text value)))

/-! ## Words -/

inductive Command where
  | resolve
  | owner
  | defaults
  deriving DecidableEq, Repr

namespace Command

def ofName? : String → Option Command
  | "resolve" => some .resolve
  | "owner" => some .owner
  | "defaults" => some .defaults
  | _ => none

/-- The options that a command understands. -/
def forms : Command → List OptionForm
  | .resolve => [configForm, jsonForm, verboseForm, helpForm]
  | .owner => [workspaceForm, configForm, verboseForm, helpForm]
  | .defaults => [jsonForm, flatForm, helpForm]

end Command

/-- A run of a command, as its words ask for it. -/
inductive Request where
  | resolve (workspace : Text) (config : Option Text) (json : Bool)
  | owner (file workspace : Text) (config : Option Text)
  | defaults (json flat : Bool)
  | help
  deriving DecidableEq, Repr

/-- Why words are no request. -/
inductive Misuse where
  | words
  | nulInPath
  deriving DecidableEq, Repr

/-- The text cannot be a path. -/
def holdsNul (s : String) : Bool :=
  s.toList.contains '\x00'

/-- The workspace when none is given: the current directory. -/
def defaultWorkspace : Text := "."

/-- The paths among the words of a command. -/
def pathsIn (c : Command) (w : Words) : List String :=
  match c with
  | .defaults => []
  | _ => w.arguments.head?.toList ++ (w.value? .workspace).toList ++ (w.value? .config).toList

/-- The path that an option gives. -/
def Words.path? (w : Words) (flag : Flag) : Option Text :=
  (w.value? flag).map Text.ofString

/-- The request that the words of a command make. -/
def Request.ofWords (c : Command) (w : Words) : Except Misuse Request :=
  if w.has .help then .ok .help
  else if (pathsIn c w).any holdsNul then .error .nulInPath
  else
    match c, w.arguments with
    | .resolve, [] => .ok (.resolve defaultWorkspace (w.path? .config) (w.has .json))
    | .resolve, [workspace] => .ok (.resolve workspace (w.path? .config) (w.has .json))
    | .owner, [file] =>
      .ok (.owner file ((w.path? .workspace).getD defaultWorkspace) (w.path? .config))
    | .defaults, [] => .ok (.defaults (w.has .json) (w.has .flat))
    | _, _ => .error .words

/-- The request that a list of words makes. Words are texts without surrogates,
as an operating system that speaks UTF-8 hands them over. What lies at the paths
among them is not looked at here: that one of them exists and may not be read,
which is a misuse as well (exit code 2), is left out. -/
def Request.ofArguments (words : List String) : Except Misuse Request :=
  match readLead words with
  | none => .error .words
  | some (true, _) => .ok .help
  | some (false, []) => .error .words
  | some (false, name :: rest) =>
    match Command.ofName? name with
    | none => .error .words
    | some c =>
      match readWords c.forms rest with
      | none => .error .words
      | some w => ofWords c w

/-- The outcome of a request. -/
def Request.run (w : World) : Request → Outcome
  | .resolve workspace config json => runResolve w workspace config json
  | .owner file workspace config => runOwner w file workspace config
  | .defaults json flat => runDefaults w.columns json flat
  | .help => .finished ""

/-- The world after a request: what loading a configuration leaves. -/
def Request.after (w : World) : Request → World
  | .resolve _ config _ | .owner _ _ config => w.afterLoad config
  | .defaults .. | .help => w

/-- The outcome of a list of words. -/
def run (w : World) (words : List String) : Outcome :=
  match Request.ofArguments words with
  | .ok request => request.run w
  | .error .words => .misused
  | .error .nulInPath => .crashed .nulInPath

/-- The world after a list of words was run. -/
def after (w : World) (words : List String) : World :=
  match Request.ofArguments words with
  | .ok request => request.after w
  | .error _ => w

end Workspace.CommandLine
