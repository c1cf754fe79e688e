/-
Workspace.CommandLine.Lookups — the paths that a command looks at.

A command runs on a `World`, which knows a part of the disk. `lookups` lists
the paths that the command asks for, given what is known so far: first the
places of a configuration file, and, once that is known, the places where the
files of every declared project may lie.
-/
import Workspace.CommandLine

namespace Workspace.CommandLine

/-- The places where a file of one of these names is searched for. -/
def candidates (currentDirectory start : Text) (names : List Text) : List Text :=
  (searchDirs currentDirectory start).flatMap fun directory => names.map (candidate directory)

/-- The places where the configuration of a workspace may lie. -/
def configLookups (w : World) (workspace : Text) (file : Option Text) : List Text :=
  match file with
  | some file => [absolutizePath file workspace]
  | none =>
    match w.settled.environment.value? configVariable with
    | none | some "" => candidates w.currentDirectory workspace configFileNames
    | some name => [absolutizePath name workspace]

/-- The files that may govern a project. -/
def projectFileNames : List Text :=
  ["package.json", "jsconfig.json", "tsconfig.json"]

/-- The places of the files of every declared project. -/
def projectLookups (w : World) (workspace : Text) (file : Option Text) : List Text :=
  match w.loadConfig workspace file with
  | .error _ => []
  | .ok loaded =>
    (declarationsOf workspace loaded.config).flatMap fun d =>
      candidates w.currentDirectory (absolutizePath d.toRecord.root loaded.base) projectFileNames

/-- The places that a request for a workspace looks at. -/
def workspaceLookups (w : World) (workspace : Text) (file : Option Text) : List Text :=
  let here (path : Text) : Text := absolutizePath path w.currentDirectory
  configLookups w (here workspace) (file.map here)
    ++ projectLookups w (here workspace) (file.map here)

/-- The places that a list of words makes a command look at. -/
def lookups (w : World) (words : List String) : List Text :=
  match Request.ofArguments words with
  | .ok (.resolve workspace config _) => workspaceLookups w workspace config
  | .ok (.owner _ workspace config) => workspaceLookups w workspace config
  | .ok (.defaults ..) | .ok .help | .error _ => []

end Workspace.CommandLine
