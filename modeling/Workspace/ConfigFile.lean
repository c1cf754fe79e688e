/-
Workspace.ConfigFile — where the configuration of a workspace is, and how it
is read.

The file is named by the variable `COFFEESENSE_CONFIG`, or else it is the
nearest one of three names in the workspace and its ancestors; of two that
are equally near the earlier name wins (`deepest`). Its extension decides
whether it is YAML or JSON, and its content has to be a mapping, or nothing
at all.

Declarations of projects are relative to the directory of the file, or to
the workspace when there is no file.
-/
import Workspace.Config
import Workspace.EnvFile
import Workspace.Search
import Workspace.Yaml.Document

namespace Workspace

/-- The variable that names the configuration file. -/
def configVariable : String := "COFFEESENSE_CONFIG"

/-- The names of a configuration file, in order of precedence. -/
def configFileNames : List Text :=
  ["coffeesense.config.yaml", "coffeesense.config.yml", "coffeesense.config.json"]

/-- The first of the paths that no other is deeper than. -/
def deepest (best : Option Text) : List Text → Option Text
  | [] => best
  | p :: rest =>
    match best with
    | none => deepest (some p) rest
    | some b => if pathDepth b < pathDepth p then deepest (some p) rest else deepest best rest

/-- What a search finds for each of the names, where it finds something. -/
def findEach (find : Text → Except Error (Option Text)) :
    List Text → Except Error (List Text)
  | [] => .ok []
  | name :: rest => do
    let found ← find name
    let others ← findEach find rest
    return found.toList ++ others

/-- The configuration file of a workspace: the one that the variable names, or
else the nearest one. -/
def World.namedOrNearest? (w : World) (workspace : Text) : Except Error (Option Text) :=
  match w.environment.value? configVariable with
  | none | some "" => (findEach (w.finder workspace) configFileNames).map (deepest none)
  | some name => .ok (some (absolutizePath name workspace))

/-- The configuration file of a workspace, once the `.env` file has been taken
into the environment. -/
def World.configPath? (w : World) (workspace : Text) : Except Error (Option Text) :=
  match w.settleFault? with
  | some fault => .error (.unsettable fault)
  | none => w.settled.namedOrNearest? workspace

/-! ## Reading -/

/-- How far down a configuration is read: it maps `projects` to a list of
mappings, and in these nothing but texts counts. -/
def configDepth : Nat := 3

/-- The bytes of the file at a path. -/
def Disk.readFile (disk : Disk) (path : Text) : Except Error ByteArray :=
  match disk.read path with
  | .error (.misspelled fault) => .error fault.error
  | .error (.refused fault) => .error (.unreadable path fault)
  | .ok bytes => .ok bytes

/-- The content of a file as a reader of YAML gets it: block by block. -/
def Disk.yamlSource (disk : Disk) (bytes : ByteArray) : Yaml.Source :=
  .checked (disk.machine.checkedBefore bytes)
    (match Text.decodeText bytes with
      | .ok text => .whole text
      | .error fault =>
        ⟨(Text.textBefore fault bytes).take (disk.machine.decodedBefore bytes),
          some (.content (.undecodable fault))⟩)

/-- The value of the content of a file at a path. A JSON text is decoded as a
whole before it is read, a YAML text while it is. -/
def Disk.parseConfig (disk : Disk) (path extension : Text) (bytes : ByteArray) :
    Except Error Value :=
  if extension = ".yaml" ∨ extension = ".yml" then
    match Yaml.read configDepth (disk.yamlSource bytes) with
    | .ok v => .ok v
    | .error .malformed => .error (.unparsableYaml path)
    | .error (.content fault) => .error (.content fault)
  else
    match Text.decodeText bytes with
    | .error fault => .error (.content (.undecodable fault))
    | .ok text =>
      match Json.read text with
      | .ok v => .ok v
      | .error (.grammar fault) => .error (.unparsableJson path fault)
      | .error (.content fault) => .error (.content fault)

/-- The entries of the mapping that a file holds; a file that holds nothing
has none. -/
def readConfigFile (disk : Disk) (file : Text) : Except Error (List (Value × Value)) := do
  let path := Path.parse file
  let bytes ← disk.readFile path.render
  match ← disk.parseConfig path.render path.extension bytes with
  | .null => return []
  | .map entries => return entries
  | v => throw (.notMapping path.render v.kindName)

/-- A configuration and the directory that its declarations are relative to. -/
structure LoadedConfig where
  base : Text
  config : UserConfig
  deriving DecidableEq

/-- The configuration in a file. -/
def loadFile (disk : Disk) (file : Text) : Except Error LoadedConfig := do
  let entries ← readConfigFile disk file
  return ⟨(Path.parse file).directoryText, ← UserConfig.ofMapping entries⟩

/-- The configuration of a workspace, from the given file or from the one
that belongs to the workspace. -/
def World.loadConfig (w : World) (workspace : Text) (file : Option Text) :
    Except Error LoadedConfig := do
  let workspace := absolutizePath workspace w.currentDirectory
  let found ←
    match file with
    | some file => pure (some (absolutizePath file workspace))
    | none => w.configPath? workspace
  match found with
  | none => return ⟨workspace, .empty⟩
  | some file => loadFile w.disk file

/-- The world after a configuration was loaded: the `.env` file is taken in
unless a file was given. -/
def World.afterLoad (w : World) (file : Option Text) : World :=
  if file.isSome then w else w.settled

end Workspace
