/-
Workspace.Main — the program.

It collects the part of the world that a command looks at, and lets
`CommandLine.run` do the rest.
-/
import Workspace.CommandLine.Lookups

namespace Workspace.Program

/-- The reason of a failed look at the disk. -/
def faultOf : IO.Error → OsFault
  | .noFileOrDirectory .. => .notFound
  | .permissionDenied _ code _ => if code = 1 then .notPermitted else .denied
  | .inappropriateType .. => .notDirectory
  | e => ⟨OsFault.inputOutput.number, e.toString⟩

/-- What lies at a path is added to the disk; nothing lies at one that cannot be
handed over. What is neither a regular file nor a directory is not opened here:
a pipe would wait for someone to write. -/
def lookAt (disk : Disk) (path : Text) : IO Disk := do
  match path.toString? with
  | none => return disk
  | some name =>
    let here ← IO.currentDir
    try
      let found ← (here / name).metadata
      match found.type with
      | .file =>
        let known := disk.write path .empty
        try
          return disk.write path (← IO.FS.readBinFile (here / name))
        catch e =>
          return known.lockAt path (faultOf e)
      | .dir => return disk.makeDirectory path
      | _ => return disk.streamAt path .empty
    catch e =>
      let fault := faultOf e
      return if fault.isAbsence then disk else disk.breakAt path fault

/-- The disk with what lies at the paths. -/
def lookAtAll (disk : Disk) (paths : List Text) : IO Disk :=
  paths.foldlM lookAt disk

/-- The text of the nearest `.env` file, or why it cannot be had. -/
def readEnvFile (currentDirectory : Text) : IO (Option (Except TextFault String)) := do
  let paths := CommandLine.candidates currentDirectory "." [".env"]
  let disk ← lookAtAll .empty paths
  match firstFile disk paths with
  | .ok (some path) =>
    match disk.read path with
    | .ok bytes =>
      match Text.decodeText bytes with
      | .ok text => return some (.ok (String.ofList text))
      | .error fault => return some (.error (.undecodable fault))
    | .error (.refused fault) => return some (.error (.refused path fault))
    | .error (.misspelled _) => return none
  | _ => return none

/-- The columns that the variable `COLUMNS` gives the console, or else 80. -/
def readColumns : IO Nat := do
  match ← IO.getEnv "COLUMNS" with
  | some value => return value.toNat?.getD 80
  | none => return 80

/-- The variables that matter to a command, as far as they are set. -/
def readEnvironment (names : List String) : IO Environment :=
  names.foldlM (fun env name => do
    match ← IO.getEnv name with
    | some value => return env.set name value
    | none => return env) []

/-- What is said about a command that broke off. -/
def crashText : CommandLine.Crash → String
  | .markup (.unopened name) =>
    "closing tag '[/" ++ name.withReplacements 1 ++ "]' does not match any open tag"
  | .markup (.arguments parameters) =>
    "the arguments '" ++ parameters.withReplacements 1 ++ "' of a tag cannot be read"
  | .markup (.style .unreadableNumber) => "a colour of a tag has a number that cannot be read"
  | .surrogate => "the output holds a surrogate, which cannot be printed"
  | .nulInPath => Error.nulInPath.message.withReplacements 1
  | .longInteger => ContentFault.longOutput.message

/-- Runs the command that the words ask for, and gives its exit code. -/
def run (words : List String) : IO UInt32 := do
  let currentDirectory : Text := (← IO.currentDir).toString
  let envFile ← readEnvFile currentDirectory
  let text? := envFile.bind Except.toOption
  let environment ← readEnvironment (configVariable :: EnvFile.names (text?.getD ""))
  let world : World := {
    disk := .encoding
    currentDirectory, environment
    envFile := text?
    envFault := match envFile with
      | some (.error fault) => some fault
      | _ => none
    columns := ← readColumns }
  let configFiles ← lookAtAll .encoding (CommandLine.lookups world words)
  let known : World := { world with disk := configFiles }
  let disk ← lookAtAll configFiles (CommandLine.lookups known words)
  let outcome := CommandLine.run { world with disk } words
  IO.print outcome.output
  match outcome.crash with
  | some crash => IO.eprintln (crashText crash)
  | none => pure ()
  return UInt32.ofNat outcome.exitCode

end Workspace.Program

def main (words : List String) : IO UInt32 :=
  Workspace.Program.run words
