/-
Workspace.Search — the search for a file in a directory and its ancestors.

A search goes from a directory up to the root and takes the first candidate
that is a regular file. A candidate that is absent, or that is something
else than a regular file, is passed over; one that cannot be inspected for
any other reason ends the search with an error, and so does one whose text is
no path.
-/
import Workspace.World
import Workspace.Error

namespace Workspace

/-- The start directory and then each of its ancestors, nearest first. -/
def searchDirs (currentDirectory start : Text) : List Path :=
  ((Path.parse currentDirectory).under (Path.parse start)).normalize.chain

/-- The place where a directory holds, or would hold, a file. -/
def candidate (directory : Path) (fileName : Text) : Text :=
  (directory.under (Path.parse fileName)).render

/-- A regular file lies at the path; an absent one does not. -/
def isRegularFile (disk : Disk) (path : Text) : Except Error Bool :=
  match disk.look path with
  | .ok (.file _) => .ok true
  | .ok .directory | .ok (.stream _) => .ok false
  | .error (.misspelled fault) => .error fault.error
  | .error (.refused fault) =>
    if fault.isAbsence then .ok false else .error (.uninspectable path fault)

/-- The first of the candidates that is a regular file. -/
def firstFile (disk : Disk) : List Text → Except Error (Option Text)
  | [] => .ok none
  | path :: rest =>
    match isRegularFile disk path with
    | .error e => .error e
    | .ok true => .ok (some path)
    | .ok false => firstFile disk rest

/-- The nearest file of this name in `start` or one of its ancestors. -/
def findConfigFile (disk : Disk) (currentDirectory start fileName : Text) :
    Except Error (Option Text) :=
  firstFile disk ((searchDirs currentDirectory start).map (candidate · fileName))

/-- A way to search for a file, given the start directory and the name. -/
abbrev Finder := Text → Text → Except Error (Option Text)

/-- The search on the disk of a world. -/
def World.finder (w : World) : Finder :=
  findConfigFile w.disk w.currentDirectory

end Workspace
