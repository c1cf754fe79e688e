/-
Workspace.Ownership — which project a file belongs to.

A file belongs to the first project whose root holds it. Projects are listed
deepest root first, so that is the most specific one. Containment is by
whole segments: `/ws/pkg10/a` does not lie in `/ws/pkg1`.
-/
import Workspace.Resolution

namespace Workspace

/-- The first project whose root holds the file. -/
def findOwner (projects : List Project) (file : Text) : Option Project :=
  projects.find? fun p => isPathWithin (normalizePath file) p.root

/-- Files by the root of their owner, and the files that nobody owns. -/
structure Grouping where
  owned : List (Text × List Text)
  unowned : List Text
  deriving DecidableEq, Repr

/-- Puts a file at the end of the bucket of a root, which is added at the end
when it is not there yet. -/
def addToBucket (root file : Text) : List (Text × List Text) → List (Text × List Text)
  | [] => [(root, [file])]
  | (r, files) :: rest =>
    if r = root then (r, files ++ [file]) :: rest else (r, files) :: addToBucket root file rest

/-- The place of the last project with a root. -/
def lastPlace (projects : List Project) (root : Text) : Nat :=
  projects.length - (projects.reverse.findIdx fun p => p.root = root) - 1

/-- Adds one file to a grouping. -/
def Grouping.add (projects : List Project) (g : Grouping) (file : Text) : Grouping :=
  let normalized := normalizePath file
  match findOwner projects normalized with
  | none => { g with unowned := g.unowned ++ [normalized] }
  | some p => { g with owned := addToBucket p.root normalized g.owned }

/-- All files grouped by owner. The buckets are in the order of the last
projects with their roots. -/
def groupFiles (projects : List Project) (files : List Text) : Grouping :=
  let g := files.foldl (Grouping.add projects) ⟨[], []⟩
  { g with owned := g.owned.mergeSort fun a b =>
      lastPlace projects a.1 ≤ lastPlace projects b.1 }

end Workspace
