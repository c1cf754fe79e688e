/-
Workspace.Project — projects, and how a declaration becomes one.

A project has a root and may be governed by a package manifest and by a
tsconfig or jsconfig file. What a declaration does not say is searched for
from the root upwards: the nearest `package.json`, and of the nearest
`jsconfig.json` and `tsconfig.json` the one in the deeper directory, where
`tsconfig.json` wins a tie.

The search is a parameter (`Finder`), so everything here is a function of
its arguments alone.
-/
import Workspace.Config
import Workspace.Search

namespace Workspace

/-- A fully resolved project. -/
structure Project where
  root : Text
  package : Option Text
  tsconfig : Option Text
  deriving DecidableEq, Repr

/-- A text that says something: the empty one counts as none. -/
def nonEmpty? : Option Text → Option Text
  | some [] => none
  | other => other

/-- The canonical path of what a search found. -/
def findNormalized (find : Finder) (root fileName : Text) : Except Error (Option Text) :=
  (find root fileName).map fun found => (nonEmpty? found).map normalizePath

/-- The package manifest that governs a root: the override, taken from the
root, or else the nearest manifest. -/
def resolvePackage (find : Finder) (root : Text) (override : Option Text) :
    Except Error (Option Text) :=
  match nonEmpty? override with
  | some path => .ok (some (absolutizePath path root))
  | none => findNormalized find root "package.json"

/-- Of a jsconfig and a tsconfig file, the one in the deeper directory; the
tsconfig file of two that are equally deep. -/
def moreSpecific (jsconfig tsconfig : Option Text) : Option Text :=
  match tsconfig, jsconfig with
  | some strict, some loose =>
    if pathDepth loose ≤ pathDepth strict then some strict else some loose
  | some strict, none => some strict
  | none, other => other

/-- The tsconfig or jsconfig file that governs a root: the override, taken
from the root, or else the more specific of the two nearest. -/
def resolveTsconfig (find : Finder) (root : Text) (override : Option Text) :
    Except Error (Option Text) :=
  match nonEmpty? override with
  | some path => .ok (some (absolutizePath path root))
  | none => do
    let loose ← findNormalized find root "jsconfig.json"
    let strict ← findNormalized find root "tsconfig.json"
    return moreSpecific loose strict

namespace Declaration

/-- A declaration with all its fields. -/
def toRecord : Declaration → ProjectRecord
  | .path root => ⟨root, none, none⟩
  | .record fields => fields

end Declaration

/-- The project that a declaration stands for, its root taken from `base`. -/
def resolveProject (find : Finder) (base : Text) (declaration : Declaration) :
    Except Error Project := do
  let fields := declaration.toRecord
  let root := absolutizePath fields.root base
  let package ← resolvePackage find root fields.package
  let tsconfig ← resolveTsconfig find root fields.tsconfig
  return ⟨root, package, tsconfig⟩

/-- The projects with the deeper root first; equally deep ones keep their
order. -/
def sortByDepth (projects : List Project) : List Project :=
  projects.mergeSort fun a b => pathDepth b.root ≤ pathDepth a.root

end Workspace
