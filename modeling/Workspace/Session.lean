/-
Workspace.Session — loading and resolving, again and again.

`World.loadAndResolve` is the whole way from a workspace to its projects. A
`Session` does it repeatedly while the world changes, and remembers the last
configuration that could be resolved as its current one.
-/
import Workspace.ConfigFile
import Workspace.Ownership
import Workspace.ServerSettings

namespace Workspace

/-- Loads the configuration of a workspace and resolves it; also gives the
directory that its declarations are relative to. -/
def World.loadAndResolve (w : World) (workspace : Text) (file : Option Text) :
    Except Error (Text × Resolution) := do
  let loaded ← w.loadConfig workspace file
  return (loaded.base, ← resolve w.finder loaded.base workspace loaded.config)

structure Session where
  world : World
  /-- The last configuration that was resolved. -/
  current : Option FullConfig

namespace Session

/-- A resolution becomes the current configuration, an error leaves it. -/
def keep {α : Type} (s : Session) (result : Except Error α) (config : α → FullConfig) :
    Session :=
  match result with
  | .ok a => { s with current := some (config a) }
  | .error _ => s

/-- Resolves a configuration in the session. -/
def resolve (s : Session) (find : Finder) (base workspace : Text)
    (config : Except Error UserConfig) : Except Error Resolution × Session :=
  let result := config.bind (Workspace.resolve find base workspace)
  (result, s.keep result Resolution.config)

/-- Finds the configuration file of a workspace in the session. -/
def configPath? (s : Session) (workspace : Text) : Except Error (Option Text) × Session :=
  (s.world.configPath? workspace, { s with world := s.world.settled })

/-- Loads a configuration in the session. -/
def load (s : Session) (workspace : Text) (file : Option Text) :
    Except Error LoadedConfig × Session :=
  (s.world.loadConfig workspace file, { s with world := s.world.afterLoad file })

/-- Loads and resolves a configuration in the session. -/
def loadAndResolve (s : Session) (workspace : Text) (file : Option Text) :
    Except Error (Text × Resolution) × Session :=
  let result := s.world.loadAndResolve workspace file
  (result, { s with world := s.world.afterLoad file }.keep result fun r => r.2.config)

/-- The projects of the current configuration. -/
def projects (s : Session) : List Project :=
  match s.current with
  | none => []
  | some config => config.projects

end Session

end Workspace
