import TermStore.Project.Config

/-!
# Where a project's things are

A project has a root directory, a configuration, a primary database and a replica. Each of these
paths is chosen from the first source that names it: a flag, the environment, for databases the
configuration, and last a default. Without flag and variable the root is the nearest directory
from the current one outwards that has a directory `.wbterms`, or else the current one. Relative
paths lead from the root, that of the root itself from the current directory.
-/

namespace TermStore.Project

open Files (Path Tree)

/-- Where a path was taken from. -/
inductive Source
  | flag
  | environment
  | config
  /-- A search through the directories from the current one outwards. -/
  | search
  | default
  deriving DecidableEq, Repr

/-- The name of a source. -/
def Source.name : Source → String
  | .flag => "flag"
  | .environment => "env"
  | .config => "config"
  | .search => "heuristic"
  | .default => "default"

/-- A path and its source. -/
structure Choice where
  path : Path
  source : Source
  deriving DecidableEq, Repr

/-- A path as diagnostics show it, with its source. -/
def Choice.display (choice : Choice) : String :=
  choice.path.display ++ " (" ++ choice.source.name ++ ")"

/-- The paths that flags name. -/
structure Overrides where
  root : Option Path
  primary : Option Path
  replica : Option Path
  config : Option Path
  deriving DecidableEq, Repr

/-- No flags. -/
def Overrides.none : Overrides := ⟨.none, .none, .none, .none⟩

/-- The name of the directory that marks a project. -/
def markerName : String := ".wbterms"

/-- The directory of a project's own files. -/
def stateDirectory (root : Path) : Path := root.entry markerName

/-- The directory of a project's databases. -/
def dataDirectory (root : Path) : Path := (stateDirectory root).entry "data"

/-- The paths of a project and what its configuration says. -/
structure Layout where
  root : Choice
  configPath : Choice
  primary : Choice
  /-- The same path as the primary's, unless some source names another one. -/
  replica : Choice
  config : Config
  deriving DecidableEq, Repr

/-- The nearest directory that holds a marker, from a path outwards. -/
def markedAncestor? (tree : Tree) (path : Path) : Option Path :=
  path.ancestors.find? fun ancestor => tree.isDirectory (stateDirectory ancestor)

/-- Chooses the root. -/
def chooseRoot (tree : Tree) (environment : Environment) (flag : Option Path) (current : Path) :
    Choice :=
  match flag with
  | some path => ⟨current.join path, .flag⟩
  | none =>
    match environment.trimmed? "WBTERMS_PROJECT_ROOT" with
    | some value => ⟨current.join (.ofText value), .environment⟩
    | none =>
      match markedAncestor? tree current with
      | some root => ⟨root, .search⟩
      | none => ⟨current, .default⟩

/-- Chooses a path from the sources that may name it, in their order; `rest` is the path that is
the default. -/
def choosePath (root : Path) (environment : Environment) (flag : Option Path) (key : String)
    (configured : Option String) (rest : Path) : Choice :=
  match flag with
  | some path => ⟨root.join path, .flag⟩
  | none =>
    match environment.trimmed? key with
    | some value => ⟨root.join (.ofText value), .environment⟩
    | none =>
      match configured with
      | some value => ⟨root.join (.ofText value), .config⟩
      | none => ⟨rest, .default⟩

namespace Layout

/-- The layout of the project that a current directory belongs to. -/
def resolve (tree : Tree) (environment : Environment) (overrides : Overrides) (current : Path) :
    Except Fault Layout := do
  let root := chooseRoot tree environment overrides.root current
  let configPath := choosePath root.path environment overrides.config "WBTERMS_CONFIG" none
    ((stateDirectory root.path).entry "config.toml")
  let config ← Config.load tree configPath.path
  let primary := choosePath root.path environment overrides.primary "WBTERMS_PRIMARY_DB"
    config.primary ((dataDirectory root.path).entry "terms.db")
  let replica := choosePath root.path environment overrides.replica "WBTERMS_REPLICA_DB"
    config.replica primary.path
  return ⟨root, configPath, primary, replica, config⟩

/-- The directory of the project's own files. -/
def stateDirectory (layout : Layout) : Path := Project.stateDirectory layout.root.path

/-- The directory of the project's databases. -/
def dataDirectory (layout : Layout) : Path := Project.dataDirectory layout.root.path

/-- Has the replica a path of its own? -/
def hasReplica (layout : Layout) : Bool := !layout.replica.path.sameAs layout.primary.path

/-- The databases of the project. -/
def databases (layout : Layout) : List Path :=
  layout.primary.path :: if layout.hasReplica then [layout.replica.path] else []

/-- The layout line by line. -/
def diagnostics (layout : Layout) : String :=
  "\n".intercalate [
    "project_root=" ++ layout.root.display,
    "state_dir=" ++ layout.stateDirectory.display,
    "data_dir=" ++ layout.dataDirectory.display,
    "config_path=" ++ layout.configPath.display,
    "primary_db=" ++ layout.primary.display,
    "replica_db=" ++ layout.replica.display,
    "policy=" ++ migrationPolicy]

end Layout

end TermStore.Project
