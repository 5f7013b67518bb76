import TermStore.CommandLine.Run

/-!
# What a run may look at

The paths that doing a task can lead to, as far as a file tree tells. A tree that lacks some of
them may tell of further ones once they are put in: files of variables name the root and the
configuration, and the configuration names the databases. So the tree of a run is put together in
as many rounds as there are such steps.
-/

namespace TermStore.CommandLine

open Files (Path Place Tree)
open Project (Layout)

/-- The variables that the program itself reads. -/
def variableNames : List String :=
  ["WBTERMS_PROJECT_ROOT", "WBTERMS_CONFIG", "WBTERMS_PRIMARY_DB", "WBTERMS_REPLICA_DB",
   "WBTERMS_TEXT_MAX_BYTES", "WBTERMS_MAX_INSERT_ATTEMPTS"]

/-- The rounds in which paths can tell of further paths: the nearest file of variables, the one in
the root, the configuration, and the databases. -/
def rounds : Nat := 4

/-- The paths of a layout. -/
def layoutPaths (layout : Layout) : List Path :=
  [layout.root.path.entry Project.VariableFile.fileName, layout.dataDirectory,
   layout.configPath.path, layout.primary.path, layout.replica.path]

/-- The paths where a project is looked for. -/
def searchPaths (current : Path) : List Path :=
  current.ancestors.flatMap fun directory =>
    [directory.entry Project.VariableFile.fileName, Project.stateDirectory directory]

/-- The paths of the documents that a task reads. -/
def Task.files (current : Path) : Task → List Path
  | .acquire file _ => [current.join file]
  | _ => []

/-- The paths that a job can lead to. -/
def Job.paths (job : Job) (setting : Setting) (tree : Tree) : List Path :=
  let first := do
    let outer ← Layout.outerEnvironment tree setting.environment setting.current
    Layout.resolve tree outer job.overrides setting.current
  let last := (Layout.resolveFully tree setting.environment job.overrides setting.current).map
    Prod.snd
  searchPaths setting.current ++ job.task.files setting.current
    ++ [first, last].flatMap fun found => (found.toOption.map layoutPaths).getD []

/-- The paths that the words of a command line can lead to. -/
def pathsOf (setting : Setting) (tree : Tree) (words : List String) : List Path :=
  match read words with
  | .commands levels => (Job.ofLevels levels).paths setting tree
  | _ => []

/-- The places from the root down to that of a path, with the dots taken out of its text. -/
def placesTo (path : Path) : List Place :=
  let names := path.pieces.foldl (fun names piece =>
    if piece = "" || piece = "." then names
    else if piece = ".." then names.dropLast
    else names ++ [piece]) []
  (List.range names.length).map fun count => names.take (count + 1)

/-- The places that the words of a command line can lead to, with what may stand beside each. -/
def placesOf (setting : Setting) (tree : Tree) (words : List String) : List Place :=
  (pathsOf setting tree words).flatMap fun path =>
    let places := placesTo path
    places ++ (places.getLast?.map Tree.companions).getD []

end TermStore.CommandLine
