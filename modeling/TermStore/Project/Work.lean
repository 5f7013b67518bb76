import TermStore.Files.DatabaseFile
import TermStore.Project.Layout
import TermStore.Session.Migrating

/-!
# Work on a project

Work changes the file tree and ends with a result or with a fault; what was changed before a
fault stays. Here are the steps that commands are made of: setting the directories and the
configuration up, and opening, migrating and counting databases.
-/

namespace TermStore.Project

open Files (Path Tree Place)
open Storage (Database MigrationRun MigrationReport MigrationFault)

/-- Work on the files of a project. -/
abbrev Work (α : Type) := ExceptT Fault (StateM Tree) α

namespace Work

/-- Carries work out on a file tree. -/
def on {α : Type} (work : Work α) (tree : Tree) : Except Fault α × Tree := StateT.run work.run tree

/-- The outcome of something that another part of the library tried. -/
def ofExcept {ε α : Type} (fault : ε → Fault) : Except ε α → Work α
  | .ok result => pure result
  | .error error => throw (fault error)

/-- Makes a directory, with all that are missing above it. -/
def makeDirectories (path : Path) (fault : Fault) : Work Unit := do
  let (made, tree) := (← get).makeDirectories path
  set tree
  if made then pure () else throw fault

end Work

/-! ### Setting up -/

/-- What setting up did. -/
structure Setup where
  madeDirectories : List Path
  wroteConfig : Bool
  deriving DecidableEq, Repr

/-- Makes those of some directories that are not there, and tells which. -/
def makeMissing : List Path → Work (List Path)
  | [] => pure []
  | path :: paths => do
    if (← get).contains path then makeMissing paths
    else
      Work.makeDirectories path (.directoryNotMade path)
      return path :: (← makeMissing paths)

/-- Writes a text file with its directory, unless it is there and may not be replaced. -/
def writeText (path : Path) (text : String) (replacing : Bool) : Work Bool := do
  if (← get).contains path && !replacing then return false
  else
    match path.parent? with
    | none => throw (.withoutDirectory path)
    | some directory =>
      Work.makeDirectories directory (.noDirectoryFor directory)
      match (← get).write path (Text.Utf8.encode text) with
      | none => throw (.notWritten path)
      | some tree =>
        set tree
        return true

/-- Sets a project up: its directories and, if wanted, a configuration to start with. -/
def setUp (layout : Layout) (withConfig replacing : Bool) : Work Setup := do
  let made ← makeMissing
    ([layout.stateDirectory, layout.dataDirectory] ++ layout.primary.path.parent?.toList)
  let wrote ←
    if withConfig then writeText layout.configPath.path Config.initialText replacing
    else pure false
  return ⟨made, wrote⟩

/-! ### Databases -/

/-- Opens the database with a path. Gives the place of its file with it. -/
def openDatabase (path : Path) (timeout : Nat) : Work (Place × Database) := do
  match (← get).databasePlace? path with
  | none => throw (.notOpened path)
  | some place =>
    let (opened, tree) := (← get).openAt place timeout
    set tree
    match opened with
    | .ok database => return (place, database)
    | .error .notOpened => throw (.notOpened path)
    | .error .timeoutTooLong => throw .timeoutTooLong
    | .error .notDatabase => throw .notDatabase

/-- Keeps what a database has become. Whether it was closed to writing is not kept. -/
def keepDatabase (place : Place) (database : Database) : Work Unit :=
  modify fun tree => tree.put place (.database { database with readOnly := false })

/-- Brings the database with a path up to the current schema, and tells how that went. The
database is made, with the directories above it, where it is missing. -/
def migrate (path : Path) (timeout : Nat) : Work MigrationRun := do
  match path.parent? with
  | none => throw (.databaseWithoutDirectory path)
  | some directory =>
    Work.makeDirectories directory (.noDirectoryForDatabase directory)
    let (place, database) ← openDatabase path timeout
    let run := database.migrate
    keepDatabase place run.database
    return run

/-- Brings the database with a path up to the current schema. -/
def migrateFully (path : Path) (timeout : Nat) : Work MigrationReport := do
  Work.ofExcept .migration (← migrate path timeout).outcome

/-- The number of migrations that the database with a path still lacks; all of them where there is
none. -/
def pendingCount (path : Path) : Work Nat := do
  if !(← get).contains path then return Storage.Migration.all.length
  else
    let (place, database) ← openDatabase path defaultTimeout
    let (count, database) := database.pendingCount
    keepDatabase place database
    Work.ofExcept .migration count

/-- The number of rows of each table of the database with a path. -/
def rowCounts (path : Path) (timeout : Nat) : Work (List (String × Nat)) := do
  let (_, database) ← openDatabase path timeout
  Work.ofExcept .migration database.rowCounts

/-- Refuses a project with a database that lacks migrations. -/
def checkMigrated (layout : Layout) : Work Unit :=
  layout.databases.forM fun path => do
    let pending ← pendingCount path
    if 0 < pending then throw (.notMigrated path pending)

end TermStore.Project
