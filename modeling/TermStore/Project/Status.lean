import TermStore.Files.Image
import TermStore.Project.Work

/-!
# The status of a project

What is there of a project and what is still missing. Looking at a database makes the ledger of
its migrations, and an empty file becomes a database.
-/

namespace TermStore.Project

open Files (Path Tree Node)

/-- What a project lacks. -/
inductive Warning
  | noStateDirectory
  | noPrimary
  | pendingMigrations
  | noReplica (path : Path)
  deriving DecidableEq, Repr

/-- The wording of a warning. -/
def Warning.message : Warning → String
  | .noStateDirectory => ".wbterms/ is missing; run `wbterms init` first"
  | .noPrimary => "primary database is missing; run `wbterms db migrate`"
  | .pendingMigrations => migrationPolicy
  | .noReplica path =>
    "replica " ++ path.display ++ " does not exist; reads will fail until it is provisioned"

/-- The status of a project. -/
structure Status where
  stateDirectoryExists : Bool
  configExists : Bool
  primaryExists : Bool
  /-- The size of the primary's file in bytes, before it is looked at. -/
  primarySize : Option Nat
  replicaExists : Bool
  /-- The number of pending migrations of the primary. -/
  pending : Option Nat
  warnings : List Warning
  deriving DecidableEq, Repr

/-- The size of a file in bytes. Directories have none to speak of. -/
def fileSize : Node → Nat
  | .directory => 0
  | .file bytes => bytes.length
  | .database database => (Files.Image.encode database).utf8ByteSize

/-- Looks at a project. -/
def inspect (layout : Layout) : Work Status := do
  let tree ← get
  let stateDirectoryExists := tree.contains layout.stateDirectory
  let primary := tree.find? layout.primary.path
  let replicaExists := tree.contains layout.replica.path
  let pending ←
    if primary.isSome then some <$> pendingCount layout.primary.path else pure none
  let warnings :=
    (if stateDirectoryExists then [] else [.noStateDirectory])
      ++ (match pending with
        | none => [.noPrimary]
        | some pending => if 0 < pending then [.pendingMigrations] else [])
      ++ (if layout.hasReplica && !replicaExists then [.noReplica layout.replica.path] else [])
  return {
    stateDirectoryExists := stateDirectoryExists
    configExists := tree.contains layout.configPath.path
    primaryExists := primary.isSome
    primarySize := primary.map fileSize
    replicaExists := replicaExists
    pending := pending
    warnings := warnings }

end TermStore.Project
