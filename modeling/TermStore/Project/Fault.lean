import TermStore.Failure
import TermStore.Files.Tree
import TermStore.Storage.Migration

/-!
# What goes wrong around a project

The ways in which work on a project's files, configuration and databases fails, and their
wording. What lies behind a failure is given from the outer cause to the inner one, as far as it
is this library's own to tell.
-/

namespace TermStore.Project

open Files (Path)

/-- Why work on a project failed. -/
inductive Fault
  /-- A configuration or a document is there and is no text. -/
  | notRead (path : Path)
  | notConfiguration (path : Path)
  /-- A variable of the environment should hold a number. -/
  | notNumber (key value : String) (fault : Decimal.Fault)
  | zeroTextBytes
  | zeroAttempts
  | directoryNotMade (path : Path)
  /-- A file with this path would have no directory to stand in. -/
  | withoutDirectory (path : Path)
  /-- The directory for a file was not made. -/
  | noDirectoryFor (directory : Path)
  | notWritten (path : Path)
  | databaseWithoutDirectory (path : Path)
  | noDirectoryForDatabase (directory : Path)
  | notOpened (path : Path)
  /-- The time to wait for others is more than can be set. This ends the program at once. -/
  | timeoutTooLong
  | notDatabase
  /-- A value holds a NUL, so no variable can have it. This ends the program at once. -/
  | unfitVariable (name : String)
  | migration (fault : Storage.MigrationFault)
  | notMigrated (path : Path) (pending : Nat)
  | notTerms (path : Path) (failure : Failure)
  | store (failure : Failure)
  deriving DecidableEq, Repr

/-- What to do about pending migrations. -/
def migrationPolicy : String := "Run `wbterms db migrate` to apply pending schema migrations."

namespace Fault

/-- The wording of a fault. -/
def message : Fault → String
  | .notRead path => "failed to read " ++ path.text
  | .notConfiguration path => "failed to parse " ++ path.text
  | .notNumber key value _ =>
    key ++ " must be a non-negative integer, got '" ++ value ++ "'"
  | .zeroTextBytes => "text_max_bytes must be greater than zero"
  | .zeroAttempts => "max_insert_attempts must be greater than zero"
  | .directoryNotMade path => "failed to create " ++ path.text
  | .withoutDirectory path => "path has no parent: " ++ path.text
  | .noDirectoryFor directory => "failed to create parent directory " ++ directory.text
  | .notWritten path => "failed to write " ++ path.text
  | .databaseWithoutDirectory path => "db path has no parent: " ++ path.text
  | .noDirectoryForDatabase directory =>
    "failed to create database parent directory " ++ directory.text
  | .notOpened path => "failed to open " ++ path.text
  | .timeoutTooLong => "too big"
  | .notDatabase => "failed to enable WAL journal mode"
  | .unfitVariable name => "failed to set environment variable " ++ name
  | .migration fault => fault.message
  | .notMigrated path pending =>
    path.display ++ " has " ++ toString pending ++ " pending migration(s).\n" ++ migrationPolicy
  | .notTerms path _ => "failed to parse terms in " ++ path.text
  | .store failure => failure.report

/-- What lies behind a fault, from the outer cause to the inner one. -/
def causes : Fault → List String
  | .notNumber _ _ fault => [fault.message]
  | .migration fault => fault.causes
  | .notTerms _ failure => [failure.message]
  | _ => []

/-- Does the fault end the program at once, instead of being reported? -/
def endsProgram : Fault → Bool
  | .timeoutTooLong => true
  | .unfitVariable _ => true
  | _ => false

end Fault

end TermStore.Project
