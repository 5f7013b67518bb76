import TermStore.Session.Savepoint

/-!
# Migrations inside savepoints

A migration is a program of its own as well: it sets a savepoint, carries its statements out one by
one, enters its version in the ledger and gives the savepoint up. If a statement or the entry fails
it goes back to the savepoint first. A run of migrations sends these programs over one connection,
one after the other, up to the first that fails; the ledger is made and read outside of them.
-/

namespace TermStore.Session

open Storage (Database Statement Migration MigrationFault Fault)

/-- Carries out a statement of a migration, which has no result. -/
def schemaStatement (statement : Statement) (database : Database) :
    Except Fault (Unit × Database) := do
  return ((), ← database.execute statement)

/-- Enters a migration in the ledger. -/
def entryStatement (migration : Migration) (database : Database) :
    Except Fault (Unit × Database) := do
  return ((), ← database.enterVersion migration.version (.text migration.name))

/-- Carries the statements of a migration out one by one, up to the first that fails. -/
def Marked.executeAll : List Statement → Marked → Except Fault Unit × Marked
  | [], marked => (.ok (), marked)
  | statement :: rest, marked =>
    match marked.execute (schemaStatement statement) with
    | (.ok _, marked) => marked.executeAll rest
    | (.error fault, marked) => (.error fault, marked)

namespace Connection

/-- Applies one migration and enters it in the ledger. -/
def applyMigration (connection : Connection) (migration : Migration) :
    Except MigrationFault Unit × Connection :=
  match connection.setMark.executeAll migration.statements with
  | (.error _, marked) =>
    (.error (.statementFailed migration.version migration.name), marked.rollBack.release)
  | (.ok _, marked) =>
    match marked.execute (entryStatement migration) with
    | (.error _, marked) =>
      (.error (.notEntered migration.version migration.name), marked.rollBack.release)
    | (.ok _, marked) => (.ok (), marked.release)

/-- Applies migrations one after the other until one fails. -/
def applyAll (connection : Connection) (applied : List (Nat × String)) : List Migration →
    Connection × List (Nat × String) × Option MigrationFault
  | [] => (connection, applied, none)
  | migration :: rest =>
    match connection.applyMigration migration with
    | (.error fault, connection) => (connection, applied, some fault)
    | (.ok _, connection) =>
      connection.applyAll (applied ++ [(migration.version, migration.name)]) rest

end Connection

end TermStore.Session

namespace TermStore.Storage.Database

open Session (Connection)

/-- Brings a database up to the current schema, over a connection of its own. -/
def migrate (db : Database) : MigrationRun :=
  match db.ensureLedger with
  | .error fault => ⟨db, [], .error fault⟩
  | .ok db =>
    match db.currentVersion with
    | .error fault => ⟨db, [], .error fault⟩
    | .ok current =>
      match (Connection.of db).applyAll []
          (Migration.all.filter fun migration => current < migration.version) with
      | (connection, applied, some fault) => ⟨connection.database, applied, .error fault⟩
      | (connection, applied, none) =>
        ⟨connection.database, applied,
          connection.database.currentVersion.map fun version => ⟨applied, version⟩⟩

end TermStore.Storage.Database
