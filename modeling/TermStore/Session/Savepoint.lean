import TermStore.Session.Action

/-!
# Inserts inside a savepoint

An insert of several records is a program of its own: it sets a savepoint, sends a statement for
each record, and goes back to the savepoint if one of them fails. A statement that fails is undone
by the database. One that finds no number left is undone together with the whole transaction around
it, and the savepoint with that: going back to it is then refused, which nobody asks about.
-/

namespace TermStore.Session

open Storage (Database Table TableSpec Record Fault)

/-- A connection on which a savepoint was set, and the tables as they were then, for as long as the
savepoint is there. -/
structure Marked where
  connection : Connection
  mark : Option (SortedMap String Table)

/-- Sets a savepoint. -/
def Connection.setMark (connection : Connection) : Marked :=
  ⟨connection, some connection.database.tables⟩

namespace Marked

/-- What is left after a statement failed. Where no number is left, the transaction is given up: the
open one, or the one that the savepoint began. -/
def after (marked : Marked) (fault : Fault) : Marked :=
  if fault = .full then
    let begun := (marked.connection.saved.or marked.mark).getD marked.connection.database.tables
    ⟨⟨{ marked.connection.database with tables := begun }, none⟩, none⟩
  else marked

/-- Carries a statement out. -/
def execute {α : Type} (marked : Marked) (statement : Database → Except Fault (α × Database)) :
    Except Fault α × Marked :=
  match statement marked.connection.database with
  | .ok (result, database) =>
    (.ok result, { marked with connection.database := database })
  | .error fault => (.error fault, marked.after fault)

/-- Goes back to the savepoint, if it is there. -/
def rollBack (marked : Marked) : Marked :=
  match marked.mark with
  | some tables => { marked with connection.database.tables := tables }
  | none => marked

/-- Gives the savepoint up. -/
def release (marked : Marked) : Connection := marked.connection

end Marked

/-- Makes the statement that inserts records into a table. -/
def prepareInsert (spec : TableSpec) (database : Database) : Except Fault (Unit × Database) := do
  let table ← database.table spec.name
  Database.checkInserted table spec.name spec.columns
  return ((), database)

/-- Inserts one record, unless it is there, and says how many that were. -/
def insertStatement (spec : TableSpec) (record : Record) (database : Database) :
    Except Fault (Nat × Database) := do
  let table ← database.table spec.name
  let (table, added) ← database.insertOne spec (table, 0) record
  return (added, database.setTable table)

namespace Marked

/-- Inserts records one by one, adding to a count, up to the first that fails. -/
def insertAll (spec : TableSpec) (count : Nat) : List Record → Marked → Except Fault Nat × Marked
  | [], marked => (.ok count, marked)
  | record :: rest, marked =>
    match marked.execute (insertStatement spec record) with
    | (.ok added, marked) => marked.insertAll spec (count + added) rest
    | (.error fault, marked) => (.error fault, marked)

end Marked

/-- Inserts the records that are not there, all or none of them, and counts them. -/
def Connection.insertIgnoring (connection : Connection) (spec : TableSpec)
    (records : List Record) : Except Fault Nat × Connection :=
  if records.isEmpty then (.ok 0, connection)
  else
    match connection.setMark.execute (prepareInsert spec) with
    | (.error fault, marked) => (.error fault, marked.rollBack.release)
    | (.ok _, marked) =>
      match marked.insertAll spec 0 records with
      | (.ok added, marked) => (.ok added, marked.release)
      | (.error fault, marked) => (.error fault, marked.rollBack.release)

end TermStore.Session
