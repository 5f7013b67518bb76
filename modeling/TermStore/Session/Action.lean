import TermStore.Dialog.Basic

/-!
# What others do to the stores

Between and around the calls of the term store other programs change the same databases. An
`Action` is one such change. Actions see the databases through a connection, which may hold a
transaction open; rolling back brings the tables back as they were when it began.
-/

namespace TermStore.Session

open Storage (TableSpec Database Table Value Values Fault)

/-- An open database, with its tables as they were when a transaction began. -/
structure Connection where
  database : Database
  saved : Option (SortedMap String Table)

/-- A connection without a transaction. -/
def Connection.of (database : Database) : Connection := ⟨database, none⟩

/-- What a connection is after a call on it failed. A database that has no numbers left gives an
open transaction up as a whole. -/
def Connection.after (connection : Connection) (fault : Fault) : Connection :=
  if fault = .full then
    ⟨{ connection.database with
        tables := connection.saved.getD connection.database.tables }, none⟩
  else connection

/-- The database that a connection leaves when it is closed. An open transaction is given up, and
a connection closed to writing says nothing about the next one. -/
def Connection.close (connection : Connection) : Database :=
  ⟨connection.saved.getD connection.database.tables, false⟩

/-- The two stores. Without a replica of its own, the replica is another name for the primary. -/
structure Stores where
  primary : Connection
  replica : Option Connection

namespace Stores

/-- The connection to a store. -/
def connection (stores : Stores) : Side → Connection
  | .primary => stores.primary
  | .replica => stores.replica.getD stores.primary

/-- The database of a store. -/
def database (stores : Stores) (side : Side) : Database := (stores.connection side).database

/-- The stores with the connection of one replaced. -/
def setConnection (stores : Stores) (side : Side) (connection : Connection) : Stores :=
  match side, stores.replica with
  | .replica, some _ => { stores with replica := some connection }
  | _, _ => { stores with primary := connection }

/-- The stores with the database of one replaced. -/
def setDatabase (stores : Stores) (side : Side) (database : Database) : Stores :=
  stores.setConnection side { stores.connection side with database := database }

/-- What the stores are after a call on one failed. -/
def after (stores : Stores) (side : Side) (fault : Fault) : Stores :=
  stores.setConnection side ((stores.connection side).after fault)

end Stores

/-- The table of pairs that sessions use beside those of a term store. -/
def pairs : TableSpec := ⟨"pair_records", "id", ["left_id", "right_name"]⟩

/-- A table that no store has. -/
def nowhere : TableSpec := ⟨"no_such_records", "id", ["value"]⟩

/-- The specification of a table by name; of a name that is not known there is no table. -/
def specOf (name : String) : TableSpec :=
  ((TableSpec.all ++ [pairs, nowhere, Storage.ledgerSpec]).find? fun spec =>
    spec.name == name).getD ⟨name, "id", []⟩

/-- A change to a store. -/
inductive Action
  /-- Adds a row, with the next id for null. -/
  | put (side : Side) (spec : TableSpec) (id : Value) (values : Values)
  | set (side : Side) (spec : TableSpec) (id : Int) (column : String) (value : Value)
  /-- Removes the rows of some ids, or all. -/
  | delete (side : Side) (spec : TableSpec) (ids : Option (List Int))
  /-- Makes tables of the replica hold what the primary's hold. -/
  | replicate (specs : List TableSpec)
  | dropTable (side : Side) (name : String)
  | createTable (side : Side) (name : String) (columns : List String)
  | setReadOnly (side : Side) (on : Bool)
  | begin (side : Side)
  | commit (side : Side)
  | rollBack (side : Side)
  | enterMigration (side : Side) (version : Int) (name : Value)
  | forgetMigration (side : Side) (version : Int)

/-- Changes to the stores that end with the first fault; what was changed before it stays. -/
abbrev Change (α : Type) := ExceptT Fault (StateM Stores) α

namespace Change

/-- Carries changes out. -/
def on {α : Type} (change : Change α) (stores : Stores) : Except Fault α × Stores :=
  StateT.run change.run stores

/-- Reads a database. -/
def read {α : Type} (side : Side) (look : Database → Except Fault α) : Change α := do
  match look ((← get).database side) with
  | .ok found => return found
  | .error fault => throw fault

/-- Changes the database of a store, or leaves it. -/
def database (side : Side) (change : Database → Except Fault Database) : Change Unit := do
  match change ((← get).database side) with
  | .ok database => modify fun stores => stores.setDatabase side database
  | .error fault =>
    modify fun stores => stores.after side fault
    throw fault

/-- Begins a transaction. -/
def begin (side : Side) : Change Unit := do
  let connection := (← get).connection side
  match connection.saved with
  | some _ => throw .nestedTransaction
  | none =>
    modify fun stores =>
      stores.setConnection side { connection with saved := connection.database.tables }

/-- Keeps what was changed since a transaction began. -/
def commit (side : Side) : Change Unit := do
  let connection := (← get).connection side
  match connection.saved with
  | none => throw .nothingToCommit
  | some _ => modify fun stores => stores.setConnection side { connection with saved := none }

/-- Undoes what was changed since a transaction began. -/
def rollBack (side : Side) : Change Unit := do
  let connection := (← get).connection side
  match connection.saved with
  | none => throw .nothingToRollBack
  | some tables =>
    modify fun stores =>
      stores.setConnection side ⟨{ connection.database with tables := tables }, none⟩

/-- Makes a table of the replica hold what the primary's holds. Without a replica of its own the
table is emptied. -/
def replicate (spec : TableSpec) : Change Unit := do
  database .replica fun db => db.delete spec none
  let rows ← read .primary fun db => db.rowsOf spec
  rows.forM fun row => database .replica fun db => db.put spec row.1 row.2

end Change

namespace Action

/-- The change that an action is. -/
def change : Action → Change Unit
  | .put side spec id values => .database side fun db => db.put spec id values
  | .set side spec id column value => .database side fun db => db.set spec id column value
  | .delete side spec ids => .database side fun db => db.delete spec ids
  | .replicate specs => specs.forM Change.replicate
  | .dropTable side name => .database side fun db => db.dropTable name
  | .createTable side name columns => .database side fun db => db.createTable name columns
  | .setReadOnly side on => .database side fun db => .ok { db with readOnly := on }
  | .begin side => .begin side
  | .commit side => .commit side
  | .rollBack side => .rollBack side
  | .enterMigration side version name => .database side fun db => db.enterVersion version name
  | .forgetMigration side version =>
    .database side fun db => db.delete Storage.ledgerSpec (some [version])

/-- Carries actions out until one fails. -/
def performAll (stores : Stores) (actions : List Action) : Except Fault Unit × Stores :=
  Change.on (actions.forM change) stores

end Action

end TermStore.Session
