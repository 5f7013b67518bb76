import TermStore.Dialog.Basic

/-!
# Dialogs with two databases

The plain way to carry a dialog on: with a primary database and a replica, and nobody else around.
A request that fails changes nothing, and none but an insert changes a database.
-/

namespace TermStore

open Storage (Database)

/-- The databases that a dialog is carried on with, and the kinds' ids that it remembers. Without
a replica of its own, the replica is another name for the primary. -/
structure Databases where
  primary : Database
  replica : Option Database
  kindIds : KindIds

namespace Databases

/-- The database of a store. -/
def database (databases : Databases) : Side → Database
  | .primary => databases.primary
  | .replica => databases.replica.getD databases.primary

/-- The databases with that of one store replaced. -/
def setDatabase (databases : Databases) (side : Side) (database : Database) : Databases :=
  match side, databases.replica with
  | .replica, some _ => { databases with replica := some database }
  | _, _ => { databases with primary := database }

/-- What came of reading a database, which leaves it as it is. -/
def readOnly {α : Type} (databases : Databases) (outcome : Except Storage.Fault α) :
    Except Failure α × Databases :=
  match outcome with
  | .ok result => (.ok result, databases)
  | .error fault => (.error (.storage fault), databases)

/-- The reply of the databases to a request. -/
def reply : (request : Request) → Databases → Except Failure (Reply request) × Databases
  | .find side spec records, databases =>
    databases.readOnly ((databases.database side).find spec records)
  | .findIds side spec ids, databases =>
    databases.readOnly ((databases.database side).findIds spec ids)
  | .insert side spec records, databases =>
    match (databases.database side).insertIgnoring spec records with
    | .ok (added, database) => (.ok added, databases.setDatabase side database)
    | .error fault => (.error (.storage fault), databases)
  | .chains side ids, databases => databases.readOnly ((databases.database side).chains ids)
  | .callerSection _, databases => (.ok (), databases)
  | .known, databases => (.ok databases.kindIds, databases)
  | .remember ids, databases => (.ok (), { databases with kindIds := ids })

/-- The way of two databases to answer. -/
def handler : Handler Databases where
  reply := reply
  note _ databases := databases

end Databases

end TermStore
