import TermStore.Session.Hook
import TermStore.Session.Migrating
import TermStore.Resolution

/-!
# Sessions

A session carries dialogs on with databases. It logs every call on a store and every event, and
lets hooks and the caller's section interfere. `handler` is its way to answer requests: only an
insert changes a database; and a resolution reads past the hooks.
-/

namespace TermStore.Session

open Storage (TableSpec Record RecordIds Fault Database Column Table)

/-- The state of a session while a dialog is carried on. -/
structure World where
  stores : Stores
  hooks : List Hook
  /-- The kinds' ids that the kind store in use remembers. -/
  kindIds : KindIds
  /-- What the caller does in its section, and the failure it then reports. -/
  caller : List Action × Option Failure
  /-- The ids that the caller's section saw. -/
  sectionIds : Option (List Int)
  log : List String

namespace World

/-- The world with a line logged. -/
def logged (world : World) (line : String) : World := { world with log := world.log ++ [line] }

/-- Makes a call on a store under the hooks that act on it. `pretended` is the reply to a call
that is kept from the store. -/
def underHooks {α : Type} (world : World) (side : Side) (call : Call) (spec : TableSpec)
    (count : Nat) (pretended : α) (make : Connection → Except Fault α × Connection) :
    Except Failure α × World :=
  let world := world.logged ("CALL " ++ side.name ++ "." ++ call.name ++ " " ++ spec.name ++ " "
    ++ toString count)
  let world := { world with hooks := Hook.counted world.hooks side call spec.name }
  let acting := Hook.acting world.hooks side call spec.name
  match Hook.enter world.stores acting with
  | (.error failure, stores) => (.error failure, { world with stores := stores })
  | (.ok _, stores) =>
    let (outcome, stores) : Except Failure α × Stores :=
      if acting.any Hook.pretends then (.ok pretended, stores)
      else
        let (outcome, connection) := make (stores.connection side)
        (outcome.mapError .storage, stores.setConnection side connection)
    match Hook.leave stores acting with
    | (.error failure, stores) => (.error failure, { world with stores := stores })
    | (.ok _, stores) => (outcome, { world with stores := stores })

/-- The reply of a session to a request. -/
def reply : (request : Request) → World → Except Failure (Reply request) × World
  | .find side spec records, world =>
    world.underHooks side .find spec records.length (.empty : RecordIds) fun connection =>
      (connection.database.find spec records, connection)
  | .findIds side spec ids, world =>
    world.underHooks side .findIds spec ids.length (.empty : SortedMap Int Record) fun connection =>
      (connection.database.findIds spec ids, connection)
  | .insert side spec records, world =>
    world.underHooks side .insert spec records.length records.length fun connection =>
      connection.insertIgnoring spec records
  | .chains side ids, world =>
    match (world.stores.database side).chains ids with
    | .ok found => (.ok found, world)
    | .error fault => (.error (.storage fault), world)
  | .callerSection ids, world =>
    let world := { world.logged "CALL callback" with sectionIds := some ids }
    match Action.performAll world.stores world.caller.1 with
    | (.error fault, stores) => (.error (.storage fault), { world with stores := stores })
    | (.ok _, stores) =>
      match world.caller.2 with
      | some failure => (.error failure, { world with stores := stores })
      | none => (.ok (), { world with stores := stores })
  | .known, world => (.ok world.kindIds, world)
  | .remember ids, world => (.ok (), { world with kindIds := ids })

/-- The way of a session to answer. -/
def handler : Handler World where
  reply := reply
  note event world := world.logged event.line

end World

/-! ### The state between dialogs -/

/-- Where a kind store has its ids. -/
inductive KindSource
  | memory
  | table (read write : Side)
  deriving DecidableEq, Repr

/-- The kind store of a source. -/
def KindSource.store : KindSource → KindStore
  | .memory => .inMemory
  | .table read write => .inTable read write

/-- The state of a session between dialogs. -/
structure State where
  stores : Stores
  hooks : List Hook
  /-- The kind stores by name, each with the ids that it remembers. -/
  kinds : SortedMap String (KindSource × KindIds)
  batches : SortedMap String Batch

namespace State

/-- The table of pairs, which is unique in its pairs. -/
def pairTable : Table where
  name := pairs.name
  key := some pairs.idColumn
  columns := [⟨"left_id", .integer, false⟩, ⟨"right_name", .text, false⟩]
  counter := some 0
  rows := .empty
  indexes := [⟨"sqlite_autoindex_pair_records_1", pairs.columns, true⟩]

/-- A database as sessions begin with: the table of pairs and, if wanted, the current schema. -/
def freshDatabase (schema : Bool) : Database :=
  let database := if schema then Database.empty.migrate.database else .empty
  database.setTable pairTable

/-- The state in which a session begins. -/
def start (separate schema : Bool) (kinds : KindSource) : State where
  stores := {
    primary := .of (freshDatabase schema),
    replica := if separate then some (.of (freshDatabase schema)) else none }
  hooks := []
  kinds := SortedMap.empty.put "t" (kinds, .none)
  batches := .empty

/-- The kind store of a name. -/
def kindSource (state : State) (name : String) : KindSource × KindIds :=
  (state.kinds.get? name).getD (.memory, .none)

/-- Carries a dialog on with the kind store of a name. Also gives the log and the ids that the
caller's section saw. -/
def carryOn {α : Type} (state : State) (kindStore : String)
    (callerSection : List Action × Option Failure) (dialog : KindStore → Dialog α) :
    Except Failure α × State × List String × Option (List Int) :=
  let (source, ids) := state.kindSource kindStore
  let (outcome, world) := (dialog source.store).run World.handler
    { stores := state.stores, hooks := state.hooks, kindIds := ids, caller := callerSection,
      sectionIds := none, log := [] }
  (outcome,
    { state with
      stores := world.stores, hooks := world.hooks,
      kinds := state.kinds.put kindStore (source, world.kindIds) },
    world.log, world.sectionIds)

end State

end TermStore.Session
