import TermStore.Storage.Table
import TermStore.Chunks

/-!
# Databases

A database is a collection of tables that may be closed to writing. Look-ups send the values of
up to 250 records, or up to 250 ids, in one statement; an insert of several records is done as a
whole or not at all. A statement is checked for its table first, then for its columns, then for
the number of values it is given, and then for writing.
-/

namespace TermStore.Storage

/-- A database. -/
structure Database where
  /-- The tables under the folded forms of their names. -/
  tables : SortedMap String Table
  readOnly : Bool

namespace Database

/-- The database without tables. -/
def empty : Database := ⟨.empty, false⟩

/-- The number of records or ids that one statement looks up. -/
def chunkSize : Nat := 250

/-- Is there a table of this name? -/
def hasTable (db : Database) (name : String) : Bool := db.tables.contains (foldName name)

/-- The table of a name. -/
def table (db : Database) (name : String) : Except Fault Table :=
  match db.tables.get? (foldName name) with
  | some table => .ok table
  | none => .error (.noTable name)

/-- The database with a table put in place of the one of its name. -/
def setTable (db : Database) (table : Table) : Database :=
  { db with tables := db.tables.put (foldName table.name) table }

/-- Refuses where the database is closed to writing. -/
def checkWritable (db : Database) : Except Fault Unit :=
  if db.readOnly then .error .readOnly else .ok ()

/-- Refuses a number of values other than the one a statement takes. -/
def checkCount (given needed : Nat) : Except Fault Unit :=
  if given = needed then .ok ()
  else .error (.valueCount (if given < needed then given else needed + 1) needed)

/-- Refuses a table without one of the columns into which a statement inserts. -/
def checkInserted (table : Table) (name : String) (columns : List String) : Except Fault Unit :=
  match columns.find? fun column => !table.hasColumn column with
  | some column => .error (.noColumnIn name column)
  | none => .ok ()

/-! ### Look-ups -/

/-- The rows of one statement that looks records up. Their values are sent as one flat list, so
only the total of their number is checked. -/
def findChunk (db : Database) (spec : TableSpec) (records : List Record) :
    Except Fault (List (Int × Record)) := do
  let table ← db.table spec.name
  let flat := (records.flatten).map Cell.toValue
  checkCount flat.length (records.length * spec.columns.length)
  (table.agreeing spec (chunks spec.columns.length flat)).mapM (table.readRow spec)

/-- The ids of the records that have a row, by what the rows hold. -/
def find (db : Database) (spec : TableSpec) (records : List Record) : Except Fault RecordIds := do
  let rows ← (chunks chunkSize records).mapM (db.findChunk spec)
  return .ofList (rows.flatten.map fun row => (row.2, row.1))

/-- The rows of one statement that looks ids up. -/
def findIdChunk (db : Database) (spec : TableSpec) (ids : List Int) :
    Except Fault (List (Int × Record)) := do
  let table ← db.table spec.name
  (table.identified (table.operand spec.idColumn) ids).mapM (table.readRow spec)

/-- The records of the ids that have a row. -/
def findIds (db : Database) (spec : TableSpec) (ids : List Int) :
    Except Fault (SortedMap Int Record) := do
  let rows ← (chunks chunkSize ids).mapM (db.findIdChunk spec)
  return .ofList rows.flatten

/-! ### Inserting records -/

/-- Inserts one record into a table, unless it is there. -/
def insertOne (db : Database) (spec : TableSpec) (state : Table × Nat) (record : Record) :
    Except Fault (Table × Nat) := do
  checkCount record.length spec.columns.length
  db.checkWritable
  let (table, added) ← state.1.addIgnoring (state.1.arrange spec.columns (record.map Cell.toValue))
  return (table, if added then state.2 + 1 else state.2)

/-- Inserts the records that are not there and counts them. -/
def insertIgnoring (db : Database) (spec : TableSpec) (records : List Record) :
    Except Fault (Nat × Database) :=
  if records.isEmpty then .ok (0, db)
  else do
    let table ← db.table spec.name
    checkInserted table spec.name spec.columns
    let (table, added) ← records.foldlM (db.insertOne spec) (table, 0)
    return (added, db.setTable table)

/-! ### Single rows -/

/-- The number under which a row with a given id is put: the id itself where the id column is the
key, and the next number for null or where the ids are stored like other values. -/
def numberFor (table : Table) (spec : TableSpec) (id : Value) : Except Fault Int :=
  match if table.slot? spec.idColumn = some .number then Affinity.integer.adopt id else .null with
  | .integer number => .ok number
  | .null =>
    match table.nextNumber? with
    | some number => .ok number
    | none => .error .full
  | _ => .error .mismatch

/-- Adds a row with a given id, or with the next one for null. -/
def put (db : Database) (spec : TableSpec) (id : Value) (given : Values) :
    Except Fault Database := do
  let table ← db.table spec.name
  checkInserted table spec.name (spec.idColumn :: spec.columns)
  checkCount (given.length + 1) (spec.columns.length + 1)
  db.checkWritable
  let values := table.arrange (spec.idColumn :: spec.columns) (id :: given)
  let number ← numberFor table spec id
  match table.unfilled? values with
  | some column => .error (.missingValue table.name column.name)
  | none =>
    if table.rows.contains number then .error (.notUnique table.name [table.title .number])
    else
      table.check table.rows.entries (number, values)
      return db.setTable (table.add number values)

/-- Sets one column, or the number, of the rows of an id. -/
def set (db : Database) (spec : TableSpec) (id : Int) (column : String) (value : Value) :
    Except Fault Database := do
  let table ← db.table spec.name
  let target ← table.target column
  let idSlot ← table.column spec.idColumn
  db.checkWritable
  let rows := table.identified (table.stored idSlot) [id]
  let changed ← rows.foldlM (fun changed row => changed.setSlot target value row) table
  return db.setTable changed

/-- Has the database a table of counters? There is one where some table has a counter. -/
def hasCounters (db : Database) : Bool := db.tables.values.any fun table => table.counter.isSome

/-- The database with all counters at zero. -/
def resetCounters (db : Database) : Database :=
  db.tables.values.foldl (fun db table =>
    db.setTable { table with counter := table.counter.map fun _ => 0 }) db

/-- Removes all rows of a table. Its counter stays, unless the table is that of the counters. -/
def clear (db : Database) (name : String) : Except Fault Database := do
  if isSchemaName name then .error (.notModifiable schemaName)
  else if sameName name countersName && db.hasCounters then
    db.checkWritable
    return db.resetCounters
  else
    let table ← db.table name
    db.checkWritable
    return db.setTable { table with rows := .empty }

/-- Removes the rows of some ids, or all rows. Removing no ids asks nothing of the database. -/
def delete (db : Database) (spec : TableSpec) : (ids : Option (List Int)) → Except Fault Database
  | none => db.clear spec.name
  | some [] => .ok db
  | some ids => do
    let table ← db.table spec.name
    let idSlot ← table.column spec.idColumn
    db.checkWritable
    let operand := table.stored idSlot
    return db.setTable
      { table with
        rows := table.rows.filter fun row => !ids.any fun id => operand.holds row (.integer id) }

/-- The rows of a table with the values of a specification's columns, by id. -/
def rowsOf (db : Database) (spec : TableSpec) : Except Fault (List (Value × Values)) := do
  let table ← db.table spec.name
  let idSlot ← table.column spec.idColumn
  let slots ← spec.columns.mapM table.column
  let rows := table.rows.entries.map fun row => (idSlot.value row, slots.map (Slot.value row))
  return rows.mergeSort fun x y => !y.1.before x.1

/-- The number of rows of a table. -/
def countRows (db : Database) (name : String) : Except Fault Nat := do
  return (← db.table name).rows.entries.length

/-! ### Tables -/

/-- Does some table have an index of this name? -/
def hasIndex (db : Database) (name : String) : Bool :=
  db.tables.values.any fun table => table.indexes.any fun index => sameName index.name name

/-- Refuses a name that something else has. -/
def checkFresh (db : Database) (name : String) : Except Fault Unit :=
  if isReserved name then .error (.reservedName name)
  else if db.hasTable name then .error (.tableExists name)
  else if db.hasIndex name then .error (.takenByIndex name)
  else .ok ()

/-- Makes a table of columns without types. -/
def createTable (db : Database) (name : String) (columns : List String) :
    Except Fault Database := do
  db.checkFresh name
  match repeated? columns with
  | some column => .error (.repeatedColumn column)
  | none =>
    db.checkWritable
    return db.setTable
      { name := name, key := none, columns := columns.map fun column => ⟨column, .untyped, false⟩,
        counter := none, rows := .empty, indexes := [] }

/-- Removes a table. -/
def dropTable (db : Database) (name : String) : Except Fault Database := do
  if isSchemaName name then .error (.notDroppable schemaName)
  else if sameName name countersName && db.hasCounters then .error (.notDroppable countersName)
  else
    let _ ← db.table name
    db.checkWritable
    return { db with tables := db.tables.erase (foldName name) }

end Database

end TermStore.Storage
