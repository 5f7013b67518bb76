import TermStore.Storage.Database

/-!
# Migrations

The schema of a term store is built by numbered migrations. A ledger table holds the versions that
were applied; a migration is pending when its version is above the largest one there. Here are the
statements of the migrations, the ledger, and what can be asked about both; how migrations are
carried out is told where savepoints are.
-/

namespace TermStore.Storage

/-- Why the schema of a database could not be brought up to date or looked at. -/
inductive MigrationFault
  | ledgerNotMade
  | versionUnreadable
  /-- The largest version in the ledger is no unsigned number of 32 bits. -/
  | versionOutOfRange (fault : Decimal.Fault)
  /-- A statement of the migration failed. -/
  | statementFailed (version : Nat) (name : String)
  /-- The migration could not be entered in the ledger. -/
  | notEntered (version : Nat) (name : String)
  | rowsNotCounted (table : String)
  deriving DecidableEq, Repr

/-- A version in at least three digits. -/
def paddedVersion (version : Nat) : String :=
  let digits := Nat.toDigits 10 version
  String.ofList ('v' :: (List.replicate (3 - digits.length) '0' ++ digits))

/-- The wording of a fault. -/
def MigrationFault.message : MigrationFault → String
  | .ledgerNotMade => "failed to create schema_migrations table"
  | .versionUnreadable => "failed to read current migration version"
  | .versionOutOfRange _ => "migration version does not fit into u32"
  | .statementFailed version name | .notEntered version name =>
    "failed to apply migration " ++ paddedVersion version ++ "_" ++ name
  | .rowsNotCounted table => "failed to count rows in " ++ table

/-- What lies behind a fault, from the outer cause to the inner one. -/
def MigrationFault.causes : MigrationFault → List String
  | .versionOutOfRange fault => [fault.message]
  | .statementFailed version _ => ["SQL execution failed for " ++ paddedVersion version]
  | .notEntered _ _ => ["failed to record migration"]
  | _ => []

/-! ### The statements of migrations -/

/-- A statement that makes something where it is missing. -/
inductive Statement
  /-- Makes a table with a key and a counter. -/
  | makeTable (name key : String) (columns : List Column)
  | makeIndex (table : String) (index : Index)
  deriving DecidableEq, Repr

/-- A migration. -/
structure Migration where
  version : Nat
  name : String
  statements : List Statement
  deriving DecidableEq, Repr

namespace Migration

/-- A column that holds whole numbers and is never empty. -/
def intColumn (name : String) : Column := ⟨name, .integer, true⟩

/-- A column that holds texts and is never empty. -/
def textColumn (name : String) : Column := ⟨name, .text, true⟩

/-- The four tables of a term store, each unique in its records. -/
def termStore : Migration where
  version := 1
  name := "term_store"
  statements := [
    .makeTable "wbt_type" "wby_id" [textColumn "wby_name"],
    .makeIndex "wbt_type" ⟨"wbt_type_name", ["wby_name"], true⟩,
    .makeTable "wbt_text" "wbx_id" [textColumn "wbx_text"],
    .makeIndex "wbt_text" ⟨"wbt_text_text", ["wbx_text"], true⟩,
    .makeTable "wbt_text_in_lang" "wbxl_id" [textColumn "wbxl_language", intColumn "wbxl_text_id"],
    .makeIndex "wbt_text_in_lang"
      ⟨"wbt_text_in_lang_text_id_language", ["wbxl_text_id", "wbxl_language"], true⟩,
    .makeTable "wbt_term_in_lang" "wbtl_id"
      [intColumn "wbtl_type_id", intColumn "wbtl_text_in_lang_id"],
    .makeIndex "wbt_term_in_lang"
      ⟨"wbt_term_in_lang_text_in_lang_id_type_id", ["wbtl_text_in_lang_id", "wbtl_type_id"], true⟩]

/-- Indexes for looking terms up by language and by kind. -/
def termIndexes : Migration where
  version := 2
  name := "term_indexes"
  statements := [
    .makeIndex "wbt_text_in_lang" ⟨"wbt_text_in_lang_language", ["wbxl_language"], false⟩,
    .makeIndex "wbt_term_in_lang" ⟨"wbt_term_in_lang_type_id", ["wbtl_type_id"], false⟩]

/-- All migrations, in the order of their versions. -/
def all : List Migration := [termStore, termIndexes]

end Migration

/-- The name of the ledger table. -/
def ledgerName : String := "schema_migrations"

/-- The ledger as a table of versions. -/
def ledgerSpec : TableSpec := ⟨ledgerName, "version", ["name", "applied_at_unix"]⟩

namespace Database

/-- Do two of some rows agree in all of some slots? -/
def someAgreeIn (slots : List Slot) : List Row → Bool
  | [] => false
  | row :: rest => rest.any (Table.agreeIn slots row) || someAgreeIn slots rest

/-- Makes a table with a key, where there is none of its name. -/
def ensureTable (db : Database) (name key : String) (columns : List Column)
    (counter : Option Int) : Except Fault Database :=
  if db.hasTable name then .ok db
  else do
    db.checkFresh name
    db.checkWritable
    return db.setTable
      { name := name, key := some key, columns := columns, counter := counter, rows := .empty,
        indexes := [] }

/-- Makes an index, where there is none of its name. -/
def ensureIndex (db : Database) (name : String) (index : Index) : Except Fault Database := do
  let table ← db.table name
  if db.hasTable index.name then .error (.takenByTable index.name)
  else if db.hasIndex index.name then return db
  else
    index.columns.forM fun column => do
      let _ ← table.column column
    db.checkWritable
    if index.unique && someAgreeIn (table.indexSlots index) table.rows.entries then
      .error (table.broken index)
    else return db.setTable { table with indexes := table.indexes ++ [index] }

/-- Carries a statement out. -/
def execute (db : Database) : Statement → Except Fault Database
  | .makeTable name key columns => db.ensureTable name key columns (some 0)
  | .makeIndex table index => db.ensureIndex table index

/-! ### The ledger -/

/-- Makes the ledger, where there is none. -/
def ensureLedger (db : Database) : Except MigrationFault Database :=
  match db.ensureTable ledgerName "version"
      [Migration.textColumn "name", Migration.intColumn "applied_at_unix"] none with
  | .ok db => .ok db
  | .error _ => .error .ledgerNotMade

/-- The largest of some versions in the order of values, and of equal ones the first; nulls are
none. Only a whole number will do. -/
def largestVersion (versions : List Value) : Except MigrationFault Int :=
  if versions.all fun version => version == .null then .ok 0
  else
    match versions.find? fun version => versions.all fun other => !version.before other with
    | some (.integer version) => .ok version
    | _ => .error .versionUnreadable

/-- The largest version that was applied, zero where there is none. -/
def currentVersion (db : Database) : Except MigrationFault Nat := do
  match db.table ledgerName with
  | .error _ => .error .versionUnreadable
  | .ok ledger =>
    match ledger.slot? "version" with
    | none => .error .versionUnreadable
    | some slot =>
      let version ← largestVersion (ledger.rows.entries.map fun row => slot.value row)
      if version < 0 then .error (.versionOutOfRange .tooSmall)
      else if 4294967295 < version then .error (.versionOutOfRange .tooLarge)
      else return version.toNat

/-- Enters a version in the ledger. The time of the entry is kept as zero: nothing reads it. -/
def enterVersion (db : Database) (version : Int) (name : Value) : Except Fault Database :=
  db.put ledgerSpec (.integer version) [name, .integer 0]

end Database

/-! ### Runs of migrations -/

/-- What a run of migrations did: the versions and names applied, and the version reached. -/
structure MigrationReport where
  applied : List (Nat × String)
  version : Nat
  deriving DecidableEq, Repr

/-- What a run of migrations leaves: the database, the migrations applied so far, and how the run
ended. -/
structure MigrationRun where
  database : Database
  applied : List (Nat × String)
  outcome : Except MigrationFault MigrationReport

namespace Database

/-- The number of migrations that are still to be applied; looking makes the ledger. -/
def pendingCount (db : Database) : Except MigrationFault Nat × Database :=
  match db.ensureLedger with
  | .error fault => (.error fault, db)
  | .ok db =>
    (db.currentVersion.map fun current =>
      (Migration.all.filter fun migration => current < migration.version).length, db)

/-- The number of rows of each table of a term store. -/
def rowCounts (db : Database) : Except MigrationFault (List (String × Nat)) :=
  TableSpec.all.mapM fun spec =>
    match db.countRows spec.name with
    | .ok count => .ok (spec.name, count)
    | .error _ => .error (.rowsNotCounted spec.name)

end Database

end TermStore.Storage
