import TermStore.Storage.Value

/-!
# What a database refuses

The ways in which a call on a database fails. A failed call leaves the database as it was.

A fault has two wordings: its message, and a report for people, which also shows the selection
that a name was looked up for.
-/

namespace TermStore.Storage

/-- Why a call on a database failed. -/
inductive Fault
  | noTable (table : String)
  | noColumn (column : String)
  | noColumnIn (table column : String)
  /-- More than one of the tables that are joined have a column of this name. -/
  | ambiguousColumn (column : String)
  /-- A name in a list of selected columns stands for no single column. -/
  | inSelection (columns : List String) (cause : Fault)
  /-- A statement that takes `needed` values was given `given`; more are counted as one more. -/
  | valueCount (given needed : Nat)
  /-- A value that should be read as text holds bytes that are none. -/
  | notText (index : Nat) (fault : Text.Utf8.Fault)
  /-- A value is of another kind than the reader wants. -/
  | wrongKind (kind : ValueKind) (index : Nat) (column : String)
  | notUnique (table : String) (columns : List String)
  | missingValue (table column : String)
  | mismatch
  | readOnly
  | full
  | noRows
  | nestedTransaction
  | nothingToCommit
  | nothingToRollBack
  | tableExists (table : String)
  | notDroppable (table : String)
  | notModifiable (table : String)
  | reservedName (name : String)
  /-- A table cannot be made because an index has its name. -/
  | takenByIndex (name : String)
  /-- An index cannot be made because a table has its name. -/
  | takenByTable (name : String)
  | repeatedColumn (column : String)
  deriving DecidableEq, Repr

namespace Fault

/-- The wording of a fault. -/
def message : Fault → String
  | .noTable table => "no such table: " ++ table
  | .noColumn column => "no such column: " ++ column
  | .noColumnIn table column => "table " ++ table ++ " has no column named " ++ column
  | .ambiguousColumn column => "ambiguous column name: " ++ column
  | .inSelection _ cause => cause.message
  | .valueCount given needed =>
    "Wrong number of parameters passed to query. Got " ++ toString given ++ ", needed "
      ++ toString needed
  | .notText index fault =>
    "Conversion error from type Blob at index: " ++ toString index ++ ", " ++ fault.message
  | .wrongKind kind index column =>
    "Invalid column type " ++ kind.name ++ " at index: " ++ toString index ++ ", name: " ++ column
  | .notUnique table columns =>
    "UNIQUE constraint failed: "
      ++ ", ".intercalate (columns.map fun column => table ++ "." ++ column)
  | .missingValue table column => "NOT NULL constraint failed: " ++ table ++ "." ++ column
  | .mismatch => "datatype mismatch"
  | .readOnly => "attempt to write a readonly database"
  | .full => "database or disk is full"
  | .noRows => "Query returned no rows"
  | .nestedTransaction => "cannot start a transaction within a transaction"
  | .nothingToCommit => "cannot commit - no transaction is active"
  | .nothingToRollBack => "cannot rollback - no transaction is active"
  | .tableExists table => "table " ++ table ++ " already exists"
  | .notDroppable table => "table " ++ table ++ " may not be dropped"
  | .notModifiable table => "table " ++ table ++ " may not be modified"
  | .reservedName name => "object name reserved for internal use: " ++ name
  | .takenByIndex name => "there is already an index named " ++ name
  | .takenByTable name => "there is already a table named " ++ name
  | .repeatedColumn column => "duplicate column name: " ++ column

/-- The wording of a fault for people. -/
def report : Fault → String
  | .inSelection columns cause => cause.report ++ " in SELECT " ++ ", ".intercalate columns
  | fault => fault.message

end Fault

end TermStore.Storage
