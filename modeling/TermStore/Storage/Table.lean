import TermStore.Storage.Name
import TermStore.Storage.Record

/-!
# Tables

A table has columns, indexes and numbered rows. Where a column is declared as key it shows the
number of its row; all other columns have a value in each row. A `Slot` says where a row has a
value, so a statement looks the names of its columns up once and then reads by slot.

A table may keep a counter of the largest number that it ever gave, so that a number is not given
again after its row is gone. A unique index refuses two rows that agree in all its columns, unless
one of the values is null.
-/

namespace TermStore.Storage

/-- A column other than the key. -/
structure Column where
  name : String
  affinity : Affinity
  required : Bool
  deriving DecidableEq, Repr

/-- An index over some columns. -/
structure Index where
  name : String
  columns : List String
  unique : Bool
  deriving DecidableEq, Repr

/-- The values of a row in the order of the columns. -/
abbrev Values := List Value

/-- A row with its number. -/
abbrev Row := Int × Values

/-- Where a row has a value: its number, or what it has in a column. -/
inductive Slot
  | number
  | column (index : Nat)
  deriving DecidableEq, Repr

/-- The value of a row in a slot. -/
def Slot.value (row : Row) : Slot → Value
  | .number => .integer row.1
  | .column index => (row.2[index]?).getD .null

/-- A table. -/
structure Table where
  name : String
  /-- The column that shows the number of the row. -/
  key : Option String
  columns : List Column
  /-- The largest number that was ever given, in a table that remembers it. -/
  counter : Option Int
  rows : SortedMap Int Values
  indexes : List Index

/-- What a quoted name stands for in a statement: a slot, with the name that the table declares for
it, or itself as a text where there is no such column. -/
inductive Operand
  | stored (slot : Slot) (title : String) (affinity : Affinity)
  | itself (text : String)
  deriving DecidableEq, Repr

namespace Operand

/-- The value of an operand in a row. -/
def value (row : Row) : Operand → Value
  | .stored slot _ _ => slot.value row
  | .itself text => .text text

/-- What the operand does to values that are compared with it. -/
def affinity : Operand → Affinity
  | .stored _ _ affinity => affinity
  | .itself _ => .untyped

/-- What messages call the operand. -/
def title : Operand → String
  | .stored _ title _ => title
  | .itself text => "\"" ++ text ++ "\""

/-- Has a row this value in the operand, as the operand reads it? -/
def holds (row : Row) (operand : Operand) (value : Value) : Bool :=
  (operand.value row).agrees (operand.affinity.adopt value)

end Operand

namespace Table

/-! ### Columns -/

/-- The slot of a column. -/
def slot? (t : Table) (name : String) : Option Slot :=
  if t.key.any (sameName name) then some .number
  else (t.columns.findIdx? fun c => sameName name c.name).map .column

/-- Is there a column of this name? -/
def hasColumn (t : Table) (name : String) : Bool := (t.slot? name).isSome

/-- The name that the table declares for a slot. -/
def title (t : Table) : Slot → String
  | .number => t.key.getD "rowid"
  | .column index => ((t.columns[index]?).map Column.name).getD ""

/-- What the column of a slot does to values. -/
def affinity (t : Table) : Slot → Affinity
  | .number => .integer
  | .column index => ((t.columns[index]?).map Column.affinity).getD .untyped

/-- The slot of a column that a statement needs. -/
def column (t : Table) (name : String) : Except Fault Slot :=
  match t.slot? name with
  | some slot => .ok slot
  | none => .error (.noColumn name)

/-- The names that the number of a row has where no column has them. -/
def numberNames : List String := ["rowid", "oid", "_rowid_"]

/-- The slot that a statement sets. -/
def target (t : Table) (name : String) : Except Fault Slot :=
  match t.slot? name with
  | some slot => .ok slot
  | none => if numberNames.any (sameName name) then .ok .number else .error (.noColumn name)

/-- A slot as an operand. -/
def stored (t : Table) (slot : Slot) : Operand := .stored slot (t.title slot) (t.affinity slot)

/-- What a quoted name stands for. -/
def operand (t : Table) (name : String) : Operand :=
  match t.slot? name with
  | some slot => t.stored slot
  | none => .itself name

/-- The values that the columns keep for a row of which the named columns are given. -/
def arrange (t : Table) (names : List String) (given : Values) : Values :=
  t.columns.map fun c =>
    c.affinity.adopt
      ((((names.zip given).find? fun pair => sameName pair.1 c.name).map Prod.snd).getD .null)

/-! ### Row numbers -/

/-- The largest number of a row. -/
def largest? (t : Table) : Option Int := t.rows.keys.getLast?

/-- A positive number that no row has. -/
def freeNumber? (t : Table) : Option Int :=
  ((List.range (t.rows.entries.length + 1)).map fun n => Int.ofNat (n + 1)).find? fun number =>
    !t.rows.contains number

/-- The number that a row without one gets. It follows the largest one; when that is the largest
there is, a table with a counter has none left, and any other takes one that is free. -/
def nextNumber? (t : Table) : Option Int :=
  match t.counter, t.largest? with
  | some counter, largest =>
    let top := max counter (largest.getD 0)
    if top < Decimal.maxInt64 then some (top + 1) else none
  | none, none => some 1
  | none, some largest =>
    if largest < Decimal.maxInt64 then some (largest + 1) else t.freeNumber?

/-- The table after a number was given. -/
def counted (t : Table) (number : Int) : Table :=
  { t with counter := t.counter.map fun counter => max counter number }

/-- The table with a row added under a number. -/
def add (t : Table) (number : Int) (values : Values) : Table :=
  { t.counted number with rows := t.rows.put number values }

/-! ### What rows have to satisfy -/

/-- The slots of the columns of an index. -/
def indexSlots (t : Table) (index : Index) : List Slot := index.columns.filterMap t.slot?

/-- Do two rows agree in all of some slots? -/
def agreeIn (slots : List Slot) (x y : Row) : Bool :=
  slots.all fun slot => (slot.value x).agrees (slot.value y)

/-- A unique index that a row would break beside some rows. -/
def conflict? (t : Table) (rows : List Row) (row : Row) : Option Index :=
  t.indexes.find? fun index =>
    index.unique && rows.any (agreeIn (t.indexSlots index) row)

/-- The fault of breaking a unique index. -/
def broken (t : Table) (index : Index) : Fault :=
  .notUnique t.name ((t.indexSlots index).map t.title)

/-- A required column that has no value. -/
def unfilled? (t : Table) (values : Values) : Option Column :=
  ((t.columns.zip values).find? fun c => c.1.required && c.2 == .null).map Prod.fst

/-- Refuses a row that lacks a value or breaks a unique index beside some rows. -/
def check (t : Table) (rows : List Row) (row : Row) : Except Fault Unit :=
  match t.unfilled? row.2 with
  | some column => .error (.missingValue t.name column.name)
  | none =>
    match t.conflict? rows row with
    | some index => .error (t.broken index)
    | none => .ok ()

/-! ### Changing rows -/

/-- Adds a row without a number, unless it lacks a value or breaks a unique index; also says whether
it did. A row that is left out uses its number up all the same. -/
def addIgnoring (t : Table) (values : Values) : Except Fault (Table × Bool) :=
  match t.nextNumber? with
  | none => .error .full
  | some number =>
    match t.check t.rows.entries (number, values) with
    | .error _ => .ok (t.counted number, false)
    | .ok _ => .ok (t.add number values, true)

/-- Moves a row to another number, which must be free. The counter does not follow. -/
def renumber (t : Table) (row : Row) (value : Value) : Except Fault Table :=
  match Affinity.integer.adopt value with
  | .integer number =>
    if number ≠ row.1 && t.rows.contains number then
      .error (.notUnique t.name [t.title .number])
    else .ok { t with rows := (t.rows.erase row.1).put number row.2 }
  | _ => .error .mismatch

/-- Sets one slot of a row. -/
def setSlot (t : Table) (slot : Slot) (value : Value) (row : Row) : Except Fault Table :=
  match slot with
  | .number => t.renumber row value
  | .column index => do
    let values := row.2.set index ((t.affinity slot).adopt value)
    t.check (t.rows.entries.filter fun other => other.1 ≠ row.1) (row.1, values)
    return { t with rows := t.rows.put row.1 values }

/-! ### Finding and reading rows -/

/-- The rows that have one of some ids in an operand. -/
def identified (t : Table) (operand : Operand) (ids : List Int) : List Row :=
  t.rows.entries.filter fun row => ids.any fun id => operand.holds row (.integer id)

/-- Reads a whole number where only one will do. -/
def readInt (index : Nat) (title : String) : Value → Except Fault Int
  | .integer value => .ok value
  | value => .error (.wrongKind value.kind index title)

/-- Reads the id and the record of a row. -/
def readRow (t : Table) (spec : TableSpec) (row : Row) : Except Fault (Int × Record) := do
  let operand := t.operand spec.idColumn
  let id ← readInt 0 operand.title (operand.value row)
  let record ← (spec.columns.zipIdx 1).mapM fun column =>
    let operand := t.operand column.1
    Cell.ofValue column.2 operand.title (operand.value row)
  return (id, record)

/-- The rows that have one of some lists of values in the columns of a specification. -/
def agreeing (t : Table) (spec : TableSpec) (wanted : List Values) : List Row :=
  let operands := spec.columns.map t.operand
  t.rows.entries.filter fun row =>
    wanted.any fun values => (operands.zip values).all fun pair => pair.1.holds row pair.2

end Table

end TermStore.Storage
