import TermStore.Json.Reader
import TermStore.Storage.Database

/-!
# Databases in files

A database is kept in a file as a line that marks it and a JSON text: a list of tables, each a
list of its name, key, counter, columns, indexes and rows. Bytes are lists of numbers. A number that
is not whole is an object of its sign with, unless it is infinite, its mantissa and exponent.
-/

namespace TermStore.Files.Image

open Decimal (Double)
open Storage (Affinity Column Database Index Table)

/-- The line that marks a database. -/
def mark : String := "wbterms database\n"

/-! ### Writing -/

/-- The JSON value of a number. -/
def ofInt (value : Int) : Json.Value := .number (.whole value)

/-- The JSON value of a stored value. -/
def ofValue : Storage.Value → Json.Value
  | .null => .null
  | .integer value => ofInt value
  | .real (.finite negative magnitude) => .object [
      ("negative", .boolean negative),
      ("mantissa", ofInt magnitude.mantissa), ("exponent", ofInt magnitude.exponent)]
  | .real (.infinite negative) => .object [("negative", .boolean negative)]
  | .text value => .text value
  | .blob bytes => .list (bytes.map fun byte => ofInt byte.toNat)

/-- The JSON value of some names. -/
def ofNames (names : List String) : Json.Value := .list (names.map .text)

/-- The name of what a column's type does. -/
def affinityName : Affinity → String
  | .integer => "integer"
  | .text => "text"
  | .untyped => "untyped"

/-- The JSON value of something that may be missing. -/
def ofOption {α : Type} (encode : α → Json.Value) : Option α → Json.Value
  | none => .null
  | some item => encode item

/-- The JSON value of a table. -/
def ofTable (table : Table) : Json.Value :=
  .list [
    .text table.name,
    ofOption .text table.key,
    ofOption ofInt table.counter,
    .list (table.columns.map fun column =>
      .list [.text column.name, .text (affinityName column.affinity), .boolean column.required]),
    .list (table.indexes.map fun index =>
      .list [.text index.name, ofNames index.columns, .boolean index.unique]),
    .list (table.rows.entries.map fun row => .list (ofInt row.1 :: row.2.map ofValue))]

/-- The text that keeps a database. -/
def encode (database : Database) : String :=
  mark ++ (Json.Value.list (database.tables.values.map ofTable)).pretty ++ "\n"

/-! ### Reading -/

/-- Reads a number. -/
def toInt? : Json.Value → Option Int
  | .number (.whole value) => some value
  | _ => none

/-- Reads a stored value. -/
def toValue? : Json.Value → Option Storage.Value
  | .null => some .null
  | .text value => some (.text value)
  | .list bytes => (bytes.mapM toInt?).map fun bytes =>
    .blob (bytes.map fun byte => UInt8.ofNat byte.toNat)
  | .object [(_, .boolean negative)] => some (.real (.infinite negative))
  | .object [(_, .boolean negative), (_, mantissa), (_, exponent)] => do
    return .real (.finite negative ⟨(← toInt? mantissa).toNat, ← toInt? exponent⟩)
  | value => (toInt? value).map .integer

/-- What a column's type of some name does. -/
def toAffinity? (name : String) : Option Affinity :=
  [Affinity.integer, .text, .untyped].find? fun affinity => affinityName affinity == name

/-- Reads a column. -/
def toColumn? : Json.Value → Option Column
  | .list [.text name, .text affinity, .boolean required] =>
    (toAffinity? affinity).map fun affinity => ⟨name, affinity, required⟩
  | _ => none

/-- Reads an index. -/
def toIndex? : Json.Value → Option Index
  | .list [.text name, .list columns, .boolean unique] =>
    (columns.mapM Json.Value.text?).map fun columns => ⟨name, columns, unique⟩
  | _ => none

/-- Reads a row. -/
def toRow? : Json.Value → Option (Int × Storage.Values)
  | .list (id :: values) => do return (← toInt? id, ← values.mapM toValue?)
  | _ => none

/-- Reads a table. -/
def toTable? : Json.Value → Option Table
  | .list [.text name, key, counter, .list columns, .list indexes, .list rows] => do
    return {
      name := name,
      key := key.text?,
      counter := toInt? counter,
      columns := ← columns.mapM toColumn?,
      indexes := ← indexes.mapM toIndex?,
      rows := .ofList (← rows.mapM toRow?) }
  | _ => none

/-- The database that a text keeps. -/
def decode? (text : String) : Option Database := do
  let chars := text.toList
  if chars.take mark.length ≠ mark.toList then none
  else
    match (Json.readWhole (Json.readValue Json.nestingRoom) (chars.drop mark.length)).toOption with
    | some (.list tables) => return (← tables.mapM toTable?).foldl Database.setTable .empty
    | _ => none

end TermStore.Files.Image
