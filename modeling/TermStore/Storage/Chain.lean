import TermStore.Storage.Database

/-!
# Chains

A term is stored in three rows: a row of a term in a language names a row of a text in a language,
and that names the row of a text. A `Chain` is what the three rows tell together.

Chains are read by joining the three tables. A name in the join belongs to the one table that has
a column of it, whichever of the three that is; a condition on rows is tested as soon as the rows
that it speaks of are chosen.
-/

namespace TermStore.Storage

/-- What of the three tables that are joined holds a value: a table, by its place, and a slot. -/
structure JoinedSlot where
  place : Nat
  slot : Slot
  deriving DecidableEq, Repr

/-- Tables that are joined row by row, the later ones inside the earlier ones. -/
abbrev Joined := List Table

namespace Joined

/-- The places of a name among the tables. -/
def slots (tables : Joined) (name : String) : List JoinedSlot :=
  (tables.zipIdx).filterMap fun table => (table.1.slot? name).map fun slot => ⟨table.2, slot⟩

/-- The one place of a name among the tables. -/
def slot (tables : Joined) (name : String) : Except Fault JoinedSlot :=
  match tables.slots name with
  | [slot] => .ok slot
  | [] => .error (.noColumn name)
  | _ => .error (.ambiguousColumn name)

/-- The operand of a place among the tables. -/
def operand (tables : Joined) (slot : JoinedSlot) : Operand :=
  match tables[slot.place]? with
  | some table => table.stored slot.slot
  | none => .itself ""

end Joined

/-- The value of a place in the rows chosen so far, one a table. -/
def JoinedSlot.value (slot : JoinedSlot) (rows : List Row) : Value :=
  ((rows[slot.place]?).map fun row => slot.slot.value row).getD .null

/-- A condition on the rows of a join. -/
structure JoinCondition where
  /-- The number of tables whose rows have to be chosen before it can be tested. -/
  reach : Nat
  holds : List Row → Bool

namespace JoinCondition

/-- Two places are equal. -/
def equal (tables : Joined) (left right : JoinedSlot) : JoinCondition where
  reach := max left.place right.place + 1
  holds rows :=
    joins (tables.operand left).affinity (left.value rows)
      (tables.operand right).affinity (right.value rows)

/-- A place has one of some ids. -/
def among (tables : Joined) (slot : JoinedSlot) (ids : List Int) : JoinCondition where
  reach := slot.place + 1
  holds rows :=
    ids.any fun id =>
      (slot.value rows).agrees ((tables.operand slot).affinity.adopt (.integer id))

end JoinCondition

/-- The choices of rows, one a table, that go on from those chosen so far and satisfy the
conditions. -/
def chooseRows (conditions : List JoinCondition) : (chosen : List Row) → Joined → List (List Row)
  | chosen, [] => [chosen]
  | chosen, table :: rest =>
    table.rows.entries.flatMap fun row =>
      let chosen := chosen ++ [row]
      if conditions.all fun condition =>
          condition.reach ≠ chosen.length || condition.holds chosen then
        chooseRows conditions chosen rest
      else []

/-- Reads a text where only a text will do. -/
def readText (index : Nat) (title : String) : Value → Except Fault String
  | .text value => .ok value
  | value => .error (.wrongKind value.kind index title)

namespace Database

/-- A term as its three rows tell it: from the row of a term in a language over the row of a text
in a language to the row of a text. -/
structure Chain where
  kindId : Int
  language : String
  text : String
  deriving DecidableEq, Repr

/-- The columns that are read of a chain. -/
def chainColumns : List String := ["wbtl_id", "wbtl_type_id", "wbxl_language", "wbx_text"]

/-- The place of one of the columns that are read. -/
def selected (tables : Joined) (name : String) : Except Fault JoinedSlot :=
  match tables.slot name with
  | .ok slot => .ok slot
  | .error fault => .error (.inSelection chainColumns fault)

/-- The chains of one statement that looks ids up. -/
def chainChunk (db : Database) (ids : List Int) : Except Fault (List (Int × Chain)) := do
  let tables : Joined ← ["wbt_term_in_lang", "wbt_text_in_lang", "wbt_text"].mapM db.table
  let id ← selected tables "wbtl_id"
  let kind ← selected tables "wbtl_type_id"
  let language ← selected tables "wbxl_language"
  let text ← selected tables "wbx_text"
  let termToText ← tables.slot "wbtl_text_in_lang_id"
  let inLanguageId ← tables.slot "wbxl_id"
  let inLanguageToText ← tables.slot "wbxl_text_id"
  let textId ← tables.slot "wbx_id"
  let rows := chooseRows
    [.among tables id ids, .equal tables termToText inLanguageId,
     .equal tables inLanguageToText textId] [] tables
  let title := fun slot => (tables.operand slot).title
  rows.mapM fun rows => do
    let found ← Table.readInt 0 (title id) (id.value rows)
    let kindId ← Table.readInt 1 (title kind) (kind.value rows)
    let language ← readText 2 (title language) (language.value rows)
    let text ← readText 3 (title text) (text.value rows)
    return (found, ⟨kindId, language, text⟩)

/-- The terms of the ids whose chain is complete. -/
def chains (db : Database) (ids : List Int) : Except Fault (SortedMap Int Chain) := do
  let found ← (chunks chunkSize ids).mapM db.chainChunk
  return .ofList found.flatten

end Database

end TermStore.Storage
