/-!
# TOML values and the tables they stand in

A document is built line by line, and a table may be opened only once: by a header, by the dotted
keys of one table, or by standing between brackets. An `Item` remembers how a table came to be,
so that each way of opening it again is told apart.
-/

namespace TermStore.Toml

/-- A value. Of floating numbers and of dates and times only their being there is kept. -/
inductive Value
  | text (value : String)
  | integer (value : Int)
  | floating
  | boolean (value : Bool)
  | moment
  | list (items : List Value)
  | table (entries : List (String × Value))

/-- What stands under a key while a document is built. -/
inductive Item
  | value (value : Value)
  /-- A table; `implied` if no header opened it, `dotted` if dotted keys did. -/
  | table (implied dotted : Bool) (entries : List (String × Item))
  /-- Tables opened by double headers; the last one is open. -/
  | tables (each : List (List (String × Item)))

/-- The entries of a table that is built. -/
abbrev Entries := List (String × Item)

namespace Entries

/-- The item under a key. -/
def get? (entries : Entries) (key : String) : Option Item := List.lookup key entries

/-- The entries with an item put under a key. -/
def put (entries : Entries) (key : String) (item : Item) : Entries :=
  match entries with
  | [] => [(key, item)]
  | (k, i) :: rest => if k = key then (key, item) :: rest else (k, i) :: put rest key item

end Entries

/-- Changes the table that a path leads to, making the tables on the way that are missing. The
change is told whether dotted keys opened the table. Values are no tables, and dotted keys do not
lead into a table that a header opened. -/
def descend (dotted : Bool) (change : Bool → Entries → Option Entries) :
    (here : Bool) → List String → Entries → Option Entries
  | here, [], entries => change here entries
  | _, key :: path, entries =>
    match entries.get? key with
    | none => (descend dotted change dotted path []).map fun inner =>
      entries.put key (.table true dotted inner)
    | some (.value _) => none
    | some (.table implied isDotted inner) =>
      if dotted && !implied then none
      else (descend dotted change isDotted path inner).map fun inner =>
        entries.put key (.table implied isDotted inner)
    | some (.tables each) =>
      match each.getLast? with
      | none => none
      | some inner => (descend dotted change false path inner).map fun inner =>
        entries.put key (.tables (each.dropLast ++ [inner]))

/-- Puts a value under a new key of a table, reached by dotted keys or directly. -/
def putValue (path : List String) (key : String) (value : Value) (entries : Entries) :
    Option Entries :=
  descend true (fun dotted entries =>
    if dotted == path.isEmpty then none
    else
      match entries.get? key with
      | none => some (entries.put key (.value value))
      | some _ => none) false path entries

/-- Opens the table of a header. -/
def openTable (path : List String) (key : String) (entries : Entries) : Option Entries :=
  descend false (fun _ entries =>
    match entries.get? key with
    | none => some (entries.put key (.table false false []))
    | some (.table true false inner) => some (entries.put key (.table false false inner))
    | some _ => none) false path entries

/-- Opens one more table of a double header. -/
def openOneMore (path : List String) (key : String) (entries : Entries) : Option Entries :=
  descend false (fun _ entries =>
    match entries.get? key with
    | none => some (entries.put key (.tables [[]]))
    | some (.tables each) => some (entries.put key (.tables (each ++ [[]])))
    | some _ => none) false path entries

mutual

/-- The value that an item has become. -/
def Item.toValue : Item → Value
  | .value value => value
  | .table _ _ entries => .table (entriesToValues entries)
  | .tables each => .list (tablesToValues each)

/-- The values of the entries of a table. -/
def entriesToValues : List (String × Item) → List (String × Value)
  | [] => []
  | (key, item) :: rest => (key, item.toValue) :: entriesToValues rest

/-- The values of some tables. -/
def tablesToValues : List (List (String × Item)) → List Value
  | [] => []
  | entries :: rest => .table (entriesToValues entries) :: tablesToValues rest

end

end TermStore.Toml
