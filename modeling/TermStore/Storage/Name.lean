/-!
# Names of tables and columns

Two names that differ only in the case of ASCII letters are one name. A table is kept under the
folded form of its name and shows the name that it was made with.
-/

namespace TermStore.Storage

/-- The form of a name in which it is compared: its ASCII capitals become small letters. -/
def foldName (name : String) : String := String.ofList (name.toList.map Char.toLower)

/-- Do two texts name the same thing? -/
def sameName (a b : String) : Bool := a.toList.map Char.toLower == b.toList.map Char.toLower

/-- How the names start that a database keeps for itself. -/
def reservedStart : String := "sqlite_"

/-- Is the name one that a database keeps for itself? -/
def isReserved (name : String) : Bool :=
  sameName (String.ofList (name.toList.take reservedStart.length)) reservedStart

/-- The name of the table that holds the schema of a database. -/
def schemaName : String := "sqlite_master"

/-- Is the name one of the table that holds the schema? -/
def isSchemaName (name : String) : Bool :=
  [schemaName, "sqlite_schema"].any (sameName name)

/-- The name of the table that holds the counters of a database. -/
def countersName : String := "sqlite_sequence"

/-- The first of some names that came before. -/
def repeated? : List String → Option String :=
  go []
where
  go (seen : List String) : List String → Option String
    | [] => none
    | name :: rest => if seen.any (sameName name) then some name else go (name :: seen) rest

end TermStore.Storage
