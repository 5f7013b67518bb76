import TermStore.Files.Tree

/-!
# Files of databases

A path of a database is followed in a way of its own: the dots are taken out of its text, and only
what is left over is looked up, so a directory that a pair of dots leaves need not be there.

Beside its file a database has a journal, a log and an index of the log while it is open. Opening
and closing it removes the files of these names that were left over; a directory of such a name
stands in its way.
-/

namespace TermStore.Files

open Storage (Database)

/-- Why a file was not opened as a database. -/
inductive OpenFault
  | notOpened
  /-- The time to wait for others is more than can be set. -/
  | timeoutTooLong
  /-- The file holds something else, or there is no room for a journal or a log beside it. -/
  | notDatabase
  deriving DecidableEq, Repr

namespace Tree

/-- The longest time in milliseconds that can be set to wait for others. -/
def maxTimeout : Nat := 2147483647

/-! ### Following the path of a database -/

/-- The number of bytes that each place has to keep to which the path of a database leads. -/
def maxWayBytes : Nat := 511

/-- The number of bytes that the place of a database can have, so that there is room for the name of
its journal. -/
def maxPlaceBytes : Nat := 504

/-- The number of bytes of the text of a place. -/
def placeBytes (place : Place) : Nat :=
  place.foldl (fun bytes name => bytes + 1 + name.utf8ByteSize) 0

/-- Can a name be looked up at a place? Where the place is missing, any name is just missing too. -/
def canLookUp (tree : Tree) (here : Place) (name : String) : Bool :=
  match tree.node? here with
  | some .directory => isName name
  | some _ => false
  | none => true

/-- Takes the dots out of a path's pieces. A piece that cannot be looked up stops this, and so does
a place that becomes too long. -/
def plainPlace (tree : Tree) : (here : Place) → List String → Option Place
  | here, [] => some here
  | here, piece :: rest =>
    if piece = "" || piece = "." then plainPlace tree here rest
    else if piece = ".." then plainPlace tree here.dropLast rest
    else if tree.canLookUp here piece && placeBytes (here ++ [piece]) ≤ maxWayBytes then
      plainPlace tree (here ++ [piece]) rest
    else none

/-- The place of the file that a database of this path has or would have. -/
def databasePlace? (tree : Tree) (path : Path) : Option Place :=
  match if path.pieces.all holdsNoNul then tree.plainPlace [] path.pieces else none with
  | none => none
  | some place =>
    match tree.node? place.dropLast, tree.node? place with
    | _, some .directory => none
    | some .directory, _ => if placeBytes place ≤ maxPlaceBytes then some place else none
    | _, _ => none

/-! ### What stands beside a database -/

/-- The place beside a database whose name has an ending more. -/
def beside (place : Place) (ending : String) : Place :=
  place.dropLast ++ [place.getLast?.getD "" ++ ending]

/-- The place of the journal of a database. -/
def journalPlace (place : Place) : Place := beside place "-journal"

/-- The place of the log of a database. -/
def logPlace (place : Place) : Place := beside place "-wal"

/-- The place of the index of the log of a database. -/
def logIndexPlace (place : Place) : Place := beside place "-shm"

/-- The places of all that stands beside a database. -/
def companions (place : Place) : List Place :=
  [journalPlace place, logPlace place, logIndexPlace place]

/-- Is there a directory at a place? -/
def hasDirectory (tree : Tree) (place : Place) : Bool :=
  match tree.node? place with
  | some .directory => true
  | _ => false

/-- Is there room for a journal and a log beside a database? -/
def hasLogRoom (tree : Tree) (place : Place) : Bool :=
  ((journalPlace place).getLast?.all isName)
    && !tree.hasDirectory (journalPlace place) && !tree.hasDirectory (logPlace place)

/-! ### Opening -/

/-- What a file is to one who opens it as a database. -/
inductive Standing
  /-- It has no more than one byte, and becomes a database without tables. -/
  | fresh
  /-- It was opened as a database before. -/
  | used (database : Database)
  /-- It is something else. -/
  | foreign

/-- What a node is to one who opens it as a database. -/
def standing : Node → Standing
  | .directory => .foreign
  | .file bytes => if bytes.length ≤ 1 then .fresh else .foreign
  | .database database => .used database

/-- The database that a file holds. -/
def Standing.database? : Standing → Option Database
  | .fresh => some .empty
  | .used database => some database
  | .foreign => none

/-- The tree after a journal that was left over was dealt with. A fresh database has no use for it,
and any other file has it read, and so removed, if it has begun. -/
def settleJournal (tree : Tree) (place : Place) (standing : Standing) : Tree :=
  match tree.node? (journalPlace place), standing with
  | some (.file _), .fresh => tree.erase (journalPlace place)
  | some (.file bytes), _ =>
    if bytes.head?.any (· ≠ 0) then tree.erase (journalPlace place) else tree
  | _, _ => tree

/-- The tree without the log of a database and its index. -/
def eraseLog (tree : Tree) (place : Place) : Tree :=
  (tree.erase (logPlace place)).erase (logIndexPlace place)

/-- The tree after a file was opened as a database and closed. Where a directory takes the place of
the log's index, the log stays; and a file that is no database has a log only if one was left
over. -/
def settleLog (tree : Tree) (place : Place) (standing : Standing) : Tree :=
  let log := tree.node? (logPlace place)
  if tree.hasDirectory (logIndexPlace place) then
    match standing, log with
    | .fresh, _ | .used _, none => tree.put (logPlace place) (.file [])
    | _, _ => tree
  else
    match standing, log with
    | .foreign, none => tree
    | _, _ => tree.eraseLog place

/-- Opens a database at a place, with the time in milliseconds to wait for others. Where there is
no file an empty one is made. Without an index of its log a database is only read. -/
def openAt (tree : Tree) (place : Place) (timeout : Nat) : Except OpenFault Database × Tree :=
  let node := (tree.node? place).getD (.file [])
  let tree := tree.put place node
  if maxTimeout < timeout then (.error .timeoutTooLong, tree)
  else if !tree.hasLogRoom place then (.error .notDatabase, tree)
  else
    let settled := (tree.settleJournal place (standing node)).settleLog place (standing node)
    match (standing node).database? with
    | none => (.error .notDatabase, settled)
    | some database =>
      (.ok { database with readOnly := tree.hasDirectory (logIndexPlace place) },
        settled.put place (.database database))

end Tree

end TermStore.Files
