import TermStore.Files.Path
import TermStore.Storage.Database
import TermStore.Text.Utf8

/-!
# File trees

What the directories hold, as far as the program can see it: directories, files of bytes, and
files that a database has taken. A path is followed piece by piece, and each piece needs a
directory to stand in, also an empty one and a dot. Relative paths start at the root. A path whose
text is too long leads nowhere, whatever it would lead to.
-/

namespace TermStore.Files

/-- What stands at a place of a file tree. -/
inductive Node
  | directory
  | file (bytes : List UInt8)
  | database (database : Storage.Database)

/-- A place of a file tree: the names that lead to it from the root. Places are ordered name by
name. -/
abbrev Place := List String

instance : LE Place := List.instLE

instance : Std.IsLinearOrder Place := List.instIsLinearOrder

instance : Std.LawfulOrderLT Place := List.instLawfulOrderLTOfAsymmLt

/-- The nodes of a file tree by their places. The root is always a directory. -/
structure Tree where
  nodes : SortedMap Place Node

/-- Why a path leads nowhere. -/
inductive Obstacle
  | missing
  /-- A file stands where a directory should, or the other way round, or a name or the whole path is
  none that there can be. -/
  | blocked
  deriving DecidableEq, Repr

namespace Tree

/-- The tree that has only the root. -/
def empty : Tree := ⟨.empty⟩

/-- The node of a place. -/
def node? (tree : Tree) (place : Place) : Option Node :=
  if place.isEmpty then some .directory else tree.nodes.get? place

/-- The tree with a node put at a place. -/
def put (tree : Tree) (place : Place) (node : Node) : Tree := ⟨tree.nodes.put place node⟩

/-! ### Following paths -/

/-- Follows pieces from a place on. -/
def follow (tree : Tree) : (here : Place) → List String → Except Obstacle Place
  | here, [] => .ok here
  | here, piece :: rest =>
    match tree.node? here with
    | some .directory =>
      if piece = "" || piece = "." then follow tree here rest
      else if piece = ".." then follow tree here.dropLast rest
      else
        match tree.node? (here ++ [piece]) with
        | some _ => follow tree (here ++ [piece]) rest
        | none => .error .missing
    | _ => .error .blocked

/-- The place of what pieces lead to. The empty text leads nowhere. -/
def locatePieces (tree : Tree) (pieces : List String) : Except Obstacle Place :=
  if pieces = [""] then .error .missing else tree.follow [] pieces

/-- The number of bytes that the text of a path can have. -/
def maxPathBytes : Nat := 4095

/-- Is the text of a path short enough to be followed? -/
def isFollowed (path : Path) : Bool := path.text.utf8ByteSize ≤ maxPathBytes

/-- The place of what a path leads to. -/
def locate (tree : Tree) (path : Path) : Except Obstacle Place :=
  if isFollowed path then tree.locatePieces path.pieces else .error .blocked

/-- What a path leads to. -/
def find? (tree : Tree) (path : Path) : Option Node :=
  match tree.locate path with
  | .ok place => tree.node? place
  | .error _ => none

/-- Does the path lead to something? -/
def contains (tree : Tree) (path : Path) : Bool := (tree.find? path).isSome

/-- Does the path lead to a directory? -/
def isDirectory (tree : Tree) (path : Path) : Bool :=
  match tree.find? path with
  | some .directory => true
  | _ => false

/-- The text that a file holds, if it holds text. -/
def readText? (tree : Tree) (path : Path) : Option String :=
  match tree.find? path with
  | some (.file bytes) => (Text.Utf8.decode bytes).toOption
  | _ => none

/-! ### Making directories and files -/

/-- Is there no NUL in the text? -/
def holdsNoNul (text : String) : Bool := text.toList.all fun c => c.toNat ≠ 0

/-- May an entry of a directory have this name? -/
def isName (name : String) : Bool := name.utf8ByteSize ≤ 255 && holdsNoNul name

/-- The place that a new entry would have whose path has these pieces, given last first. -/
def newPlace (tree : Tree) : List String → Except Obstacle Place
  | [] => .error .blocked
  | last :: before =>
    if last = "" || last = "." || last = ".." then
      match tree.locatePieces (last :: before).reverse with
      | .ok _ => .error .blocked
      | .error obstacle => .error obstacle
    else
      match tree.follow [] before.reverse with
      | .error obstacle => .error obstacle
      | .ok here =>
        match tree.node? here with
        | some .directory => if isName last then .ok (here ++ [last]) else .error .blocked
        | _ => .error .blocked

/-- Makes one directory. Slashes at the end of its path do not matter. -/
def makeDirectory (tree : Tree) (path : Path) : Except Obstacle Tree :=
  if !isFollowed path then .error .blocked
  else
    match tree.newPlace (path.pieces.reverse.dropWhile (· = "")) with
    | .error obstacle => .error obstacle
    | .ok place =>
      match tree.node? place with
      | some _ => .error .blocked
      | none => .ok (tree.put place .directory)

/-- Makes the first of some directories, each in the one behind it, and those that are missing for
it. Tells whether it is there at the end. -/
def makeChain (tree : Tree) : List Path → Bool × Tree
  | [] => (false, tree)
  | path :: outer =>
    if path.isEmpty then (true, tree)
    else
      match tree.makeDirectory path with
      | .ok tree => (true, tree)
      | .error .blocked => (tree.isDirectory path, tree)
      | .error .missing =>
        match makeChain tree outer with
        | (false, tree) => (false, tree)
        | (true, tree) =>
          match tree.makeDirectory path with
          | .ok tree => (true, tree)
          | .error _ => (tree.isDirectory path, tree)

/-- Makes a directory and all that are missing above it. Tells whether it is there at the end. -/
def makeDirectories (tree : Tree) (path : Path) : Bool × Tree := tree.makeChain path.ancestors

/-- Makes a file hold some bytes. -/
def write (tree : Tree) (path : Path) (bytes : List UInt8) : Option Tree :=
  if !isFollowed path then none
  else
    match tree.newPlace path.pieces.reverse with
    | .error _ => none
    | .ok place =>
      match tree.node? place with
      | some .directory => none
      | _ => some (tree.put place (.file bytes))

/-- The tree without what stands at a place and below it. -/
def erase (tree : Tree) (place : Place) : Tree :=
  ⟨tree.nodes.filter fun entry => entry.1.take place.length ≠ place⟩

/-- Removes what a path leads to, with all that stands below it. -/
def remove (tree : Tree) (path : Path) : Tree :=
  match tree.locate path with
  | .ok place => tree.erase place
  | .error _ => tree

end Tree

end TermStore.Files
