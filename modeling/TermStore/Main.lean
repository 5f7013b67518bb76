import TermStore.CommandLine.Reach

/-!
# The program

Puts the file tree of a run together from the disk, runs, and writes back what has changed. All
that is decided is decided by `CommandLine.run`.
-/

namespace TermStore.Main

open CommandLine (Setting)
open Files (Node Path Place Tree)

/-- The node of a file's bytes. -/
def nodeOf (bytes : List UInt8) : Node :=
  match (Text.Utf8.decode bytes).toOption.bind Files.Image.decode? with
  | some database => .database database
  | none => .file bytes

/-- The text of a place's path. -/
def placeText (place : Place) : String := "/" ++ "/".intercalate place

/-- Puts what the disk has at a place into a tree. -/
def loadPlace (tree : Tree) (place : Place) : IO Tree := do
  let path := (← IO.currentDir) / placeText place
  if (tree.node? place).isSome then return tree
  else if ← path.isDir then return tree.put place .directory
  else if ← path.pathExists then
    return tree.put place (nodeOf (← IO.FS.readBinFile path).toList)
  else return tree

/-- Puts together the tree of a run. -/
def loadTree (setting : Setting) (words : List String) : IO Tree :=
  (List.range CommandLine.rounds).foldlM (fun tree _ =>
    (CommandLine.placesOf setting tree words).foldlM loadPlace tree)
    Tree.empty

/-- The bytes that the disk has to have for a node, unless it has them already. -/
def bytesToWrite? (before : Option Node) : Node → Option (List UInt8)
  | .directory => none
  | .database database => some (Text.Utf8.encode (Files.Image.encode database))
  | .file bytes =>
    match before with
    | some (.file same) => if same = bytes then none else some bytes
    | _ => some bytes

/-- Writes back what a run has changed. It removes files only. -/
def saveTree (before after : Tree) : IO Unit := do
  before.nodes.entries.forM fun entry => do
    if (after.node? entry.1).isNone then IO.FS.removeFile (placeText entry.1)
  after.nodes.entries.forM fun entry => do
    match entry.2 with
    | .directory => IO.FS.createDirAll (placeText entry.1)
    | node =>
      match bytesToWrite? (before.node? entry.1) node with
      | none => pure ()
      | some bytes => IO.FS.writeBinFile (placeText entry.1) ⟨bytes.toArray⟩

/-- The variables that the program reads. -/
def loadEnvironment : IO Project.Environment := do
  let found ← CommandLine.variableNames.mapM fun name => do
    return (← IO.getEnv name).map fun value => (name, value)
  return .ofList (found.filterMap id)

end TermStore.Main

/-- Runs the program. -/
def main (words : List String) : IO UInt32 := do
  let setting : TermStore.CommandLine.Setting :=
    ⟨← TermStore.Main.loadEnvironment, .ofText (← IO.currentDir).toString⟩
  let tree ← TermStore.Main.loadTree setting words
  let outcome := TermStore.CommandLine.run setting tree words
  TermStore.Main.saveTree tree outcome.tree
  IO.print outcome.output
  match outcome.report? with
  | none => pure ()
  | some report => IO.eprintln report
  return outcome.code.toUInt32
