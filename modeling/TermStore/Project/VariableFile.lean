import TermStore.Project.Layout
import TermStore.Text.Alphanumeric

/-!
# Files of variables

A file `.env` adds variables to the environment, one `NAME=value` a line. Values may be quoted,
also over several lines, have escapes and comments, and name other variables behind a dollar sign.
The first line that cannot be read ends the reading; the variables before it count.
-/

namespace TermStore.Project

open Files (Path Tree)

namespace VariableFile

/-! ### Lines -/

/-- How things stand with the quotes of a line behind some character. -/
inductive Scan
  | plain
  /-- Behind a blank, where a comment may begin. -/
  | afterBlank
  | escaped
  | strong (escaped : Bool)
  | weak (escaped : Bool)
  deriving DecidableEq, Repr

/-- How things stand behind a character outside of quotes. -/
def Scan.outside (c : Char) : Scan :=
  if c = '\\' then .escaped
  else if c = '"' then .weak false
  else if c = '\'' then .strong false
  else .plain

/-- How things stand behind one more character; a comment begins where nothing is given. -/
def Scan.next : Scan → Char → Option Scan
  | .plain, c =>
    if Text.isBlank c && c ≠ '\n' && c ≠ '\r' then some .afterBlank else some (outside c)
  | .afterBlank, c => if c = '#' then none else some (outside c)
  | .escaped, _ => some .plain
  | .strong true, _ => some (.strong false)
  | .strong false, c =>
    some (if c = '\\' then .strong true else if c = '\'' then .plain else .strong false)
  | .weak true, _ => some (.weak false)
  | .weak false, c =>
    some (if c = '\\' then .weak true else if c = '"' then .plain else .weak false)

/-- How things stand at the end of some characters, and those in front of a comment. -/
def scan : Scan → List Char → Option Scan × List Char
  | state, [] => (some state, [])
  | state, c :: rest =>
    match state.next c with
    | none => (none, [])
    | some state => ((scan state rest).1, c :: (scan state rest).2)

/-- Cuts bytes behind each line break. -/
def splitLines : List UInt8 → List (List UInt8)
  | [] => []
  | byte :: rest =>
    if byte = 0x0A then [byte] :: splitLines rest
    else
      match splitLines rest with
      | [] => [[byte]]
      | line :: lines => (byte :: line) :: lines

/-- The line without the break at its end. -/
def dropBreak (line : List Char) : List Char :=
  match line.reverse with
  | '\n' :: '\r' :: before => before.reverse
  | '\n' :: before => before.reverse
  | _ => line

/-- Puts lines together that a quote spans, behind what is held back of them. Where this cannot go
on nothing is given, and that is the end. -/
def joinLines (held : List Char) (state : Scan) :
    List (Option (List Char)) → List (Option (List Char))
  | [] => if state = .plain then [] else [none]
  | none :: _ => [none]
  | some line :: rest =>
    let text := held ++ line
    if (text.dropWhile Text.isBlank).head? = some '#' then some [] :: joinLines [] .plain rest
    else
      match scan state line with
      | (none, kept) => some (held ++ kept) :: joinLines [] .plain rest
      | (some .plain, _) => some (dropBreak text) :: joinLines [] .plain rest
      | (some state, _) => joinLines text state rest

/-- The lines of a file; a byte order mark may lead. -/
def lines (bytes : List UInt8) : List (Option (List Char)) :=
  let bytes := match bytes with
    | 0xEF :: 0xBB :: 0xBF :: rest => rest
    | bytes => bytes
  joinLines [] .plain ((splitLines bytes).map fun line =>
    (Text.Utf8.decode line).toOption.map String.toList)

/-! ### Values -/

/-- The quotes that a place of a value stands in. -/
inductive Quotes
  | outside
  | strong
  | weak
  deriving DecidableEq, Repr

/-- What the next character of a value is taken for. -/
inductive Mode
  | plain
  | escaped
  /-- Part of a variable's name, behind the part read so far. -/
  | name (read : String)
  /-- Part of a variable's name in braces. -/
  | braced (read : String)
  /-- Only blanks and a comment may follow. -/
  | ended
  deriving DecidableEq, Repr

/-- A value while it is read. -/
structure Draft where
  quotes : Quotes
  mode : Mode
  value : String

/-- The draft with a character added to the value. -/
def Draft.push (draft : Draft) (c : Char) : Draft :=
  { draft with mode := .plain, value := draft.value.push c }

/-- Reads a value on from some place; `meaning` gives the values of variables. -/
def readValue (meaning : String → String) : Draft → List Char → Option String
  | draft, [] =>
    match draft.quotes, draft.mode with
    | .outside, .braced _ => none
    | .outside, .name read => some (draft.value ++ meaning read)
    | .outside, _ => some draft.value
    | _, _ => none
  | draft, c :: rest =>
    match draft.mode with
    | .ended =>
      if c = ' ' || c = '\t' then readValue meaning draft rest
      else if c = '#' then some draft.value
      else none
    | .escaped =>
      if c = '\\' || c = '\'' || c = '"' || c = '$' || c = ' ' then
        readValue meaning (draft.push c) rest
      else if c = 'n' then readValue meaning (draft.push '\n') rest
      else none
    | .name read =>
      if Text.isAlphanumeric c then
        readValue meaning { draft with mode := .name (read.push c) } rest
      else if c = '{' && read.isEmpty then
        readValue meaning { draft with mode := .braced "" } rest
      else
        let draft := { draft with value := draft.value ++ meaning read }
        if c = '$' then readValue meaning { draft with mode := .name "" } rest
        else readValue meaning (draft.push c) rest
    | .braced read =>
      if c = '}' then
        readValue meaning { draft with mode := .plain, value := draft.value ++ meaning read } rest
      else readValue meaning { draft with mode := .braced (read.push c) } rest
    | .plain =>
      match draft.quotes with
      | .strong =>
        if c = '\'' then readValue meaning { draft with quotes := .outside } rest
        else readValue meaning (draft.push c) rest
      | .weak =>
        if c = '$' then readValue meaning { draft with mode := .name "" } rest
        else if c = '"' then readValue meaning { draft with quotes := .outside } rest
        else if c = '\\' then readValue meaning { draft with mode := .escaped } rest
        else readValue meaning (draft.push c) rest
      | .outside =>
        if c = '$' then readValue meaning { draft with mode := .name "" } rest
        else if c = '\'' then readValue meaning { draft with quotes := .strong } rest
        else if c = '"' then readValue meaning { draft with quotes := .weak } rest
        else if c = '\\' then readValue meaning { draft with mode := .escaped } rest
        else if c = ' ' || c = '\t' then readValue meaning { draft with mode := .ended } rest
        else readValue meaning (draft.push c) rest

/-! ### Assignments -/

/-- What is left behind blanks. -/
def skipBlank (text : List Char) : List Char := text.dropWhile Text.isBlank

/-- May the character stand in a name? -/
def isNameChar (c : Char) : Bool := c.isAlphanum || c = '_' || c = '.'

/-- Reads a name and the blanks behind it. -/
def readName : List Char → Option (String × List Char)
  | [] => none
  | c :: rest =>
    if c.isAlpha || c = '_' then
      let name := (c :: rest).takeWhile isNameChar
      some (String.ofList name, skipBlank ((c :: rest).drop name.length))
    else none

/-- Reads a name and the sign of equality; the word `export` may lead. -/
def readTarget (text : List Char) : Option (String × List Char) :=
  match readName text with
  | none => none
  | some (name, '=' :: rest) => some (name, rest)
  | some (name, rest) =>
    if name = "export" then
      match readName rest with
      | some (name, '=' :: rest) => some (name, rest)
      | _ => none
    else none

/-- What a line says. -/
inductive Line
  | nothing
  | assignment (name value : String)
  | unreadable

/-- Reads a line. -/
def readLine (meaning : String → String) (line : List Char) : Line :=
  match skipBlank (line.reverse.dropWhile Text.isBlank).reverse with
  | [] => .nothing
  | '#' :: _ => .nothing
  | text =>
    match readTarget text with
    | none => .unreadable
    | some (name, rest) =>
      match skipBlank rest with
      | [] => .assignment name ""
      | '#' :: _ => .assignment name ""
      | text =>
        match readValue meaning ⟨.outside, .plain, ""⟩ text with
        | none => .unreadable
        | some value => .assignment name value

/-! ### Loading -/

/-- What a name stands for in a value: a variable of the environment, or else what the file has
said before. -/
def meaning (environment said : Environment) (name : String) : String :=
  (environment.get? name).getD ((said.get? name).getD "")

/-- Loads lines into an environment. Variables that are there stay as they are, unless they are
to be replaced. -/
def loadLines (replacing : Bool) (environment said : Environment) :
    List (Option (List Char)) → Except Fault Environment
  | [] => .ok environment
  | none :: _ => .ok environment
  | some line :: rest =>
    match readLine (meaning environment said) line with
    | .nothing => loadLines replacing environment said rest
    | .unreadable => .ok environment
    | .assignment name value =>
      if environment.contains name && !replacing then
        loadLines replacing environment (said.put name value) rest
      else if value.toList.any fun c => c.toNat = 0 then .error (.unfitVariable name)
      else loadLines replacing (environment.put name value) (said.put name value) rest

/-- Loads a file into an environment. -/
def load (replacing : Bool) (bytes : List UInt8) (environment : Environment) :
    Except Fault Environment :=
  loadLines replacing environment .empty (lines bytes)

/-- The name of files of variables. -/
def fileName : String := ".env"

/-- The bytes of the file of variables in a directory. A database in its place has no lines. -/
def bytesIn? (tree : Tree) (directory : Path) : Option (List UInt8) :=
  match tree.find? (directory.entry fileName) with
  | some (.file bytes) => some bytes
  | some (.database _) => some []
  | _ => none

/-- Loads the file that is there, if any. -/
def loadIfAny (replacing : Bool) (bytes : Option (List UInt8)) (environment : Environment) :
    Except Fault Environment :=
  match bytes with
  | none => .ok environment
  | some bytes => load replacing bytes environment

end VariableFile

namespace Layout

/-- The environment with the nearest file of variables, from a directory outwards. Variables that
are there stay as they are. -/
def outerEnvironment (tree : Tree) (environment : Environment) (current : Path) :
    Except Fault Environment :=
  VariableFile.loadIfAny false (current.ancestors.findSome? (VariableFile.bytesIn? tree))
    environment

/-- The environment and the layout of the project that a current directory belongs to, with the
files of variables taken into account: the nearest one, and that in the project's root, which
replaces variables. A first layout tells the root. -/
def resolveFully (tree : Tree) (environment : Environment) (overrides : Overrides)
    (current : Path) : Except Fault (Environment × Layout) := do
  let outer ← outerEnvironment tree environment current
  let first ← resolve tree outer overrides current
  let inner ← VariableFile.loadIfAny true (VariableFile.bytesIn? tree first.root.path) outer
  return (inner, ← resolve tree inner overrides current)

end Layout

end TermStore.Project
