import TermStore.Term.Kind

/-!
# The commands and what they take

Each command has options, at most one argument, and subcommands. Five options belong to every
command and may stand behind any of the command's names.
-/

namespace TermStore.CommandLine

/-- What the value of an option or an argument has to be. -/
inductive Form
  /-- A path that is not empty. -/
  | path
  /-- The name of a kind of term. -/
  | kind
  | text
  /-- A signed number of 64 bits. -/
  | number
  deriving DecidableEq, Repr

/-- An option. -/
structure Opt where
  name : String
  /-- The form of its value and the word for it; a flag has none. -/
  value : Option (Form × String)
  help : String
  /-- May it be given more than once? -/
  repeats : Bool
  deriving DecidableEq, Repr

/-- An argument, which has to be given. -/
structure Argument where
  form : Form
  word : String
  help : String
  /-- May more than one value be given? -/
  repeats : Bool
  deriving DecidableEq, Repr

/-- The commands. The first one is the program itself. -/
inductive Command
  | program
  | init
  | db
  | migrate
  | stats
  | acquire
  | resolve
  deriving DecidableEq, Repr

/-- The options of every command. -/
def commonOptions : List Opt := [
  ⟨"project-root", some (.path, "PATH"), "", false⟩,
  ⟨"primary", some (.path, "PATH"), "Primary (writable) database", false⟩,
  ⟨"replica", some (.path, "PATH"), "Replica (read-only) database", false⟩,
  ⟨"config", some (.path, "PATH"), "", false⟩,
  ⟨"diagnostics", none, "Print resolved runtime diagnostics", false⟩]

namespace Command

/-- The name of a command. -/
def name : Command → String
  | .program => "wbterms"
  | .init => "init"
  | .db => "db"
  | .migrate => "migrate"
  | .stats => "stats"
  | .acquire => "acquire"
  | .resolve => "resolve"

/-- What a command does. -/
def about : Command → String
  | .program => "Acquire and resolve deduplicated term-in-lang ids in a Wikibase-style term store"
  | .init => "Create the .wbterms/ layout and migrate the primary database"
  | .db => ""
  | .migrate => "Apply pending schema migrations"
  | .stats => "Row counts per term store table"
  | .acquire => "Acquire term-in-lang ids for a terms JSON document"
  | .resolve => "Print the terms behind term-in-lang ids"

/-- The commands that a command is divided into. -/
def subcommands : Command → List Command
  | .program => [.init, .db, .acquire, .resolve]
  | .db => [.migrate, .stats]
  | _ => []

/-- Has one of its subcommands to be given? -/
def needsSubcommand (command : Command) : Bool := command == .db

/-- The options of a command itself. -/
def ownOptions : Command → List Opt
  | .init => [
    ⟨"force", none, "Overwrite an existing config file", false⟩,
    ⟨"no-config", none, "Skip writing .wbterms/config.toml", false⟩]
  | .acquire => [⟨"json", none, "Print the result as JSON", false⟩]
  | .resolve => [
    ⟨"type", some (.kind, "TYPE"), "Only resolve this term type", true⟩,
    ⟨"lang", some (.text, "LANG"), "Only resolve this language", true⟩,
    ⟨"json", none, "Print the result as JSON", false⟩]
  | _ => []

/-- The options that a command takes. -/
def options (command : Command) : List Opt := command.ownOptions ++ commonOptions

/-- The argument of a command. -/
def argument? : Command → Option Argument
  | .acquire =>
    some ⟨.path, "FILE", "Terms JSON, e.g. \x7b\"label\": \x7b\"en\": \"Berlin\"\x7d\x7d", false⟩
  | .resolve => some ⟨.number, "ID", "", true⟩
  | _ => none

/-- The subcommand of a name. -/
def subcommand? (command : Command) (name : String) : Option Command :=
  command.subcommands.find? fun subcommand => subcommand.name == name

/-- The option of a name. -/
def option? (command : Command) (name : String) : Option Opt :=
  command.options.find? fun option => option.name == name

/-- Has the command a subcommand that explains the others? -/
def hasHelpCommand (command : Command) : Bool := !command.subcommands.isEmpty

end Command

/-- The name of the subcommand that explains the others. -/
def helpName : String := "help"

/-- What the subcommand does that explains the others. -/
def helpAbout : String := "Print this message or the help of the given subcommand(s)"

/-- The version of the program. -/
def versionLine : String := Command.program.name ++ " 0.1.0\n"

end TermStore.CommandLine
