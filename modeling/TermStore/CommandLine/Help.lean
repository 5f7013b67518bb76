import TermStore.CommandLine.Grammar

/-!
# Help texts

A help text says what a command does and how it is used, and lists its subcommands, its arguments
and its options in two columns. The options of all commands and those of the command itself are
merged by their places in their lists; at one place the earlier name comes first.
-/

namespace TermStore.CommandLine

/-- Lines of two columns, the left one as wide as its widest entry. -/
def columns (rows : List (String × String)) : List String :=
  let width := (rows.map fun row => row.1.length).foldl max 0
  rows.map fun row =>
    "  " ++ row.1 ++ String.ofList (List.replicate (width - row.1.length) ' ') ++ "  " ++ row.2

/-- A section of a help text, if there is something in it. -/
def section? (title : String) (rows : List (String × String)) : List String :=
  if rows.isEmpty then [] else "" :: (title ++ ":") :: columns rows

/-- An option as help texts write it. -/
def Opt.usage (option : Opt) : String :=
  "    --" ++ option.name ++
    match option.value with
    | none => ""
    | some (_, word) => " <" ++ word ++ ">"

/-- An argument as help texts write it. -/
def Argument.usage (argument : Argument) : String :=
  "<" ++ argument.word ++ ">" ++ if argument.repeats then "..." else ""

/-- Merges two lists of options by their places; at one place the earlier name comes first. -/
def mergeOptions : List Opt → List Opt → List Opt
  | [], others => others
  | options, [] => options
  | option :: options, other :: others =>
    if option.name < other.name then option :: other :: mergeOptions options others
    else other :: option :: mergeOptions options others

/-- The rows for the options of a command. -/
def optionRows (command : Command) : List (String × String) :=
  ((mergeOptions command.ownOptions commonOptions).map fun option => (option.usage, option.help))
    ++ [("-h, --help", "Print help")]
    ++ if command == .program then [("-V, --version", "Print version")] else []

/-- The rows for the subcommands of a command. -/
def commandRows (command : Command) : List (String × String) :=
  if command.hasHelpCommand then
    (command.subcommands.map fun subcommand => (subcommand.name, subcommand.about))
      ++ [(helpName, helpAbout)]
  else []

/-- How a command is used; `path` are the names that lead to it. -/
def usageLine (path : List String) (command : Command) : String :=
  "Usage: " ++ " ".intercalate (path ++ ["[OPTIONS]"]
    ++ (command.argument?.map Argument.usage).toList
    ++ if !command.hasHelpCommand then []
      else if command.needsSubcommand then ["<COMMAND>"] else ["[COMMAND]"])

/-- A help text of some lines. -/
def helpOfLines (about : String) (lines : List String) : String :=
  "\n".intercalate ((if about.isEmpty then [] else [about, ""]) ++ lines) ++ "\n"

/-- The help text of a command; `path` are the names that lead to it. -/
def helpText (path : List String) (command : Command) : String :=
  helpOfLines command.about (usageLine path command :: (section? "Commands" (commandRows command)
    ++ section? "Arguments"
      (command.argument?.map fun argument => (argument.usage, argument.help)).toList
    ++ section? "Options" (optionRows command)))

/-- The help text of the subcommand that explains the others. -/
def helpHelpText (path : List String) : String :=
  helpOfLines helpAbout (("Usage: " ++ " ".intercalate (path ++ [helpName, "[COMMAND]..."]))
    :: section? "Arguments" [("[COMMAND]...", "Print help for the subcommand(s)")])

/-- The help text of a subcommand that some names lead to, from a command on. -/
def helpFor? (path : List String) (command : Command) : List String → Option String
  | [] => some (helpText path command)
  | name :: names =>
    if command.hasHelpCommand && name == helpName then
      if names.isEmpty then some (helpHelpText path) else none
    else
      match command.subcommand? name with
      | some subcommand => helpFor? (path ++ [name]) subcommand names
      | none => none

end TermStore.CommandLine
