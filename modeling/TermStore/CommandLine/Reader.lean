import TermStore.CommandLine.Help
import TermStore.Decimal.Integer

/-!
# Reading a command line

The words of a command line are read from left to right, for one command after the other. A word
that asks for help, or for the version, ends the reading as soon as it is met, so only what is
wrong before it matters. What is wrong with the value of an option that stands as a word of its
own is noticed at the next option, or at the end of the command's own words.
-/

namespace TermStore.CommandLine

/-- What was read for one command: the options in order, with their values, and the values of its
argument. -/
structure Level where
  options : List (String × String)
  values : List String
  deriving DecidableEq, Repr

/-- Nothing read. -/
def Level.empty : Level := ⟨[], []⟩

/-- What a command line comes to. -/
inductive Reading
  /-- The commands from the program on, with what was read for each. -/
  | commands (levels : List (Command × Level))
  /-- Something to print, and nothing to do. -/
  | print (text : String)
  | refused
  deriving DecidableEq, Repr

/-- Has the value the form? -/
def Form.accepts (value : String) : Form → Bool
  | .path => !value.isEmpty
  | .kind => (TermKind.ofName? value).isSome
  | .text => true
  | .number => (Decimal.readInt value.toList).toBool

/-- Can the word be the value of an option before it? -/
def isValue (word : String) : Bool :=
  match word.toList with
  | '-' :: _ :: _ => false
  | _ => true

/-- May an option be given with a value, behind what was read? -/
def Level.accepts (level : Level) (option : Opt) (value : String) : Bool :=
  (option.repeats || !level.options.any fun given => given.1 == option.name)
    && (option.value.map fun wanted => wanted.1.accepts value).getD true

/-- The level with an option added. -/
def Level.add (level : Level) (option : Opt) (value : String) : Level :=
  { level with options := level.options ++ [(option.name, value)] }

/-- The level with a value of the argument, if the command takes one more. -/
def Level.addValue? (level : Level) (command : Command) (value : String) : Option Level :=
  match command.argument? with
  | none => none
  | some argument =>
    if argument.form.accepts value && (argument.repeats || level.values.isEmpty) then
      some { level with values := level.values ++ [value] }
    else none

/-- The name and the value of a long option whose word has a sign of equality. -/
def splitLong (name : List Char) : String × Option String :=
  let front := name.takeWhile (· ≠ '=')
  match name.drop front.length with
  | [] => (String.ofList front, none)
  | _ :: value => (String.ofList front, some (String.ofList value))

/-- Does the first letter behind a single dash ask for help or the version? -/
def shortAnswer? (path : List String) (command : Command) : List Char → Option String
  | 'h' :: _ => some (helpText path command)
  | 'V' :: _ => if command == .program then some versionLine else none
  | _ => none

/-- Does a long option ask for help or the version? -/
def longAnswer? (path : List String) (command : Command) (name : String) : Option String :=
  if name == helpName then some (helpText path command)
  else if name == "version" && command == .program then some versionLine
  else none

/-- What a command's own words come to at their end; `sound` says that nothing was wrong. -/
def Level.finish (level : Level) (sound : Bool) (command : Command) : Reading :=
  if sound && !command.needsSubcommand && (command.argument?.isNone || !level.values.isEmpty) then
    .commands [(command, level)]
  else .refused

/-- What a command's words come to when those behind a subcommand's name have been read. -/
def Level.before (level : Level) (sound : Bool) (command : Command) : Reading → Reading
  | .commands levels => if sound then .commands ((command, level) :: levels) else .refused
  | reading => reading

/-- Reads the words of a command behind what was read already. `path` are the names that lead to
the command; `plain` says that two dashes stood alone, so that no word is an option. -/
def readWords (path : List String) (command : Command) (level : Level) (sound plain : Bool) :
    List String → Reading
  | [] => level.finish sound command
  | word :: words =>
    if plain then
      match level.addValue? command word with
      | some level => readWords path command level sound plain words
      | none => .refused
    else if command.hasHelpCommand && word == helpName then
      match helpFor? path command words with
      | some text => .print text
      | none => .refused
    else
      match command.subcommand? word with
      | some subcommand =>
        level.before sound command
          (readWords (path ++ [word]) subcommand .empty true false words)
      | none =>
        match word.toList with
        | ['-', '-'] => readWords path command level sound true words
        | '-' :: '-' :: long =>
          let (name, attached) := splitLong long
          match longAnswer? path command name, attached with
          | some text, none => if sound then .print text else .refused
          | some _, some _ => .refused
          | none, _ =>
            match command.option? name with
            | none => .refused
            | some option =>
              match option.value, attached with
              | none, none =>
                if sound && level.accepts option "" then
                  readWords path command (level.add option "") true false words
                else .refused
              | none, some _ => .refused
              | some _, some value =>
                if sound && level.accepts option value then
                  readWords path command (level.add option value) true false words
                else .refused
              | some _, none =>
                match words with
                | [] => .refused
                | value :: words =>
                  if sound && isValue value then
                    readWords path command (level.add option value)
                      (level.accepts option value) false words
                  else .refused
        | '-' :: letter :: letters =>
          match shortAnswer? path command (letter :: letters) with
          | some text => if sound then .print text else .refused
          | none => .refused
        | _ =>
          match level.addValue? command word with
          | some level => readWords path command level sound plain words
          | none => .refused

/-- Reads the words of a command line behind the program's name. -/
def read (words : List String) : Reading :=
  readWords [Command.program.name] .program .empty true false words

end TermStore.CommandLine
