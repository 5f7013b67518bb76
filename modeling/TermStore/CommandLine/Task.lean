import TermStore.CommandLine.Reader
import TermStore.Project.Layout
import TermStore.Resolution

/-!
# What a command line asks for

The commands that were read come to one task, with the paths that flags name. Of an option that
every command takes, the value at the innermost command counts.
-/

namespace TermStore.CommandLine

open Files (Path)

/-- What is to be done. -/
inductive Task
  | showHelp
  | setUp (withConfig replacing : Bool)
  | migrate
  | showStats
  | acquire (file : Path) (asJson : Bool)
  | resolve (ids : List Int) (filter : ResolveFilter) (asJson : Bool)
  deriving DecidableEq, Repr

/-- A task, and how it is to be done. -/
structure Job where
  task : Task
  overrides : Project.Overrides
  diagnostics : Bool
  deriving DecidableEq, Repr

/-- The values of an option, in order. -/
def Level.valuesOf (level : Level) (name : String) : List String :=
  (level.options.filter fun option => option.1 == name).map Prod.snd

/-- Was an option given? -/
def Level.has (level : Level) (name : String) : Bool :=
  level.options.any fun option => option.1 == name

/-- The value of an option at the innermost command that has it. -/
def innermost? (levels : List (Command × Level)) (name : String) : Option String :=
  levels.reverse.findSome? fun level => (level.2.valuesOf name).head?

/-- The task of the last command. -/
def Level.task (level : Level) : Command → Task
  | .program => .showHelp
  | .db => .showHelp
  | .init => .setUp (!level.has "no-config") (level.has "force")
  | .migrate => .migrate
  | .stats => .showStats
  | .acquire => .acquire (.ofText (level.values.headD "")) (level.has "json")
  | .resolve =>
    .resolve (level.values.filterMap fun id => (Decimal.readInt id.toList).toOption)
      ⟨(level.valuesOf "type").filterMap TermKind.ofName?, level.valuesOf "lang"⟩
      (level.has "json")

/-- What some commands ask for. -/
def Job.ofLevels (levels : List (Command × Level)) : Job :=
  let (command, level) := levels.getLastD (.program, .empty)
  let path := fun name => (innermost? levels name).map Path.ofText
  { task := level.task command
    overrides := ⟨path "project-root", path "primary", path "replica", path "config"⟩
    diagnostics := levels.any fun level => level.2.has "diagnostics" }

end TermStore.CommandLine
