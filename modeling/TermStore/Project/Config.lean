import TermStore.Acquisition.Terms
import TermStore.Project.Fault
import TermStore.Text.Blank
import TermStore.Toml.Reader

/-!
# Configuration

A project's configuration is the table `store` of a TOML document. Every entry may be missing;
entries of other names do not matter. The table may also be given as the list of its five values
in order. Where a configuration and the environment say nothing, defaults hold.
-/

namespace TermStore.Project

open Files (Path Tree)

/-- The variables of an environment. -/
abbrev Environment := SortedMap String String

/-- The value of a variable without the blanks around it, unless nothing else is there. -/
def Environment.trimmed? (environment : Environment) (key : String) : Option String :=
  match environment.get? key with
  | none => none
  | some value => if (Text.trim value).isEmpty then none else some (Text.trim value)

/-- What a configuration says. -/
structure Config where
  primary : Option String
  replica : Option String
  textBytes : Option Nat
  attempts : Option Nat
  /-- The time in milliseconds to wait for others. -/
  timeout : Option Nat
  deriving DecidableEq, Repr

/-- How long to wait for others where nothing else is said, in milliseconds. -/
def defaultTimeout : Nat := 5000

namespace Config

/-- The configuration that says nothing. -/
def empty : Config := ⟨none, none, none, none, none⟩

/-! ### Reading -/

/-- Reads an entry that may be missing. -/
def optional {α : Type} (read : Toml.Value → Option α) : Option Toml.Value → Option (Option α)
  | none => some none
  | some value => (read value).map some

/-- Reads a text. -/
def readText : Toml.Value → Option String
  | .text value => some value
  | _ => none

/-- Reads a number that is not negative. -/
def readCount : Toml.Value → Option Nat
  | .integer value => if 0 ≤ value then some value.toNat else none
  | _ => none

/-- Reads the table `store`, or what stands in its place. A date or time counts as a table whose
entries do not matter. -/
def ofStore? : Toml.Value → Option Config
  | .table entries => do
    return {
      primary := ← optional readText (entries.lookup "primary_db"),
      replica := ← optional readText (entries.lookup "replica_db"),
      textBytes := ← optional readCount (entries.lookup "text_max_bytes"),
      attempts := ← optional readCount (entries.lookup "max_insert_attempts"),
      timeout := ← optional readCount (entries.lookup "busy_timeout_ms") }
  | .list (primary :: replica :: textBytes :: attempts :: timeout :: _) => do
    return {
      primary := ← readText primary,
      replica := ← readText replica,
      textBytes := ← readCount textBytes,
      attempts := ← readCount attempts,
      timeout := ← readCount timeout }
  | .moment => some empty
  | _ => none

/-- The configuration that a document says. -/
def ofText? (text : String) : Option Config := do
  match (← Toml.parse? text).lookup "store" with
  | none => return empty
  | some store => ofStore? store

/-- The configuration in a file; nothing is said where there is none. -/
def load (tree : Tree) (path : Path) : Except Fault Config :=
  if !tree.contains path then .ok empty
  else
    match tree.readText? path with
    | none => .error (.notRead path)
    | some text =>
      match ofText? text with
      | none => .error (.notConfiguration path)
      | some config => .ok config

/-! ### What holds -/

/-- A number in a variable of the environment. -/
def variableCount (environment : Environment) (key : String) : Except Fault (Option Nat) :=
  match environment.trimmed? key with
  | none => .ok none
  | some value =>
    match Decimal.readNat Decimal.maxNat64 value.toList with
    | .ok count => .ok (some count)
    | .error fault => .error (.notNumber key value fault)

/-- The limits for storing terms: what the environment says, or else the configuration. -/
def limits (config : Config) (environment : Environment) : Except Fault Limits := do
  let textBytes := (← variableCount environment "WBTERMS_TEXT_MAX_BYTES").getD
    (config.textBytes.getD Limits.default.textBytes)
  let attempts := (← variableCount environment "WBTERMS_MAX_INSERT_ATTEMPTS").getD
    (config.attempts.getD Limits.default.attempts)
  if textBytes = 0 then .error .zeroTextBytes
  else if attempts = 0 then .error .zeroAttempts
  else .ok ⟨textBytes, attempts⟩

/-- How long to wait for others, in milliseconds. -/
def busyTimeout (config : Config) : Nat := config.timeout.getD defaultTimeout

/-- The configuration that a new project starts with. It says what holds without it. -/
def initialText : String :=
  "# wbterms term store configuration (materialized by `wbterms init`)\n"
    ++ "# Relative paths are resolved against the project root.\n\n"
    ++ "[store]\n"
    ++ "primary_db = \".wbterms/data/terms.db\"\n"
    ++ "# replica_db = \".wbterms/data/replica.db\"\n"
    ++ "text_max_bytes = 255\n"
    ++ "max_insert_attempts = 5\n"
    ++ "busy_timeout_ms = 5000\n"

end Config

end TermStore.Project
