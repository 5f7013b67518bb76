import TermStore.CommandLine.Task
import TermStore.Dialog.Databases
import TermStore.Project.Status
import TermStore.Project.VariableFile

/-!
# Doing what a command line asks for

A task works on the file tree and prints lines as it goes. A fault ends it; what was printed and
changed before stays. Every task but showing help starts by finding the project.
-/

namespace TermStore.CommandLine

open Files (Path Tree)
open Project (Fault Work Layout Environment)

/-- What a running task has come to. -/
structure Progress where
  tree : Tree
  output : String

/-- A running task. -/
abbrev Run (α : Type) := ExceptT Fault (StateM Progress) α

namespace Run

/-- Prints a line. -/
def say (line : String) : Run Unit :=
  modify fun progress => { progress with output := progress.output ++ line ++ "\n" }

/-- Does some work on the file tree. -/
def work {α : Type} (work : Work α) : Run α := do
  let progress ← get
  let (outcome, tree) := work.on progress.tree
  set { progress with tree := tree }
  match outcome with
  | .ok result => return result
  | .error fault => throw fault

end Run

/-- Where a task runs. -/
structure Setting where
  environment : Environment
  /-- The current directory. -/
  current : Path

/-! ### Dialogs -/

/-- Carries a dialog on with the databases of a project. Where the replica's path leads to the
primary's file, both stores are one. -/
def converse {α : Type} (layout : Layout) (dialog : Dialog α) : Work α := do
  let timeout := layout.config.busyTimeout
  let (place, primary) ← Project.openDatabase layout.primary.path timeout
  let replica ←
    if layout.hasReplica then some <$> Project.openDatabase layout.replica.path timeout
    else pure none
  let replica := replica.filter fun opened => opened.1 ≠ place
  let (outcome, databases) := dialog.run Databases.handler
    ⟨primary, replica.map Prod.snd, .none⟩
  Project.keepDatabase place databases.primary
  Work.ofExcept .store outcome

/-- The kind store of a project. -/
def projectKinds : KindStore := .inTable .replica .primary

/-! ### Tasks -/

/-- Prints the layout, if that was asked for. -/
def sayDiagnostics (job : Job) (layout : Layout) : Run Unit :=
  if job.diagnostics then Run.say ("\n[diagnostics]\n" ++ layout.diagnostics) else pure ()

/-- Prints what migrations did. -/
def sayMigrated (store : String) (report : Storage.MigrationReport) : Run Unit := do
  Run.say (store ++ ".applied: " ++ toString report.applied.length)
  report.applied.forM fun migration =>
    Run.say (store ++ ".migration: " ++ Storage.paddedVersion migration.1 ++ "_" ++ migration.2)
  Run.say (store ++ ".schema_version: " ++ toString report.version)

/-- Prints a path under a title. -/
def sayPath (title : String) (path : Path) : Run Unit := Run.say (title ++ ": " ++ path.display)

/-- Sets a project up. -/
def setUp (layout : Layout) (withConfig replacing : Bool) : Run Unit := do
  let setup ← Run.work (Project.setUp layout withConfig replacing)
  let report ← Run.work (Project.migrateFully layout.primary.path layout.config.busyTimeout)
  Run.say "Initialized wbterms runtime layout"
  sayPath "project_root" layout.root.path
  sayPath "state_dir" layout.stateDirectory
  sayPath "config_path" layout.configPath.path
  sayPath "primary_db" layout.primary.path
  sayPath "replica_db" layout.replica.path
  Run.say ("created_dirs: " ++ toString setup.madeDirectories.length)
  Run.say ("wrote_config: " ++ toString setup.wroteConfig)
  sayMigrated "primary" report

/-- Brings the databases of a project up to the current schema. -/
def migrate (layout : Layout) : Run Unit := do
  let timeout := layout.config.busyTimeout
  Run.say "db migrate"
  let report ← Run.work (Project.migrateFully layout.primary.path timeout)
  sayPath "primary_db" layout.primary.path
  sayMigrated "primary" report
  if layout.hasReplica then
    let report ← Run.work (Project.migrateFully layout.replica.path timeout)
    sayPath "replica_db" layout.replica.path
    sayMigrated "replica" report

/-- The word for yes or no. -/
def yesNo (value : Bool) : String := if value then "yes" else "no"

/-- Prints what is there of a project. -/
def showStats (layout : Layout) : Run Unit := do
  let status ← Run.work (Project.inspect layout)
  Run.say "db stats"
  sayPath "primary_db" layout.primary.path
  Run.say ("primary_exists: " ++ yesNo status.primaryExists)
  Run.say ("primary_size_bytes: " ++ (status.primarySize.map toString).getD "n/a")
  if layout.hasReplica then
    sayPath "replica_db" layout.replica.path
    Run.say ("replica_exists: " ++ yesNo status.replicaExists)
  match status.pending with
  | none => Run.say "rows: <no database> (run `wbterms init`)"
  | some 0 =>
    let counts ← Run.work (Project.rowCounts layout.primary.path layout.config.busyTimeout)
    counts.forM fun count => Run.say ("rows." ++ count.1 ++ ": " ++ toString count.2)
  | some pending => Run.say ("pending_migrations: " ++ toString pending)
  if !status.warnings.isEmpty then
    Run.say "warnings:"
    status.warnings.forM fun warning => Run.say ("  - " ++ warning.message)

/-- The document in a file. -/
def readDocument (tree : Tree) (current file : Path) : Except Fault Document :=
  match tree.readText? (current.join file) with
  | none => .error (.notRead file)
  | some text =>
    match Document.ofText text with
    | .ok document => .ok document
    | .error failure => .error (.notTerms file failure)

/-- The JSON value of an acquired term with its final id. -/
def acquiredValue (acquired : AcquiredTerm) (id : Int) : Json.Value :=
  .object [
    ("term_type", .text acquired.term.kind.name),
    ("language", .text acquired.term.language),
    ("text", .text acquired.term.text),
    ("type_id", .number (.whole acquired.kindId)),
    ("term_in_lang_id", .number (.whole id))]

/-- Acquires and finalizes ids for the terms of a document. -/
def acquireAll (limits : Limits) (document : Document) : Dialog (List (AcquiredTerm × Int)) := do
  let batch ← Acquisition.acquire .replica .primary projectKinds limits document
  let ids ← Acquisition.finalize .primary limits batch
  return batch.zip ids

/-- The slot of a term as lines show it. -/
def slotText (kind : TermKind) (language : String) : String := kind.name ++ "." ++ language

/-- Acquires ids for the terms of a document and prints them. -/
def acquire (setting : Setting) (layout : Layout) (file : Path) (asJson : Bool) : Run Unit := do
  Run.work (Project.checkMigrated layout)
  let limits ← liftExcept (layout.config.limits setting.environment)
  let document ← liftExcept (readDocument (← get).tree setting.current file)
  let acquired ← Run.work (converse layout (acquireAll limits document))
  if asJson then
    Run.say (Json.Value.list (acquired.map fun term => acquiredValue term.1 term.2)).pretty
  else
    Run.say "acquire"
    sayPath "file" file
    Run.say ("terms: " ++ toString acquired.length)
    acquired.forM fun (term, id) =>
      Run.say (slotText term.term.kind term.term.language ++ ": " ++ toString id ++ " ("
        ++ term.term.text ++ ")")
where
  liftExcept {α : Type} : Except Fault α → Run α
    | .ok result => pure result
    | .error fault => throw fault

/-- Prints the terms behind ids. -/
def resolve (layout : Layout) (ids : List Int) (filter : ResolveFilter) (asJson : Bool) :
    Run Unit := do
  Run.work (Project.checkMigrated layout)
  let document ← Run.work
    (converse layout (Resolution.resolve .replica .primary projectKinds filter ids))
  if asJson then Run.say document.toJson
  else
    Run.say "resolve"
    Run.say ("ids: " ++ toString ids.length)
    Run.say ("terms: " ++ toString document.termCount)
    document.terms.forM fun term =>
      Run.say (slotText term.kind term.language ++ ": " ++ term.text)

/-- Does a task for the project of a setting. -/
def perform (setting : Setting) (job : Job) : Run Unit :=
  match job.task with
  | .showHelp => Run.say (helpText [Command.program.name] .program)
  | task => do
    let found := Layout.resolveFully (← get).tree setting.environment job.overrides
      setting.current
    match found with
    | .error fault => throw fault
    | .ok (environment, layout) =>
      match task with
      | .setUp withConfig replacing => setUp layout withConfig replacing
      | .migrate => migrate layout
      | .showStats => showStats layout
      | .acquire file asJson =>
        acquire { setting with environment := environment } layout file asJson
      | .resolve ids filter asJson => resolve layout ids filter asJson
      | .showHelp => pure ()
      sayDiagnostics job layout

/-! ### Whole runs -/

/-- How a run of the program ended. -/
structure Outcome where
  code : Nat
  output : String
  fault : Option Fault
  tree : Tree

/-- The code that a fault ends the program with. -/
def exitCode (fault : Fault) : Nat := if fault.endsProgram then 101 else 1

/-- Runs the program with the words of a command line. -/
def run (setting : Setting) (tree : Tree) (words : List String) : Outcome :=
  match read words with
  | .refused => ⟨2, "", none, tree⟩
  | .print text => ⟨0, text, none, tree⟩
  | .commands levels =>
    match StateT.run (perform setting (.ofLevels levels)).run ⟨tree, ""⟩ with
    | (.ok _, progress) => ⟨0, progress.output, none, progress.tree⟩
    | (.error fault, progress) =>
      ⟨exitCode fault, progress.output, some fault, progress.tree⟩

/-- What is reported of a run that ended with a fault. A program that a fault ends at once has no
time for a report. -/
def Outcome.report? (outcome : Outcome) : Option String :=
  match outcome.fault with
  | none => none
  | some fault => if fault.endsProgram then none else some ("Error: " ++ fault.message)

end TermStore.CommandLine
