import TermStore.Proofs.Layouts
import TermStore.Proofs.Variables

/-!
# How runs end

Work ends with a result or with a fault, and nearly all faults are reported. Two of them end the
program at once: a time to wait for others that is more than can be set, and a variable with a NUL
in its value. Work is said to report its faults if it never ends with one of these two
(`Reports`).

Steps that report their faults make work that does, so each kind of work is gone through once, in
the order of its steps. The first of the two faults comes from opening a database only, and the
second one from loading a file of variables only; what excludes them is therefore asked of the
configuration and of these files, and of nothing else.
-/

namespace TermStore

open Files (Path Place Tree)

namespace Project

variable {σ α β : Type}

/-- Work that never ends the program: its faults are reported. -/
def Reports (work : ExceptT Fault (StateM σ) α) : Prop :=
  ∀ start fault, (work.run.run start).1 = .error fault → fault.endsProgram = false

/-! ### Steps of work -/

/-- Work in sequence: the second part runs on what the first one leaves, and a fault of the first
part ends it. -/
theorem run_bind (work : ExceptT Fault (StateM σ) α) (next : α → ExceptT Fault (StateM σ) β)
    (start : σ) : (work >>= next).run.run start =
      match work.run.run start with
      | (.ok result, after) => (next result).run.run after
      | (.error fault, after) => (.error fault, after) := by
  rw [ExceptT.run_bind, StateT.run_bind]
  cases work.run.run start with
  | mk outcome after => cases outcome <;> rfl

theorem run_get (start : σ) :
    (get : ExceptT Fault (StateM σ) σ).run.run start = (.ok start, start) := rfl

theorem run_set (state start : σ) :
    (set state : ExceptT Fault (StateM σ) Unit).run.run start = (.ok (), state) := rfl

theorem reports_pure (result : α) : Reports (pure result : ExceptT Fault (StateM σ) α) := by
  intro start fault h
  cases h

/-- Which faults are reported is a matter of computing: where a step throws one, `rfl` shows that it
is. -/
theorem reports_throw {fault : Fault} (hfault : fault.endsProgram = false) :
    Reports (throw fault : ExceptT Fault (StateM σ) α) := by
  intro start other h
  cases h
  exact hfault

/-- Looking at the state, and replacing or changing it, never fails. -/
theorem reports_get : Reports (get : ExceptT Fault (StateM σ) σ) := by
  intro start fault h
  cases h

theorem reports_set (state : σ) : Reports (set state : ExceptT Fault (StateM σ) Unit) := by
  intro start fault h
  cases h

theorem reports_modify (change : σ → σ) :
    Reports (modify change : ExceptT Fault (StateM σ) Unit) := by
  intro start fault h
  cases h

/-- Work in sequence reports its faults if its parts do. The second part has to for whatever the
first one results in, so nothing need be known of results. -/
theorem Reports.bind {work : ExceptT Fault (StateM σ) α}
    {next : α → ExceptT Fault (StateM σ) β} (hwork : Reports work)
    (hnext : ∀ result, Reports (next result)) : Reports (work >>= next) := by
  intro start fault h
  rw [run_bind] at h
  split at h
  · exact hnext _ _ _ h
  · next hrun =>
    cases h
    exact hwork start fault (by rw [hrun])

theorem Reports.map {work : ExceptT Fault (StateM σ) α} (hwork : Reports work) (f : α → β) :
    Reports (f <$> work) := by
  rw [map_eq_pure_bind]
  exact hwork.bind fun result => reports_pure (f result)

/-- Nor does it matter how often a step is made. -/
theorem reports_forM {items : List α} {step : α → ExceptT Fault (StateM σ) Unit}
    (hstep : ∀ item, Reports (step item)) : Reports (items.forM step) := by
  induction items with
  | nil => exact reports_pure ()
  | cons item rest ih => exact (hstep item).bind fun _ => ih

/-! ### Work on files -/

/-- What another part of the library tried reports its faults if each fault that can stand for one
of them is reported. -/
theorem reports_ofExcept {ε : Type} {fault : ε → Fault}
    (hfault : ∀ error, (fault error).endsProgram = false) (outcome : Except ε α) :
    Reports (Work.ofExcept fault outcome) := by
  cases outcome with
  | ok result => exact reports_pure result
  | error error => exact reports_throw (hfault error)

/-- Making a directory fails with the fault that is given for it, whatever is in its way; every task
names one that is reported. -/
theorem reports_makeDirectories (path : Path) {fault : Fault}
    (hfault : fault.endsProgram = false) : Reports (Work.makeDirectories path fault) := by
  unfold Work.makeDirectories
  refine reports_get.bind fun tree => (reports_set _).bind fun _ => ?_
  split
  · exact reports_pure ()
  · exact reports_throw hfault

/-- Making the directories that are missing, up to the first that cannot be made. -/
theorem reports_makeMissing (paths : List Path) : Reports (makeMissing paths) := by
  induction paths with
  | nil => exact reports_pure []
  | cons path rest ih =>
      unfold makeMissing
      refine reports_get.bind fun tree => ?_
      split
      · exact ih
      · exact (reports_makeDirectories path rfl).bind fun _ => ih.bind fun _ => reports_pure _

/-- Writing a text file. Its path may have no directory, the directory may not be there to be made,
and the file may not be there to be written: three faults, all of them reported. -/
theorem reports_writeText (path : Path) (text : String) (replacing : Bool) :
    Reports (writeText path text replacing) := by
  unfold writeText
  refine reports_get.bind fun tree => ?_
  split
  · exact reports_pure false
  · split
    · exact reports_throw rfl
    · refine (reports_makeDirectories _ rfl).bind fun _ => reports_get.bind fun tree => ?_
      split
      · exact reports_throw rfl
      · exact (reports_set _).bind fun _ => reports_pure true

/-- Setting a project up touches directories and the configuration, and no database. -/
theorem reports_setUp (layout : Layout) (withConfig replacing : Bool) :
    Reports (setUp layout withConfig replacing) := by
  unfold setUp
  refine (reports_makeMissing _).bind fun made => ?_
  split
  · exact (reports_writeText _ _ _).bind fun _ => reports_pure _
  · exact (reports_pure _).bind fun _ => reports_pure _

/-! ### Work on databases -/

/-- Opening a place ends the program exactly where the time to wait is too long. -/
theorem openAt_timeoutTooLong_iff {tree : Tree} {place : Place} {timeout : Nat} :
    (tree.openAt place timeout).1 = .error .timeoutTooLong ↔ Tree.maxTimeout < timeout := by
  unfold Tree.openAt
  constructor
  · intro h
    -- with a time that can be set, opening fails only over a file that is no database
    by_contra hshort
    rw [if_neg hshort] at h
    split at h
    · cases h
    · dsimp only at h
      split at h <;> cases h
  · intro hlong
    rw [if_pos hlong]

/-- Opening a database is the one step that may end the program. It does not where the time to wait
can be set, whatever stands in the place of the file. -/
theorem reports_openDatabase (path : Path) {timeout : Nat} (h : timeout ≤ Tree.maxTimeout) :
    Reports (openDatabase path timeout) := by
  unfold openDatabase
  refine reports_get.bind fun tree => ?_
  split
  · exact reports_throw rfl
  · refine reports_get.bind fun tree => (reports_set _).bind fun _ => ?_
    split
    · exact reports_pure _
    · exact reports_throw rfl
    -- the one fault of opening that ends the program needs a longer time to wait
    · next hopened =>
      exact absurd (openAt_timeoutTooLong_iff.1 hopened) (Nat.not_lt.2 h)
    · exact reports_throw rfl

/-- With a time to wait that is too long, opening a database ends the program, wherever there is or
can be a file for it. -/
theorem openDatabase_ends {path : Path} {timeout : Nat} (h : Tree.maxTimeout < timeout)
    {tree : Tree} {place : Place} (hplace : tree.databasePlace? path = some place) :
    ((openDatabase path timeout).on tree).1 = .error .timeoutTooLong := by
  have hopened : (tree.openAt place timeout).1 = .error .timeoutTooLong :=
    openAt_timeoutTooLong_iff.2 h
  unfold Work.on openDatabase
  rw [run_bind, run_get]
  dsimp only
  rw [hplace]
  dsimp only
  rw [run_bind, run_get]
  dsimp only
  rw [run_bind, run_set]
  dsimp only
  rw [hopened]
  rfl

theorem reports_keepDatabase (place : Place) (database : Storage.Database) :
    Reports (keepDatabase place database) :=
  reports_modify _

section Timeout

variable {timeout : Nat} (h : timeout ≤ Tree.maxTimeout)

include h

/-- Migrating a database: its directory is made, it is opened, and how the migrations went is part
of the result and not a fault yet. -/
theorem reports_migrate (path : Path) : Reports (migrate path timeout) := by
  unfold migrate
  split
  · exact reports_throw rfl
  · exact (reports_makeDirectories _ rfl).bind fun _ => (reports_openDatabase path h).bind
      fun opened => (reports_keepDatabase _ _).bind fun _ => reports_pure _

/-- Here a migration that failed is a fault, and one that is reported. -/
theorem reports_migrateFully (path : Path) : Reports (migrateFully path timeout) :=
  (reports_migrate h path).bind fun _ => reports_ofExcept (fun _ => rfl) _

theorem reports_rowCounts (path : Path) : Reports (rowCounts path timeout) :=
  (reports_openDatabase path h).bind fun _ => reports_ofExcept (fun _ => rfl) _

end Timeout

/-- How many migrations are pending is asked with a time to wait of its own, not with that of the
configuration; so this reports its faults whatever the configuration says. -/
theorem reports_pendingCount (path : Path) : Reports (pendingCount path) := by
  unfold pendingCount
  refine reports_get.bind fun tree => ?_
  split
  · exact reports_pure _
  · exact (reports_openDatabase path (by decide)).bind fun opened =>
      (reports_keepDatabase _ _).bind fun _ => reports_ofExcept (fun _ => rfl) _

/-- Neither does the check in front of a task depend on the configuration's time to wait. -/
theorem reports_checkMigrated (layout : Layout) : Reports (checkMigrated layout) := by
  refine reports_forM fun path => (reports_pendingCount path).bind fun pending => ?_
  split
  · exact reports_throw rfl
  · exact reports_pure ()

/-- Looking at a project reports its faults with any configuration: the databases are opened only to
ask for the migrations that are pending. -/
theorem reports_inspect (layout : Layout) : Reports (inspect layout) := by
  unfold inspect
  refine reports_get.bind fun tree => ?_
  dsimp only
  split
  · exact ((reports_pendingCount _).map some).bind fun pending => reports_pure _
  · exact (reports_pure _).bind fun pending => reports_pure _

end Project

/-! ### Tasks -/

namespace CommandLine

open Project

variable {α : Type}

theorem reports_say (line : String) : Reports (Run.say line) := reports_modify _

/-- Work on files as part of a task. What it changed before a fault stays, as does the output. -/
theorem reports_work {work : Work α} (h : Reports work) : Reports (Run.work work) := by
  unfold Run.work
  refine reports_get.bind fun progress => ?_
  cases hrun : work.on progress.tree with
  | mk outcome tree =>
      refine (reports_set _).bind fun _ => ?_
      cases outcome with
      | ok result => exact reports_pure result
      | error fault =>
          exact reports_throw (h progress.tree fault (congrArg Prod.fst hrun))

theorem reports_sayDiagnostics (job : Job) (layout : Layout) :
    Reports (sayDiagnostics job layout) := by
  unfold sayDiagnostics
  split
  · exact reports_say _
  · exact reports_pure ()

theorem reports_sayMigrated (store : String) (report : Storage.MigrationReport) :
    Reports (sayMigrated store report) :=
  (reports_say _).bind fun _ => (reports_forM fun _ => reports_say _).bind fun _ => reports_say _

/-- An outcome whose fault is reported. -/
def Reported (outcome : Except Fault α) : Prop :=
  ∀ fault, outcome = .error fault → fault.endsProgram = false

theorem reports_liftExcept {outcome : Except Fault α} (h : Reported outcome) :
    Reports (acquire.liftExcept outcome) := by
  cases outcome with
  | ok result => exact reports_pure result
  | error fault => exact reports_throw (h fault rfl)

/-- Outcomes in sequence, as work in sequence. -/
theorem Reported.bind {β : Type} {outcome : Except Fault α} {next : α → Except Fault β}
    (h : Reported outcome) (hnext : ∀ result, Reported (next result)) :
    Reported (outcome >>= next) := by
  cases outcome with
  | ok result => exact hnext result
  | error fault =>
      intro other hother
      cases hother
      exact h fault rfl

theorem reported_ok (result : α) : Reported (.ok result) := fun _ h => nomatch h

theorem reported_error {fault : Fault} (h : fault.endsProgram = false) :
    Reported (.error fault : Except Fault α) := by
  intro other hother
  cases hother
  exact h

/-- A variable that should hold a number and does not is reported. -/
theorem reported_variableCount (environment : Environment) (key : String) :
    Reported (Config.variableCount environment key) := by
  unfold Config.variableCount
  split
  · exact reported_ok none
  · split
    · exact reported_ok _
    · exact reported_error rfl

/-- Four faults: a variable for either limit that is no number, and either limit being zero. -/
theorem reported_limits (config : Config) (environment : Environment) :
    Reported (config.limits environment) := by
  unfold Config.limits
  refine (reported_variableCount _ _).bind fun textBytes =>
    (reported_variableCount _ _).bind fun attempts => ?_
  dsimp only
  split
  · exact reported_error rfl
  · split
    · exact reported_error rfl
    · exact reported_ok _

theorem reported_readDocument (tree : Tree) (current file : Path) :
    Reported (readDocument tree current file) := by
  unfold readDocument
  split
  · exact reported_error rfl
  · split
    · exact reported_ok _
    · exact reported_error rfl

section Layout

variable {layout : Layout} (h : layout.config.busyTimeout ≤ Tree.maxTimeout)

include h

/-- A dialog with the stores, between opening the databases and keeping what they have become. A
fault of the dialog is reported like that of any other part of the library. -/
theorem reports_converse (dialog : Dialog α) : Reports (converse layout dialog) := by
  unfold converse
  refine (reports_openDatabase _ h).bind fun opened => ?_
  dsimp only
  split
  · exact ((reports_openDatabase _ h).map some).bind fun _ =>
      (reports_keepDatabase _ _).bind fun _ => reports_ofExcept (fun _ => rfl) _
  · exact (reports_pure none).bind fun _ =>
      (reports_keepDatabase _ _).bind fun _ => reports_ofExcept (fun _ => rfl) _

/-- The task that sets a project up: first the files, then the primary, then eight lines. -/
theorem reports_setUpTask (withConfig replacing : Bool) :
    Reports (setUp layout withConfig replacing) := by
  unfold setUp
  refine (reports_work (reports_setUp _ _ _)).bind fun setup => ?_
  refine (reports_work (reports_migrateFully h _)).bind fun report => ?_
  refine (reports_say _).bind fun _ => (reports_say _).bind fun _ => ?_
  refine (reports_say _).bind fun _ => (reports_say _).bind fun _ => ?_
  refine (reports_say _).bind fun _ => (reports_say _).bind fun _ => ?_
  refine (reports_say _).bind fun _ => (reports_say _).bind fun _ => ?_
  exact reports_sayMigrated _ _

/-- The task that migrates the primary, and the replica where it is a database of its own. -/
theorem reports_migrateTask : Reports (migrate layout) := by
  unfold migrate
  refine (reports_say _).bind fun _ => (reports_work (reports_migrateFully h _)).bind fun _ => ?_
  refine (reports_say _).bind fun _ => (reports_sayMigrated _ _).bind fun _ => ?_
  split
  · exact (reports_work (reports_migrateFully h _)).bind fun _ => (reports_say _).bind fun _ =>
      reports_sayMigrated _ _
  · exact reports_pure ()

/-- The task that shows how things stand. It opens the primary twice: once to ask for pending
migrations, and once to count rows, where it waits for as long as the configuration says. -/
theorem reports_showStats : Reports (showStats layout) := by
  unfold showStats
  refine (reports_work (reports_inspect layout)).bind fun status => ?_
  refine (reports_say _).bind fun _ => (reports_say _).bind fun _ => ?_
  refine (reports_say _).bind fun _ => (reports_say _).bind fun _ => ?_
  have hwarnings : Reports (if (!status.warnings.isEmpty) = true then do
      Run.say "warnings:"
      status.warnings.forM fun warning => Run.say ("  - " ++ warning.message)
    else pure () : Run Unit) := by
    split
    · exact (reports_say _).bind fun _ => reports_forM fun _ => reports_say _
    · exact reports_pure ()
  dsimp only
  split
  -- the lines about a replica come first, and then what is said without one too
  on_goal 1 => refine (reports_say _).bind fun _ => (reports_say _).bind fun _ => ?_
  all_goals
    split
    · exact (reports_say _).bind fun _ => hwarnings
    · exact (reports_work (reports_rowCounts h _)).bind fun _ =>
        (reports_forM fun _ => reports_say _).bind fun _ => hwarnings
    · exact (reports_say _).bind fun _ => hwarnings

theorem reports_acquire (setting : Setting) (file : Path) (asJson : Bool) :
    Reports (acquire setting layout file asJson) := by
  unfold acquire
  refine (reports_work (reports_checkMigrated layout)).bind fun _ => ?_
  refine (reports_liftExcept (reported_limits _ _)).bind fun limits => ?_
  refine reports_get.bind fun progress => ?_
  refine (reports_liftExcept (reported_readDocument _ _ _)).bind fun document => ?_
  refine (reports_work (reports_converse h _)).bind fun acquired => ?_
  split
  · exact reports_say _
  · exact (reports_say _).bind fun _ => (reports_say _).bind fun _ => (reports_say _).bind fun _ =>
      reports_forM fun _ => reports_say _

theorem reports_resolve (ids : List Int) (filter : ResolveFilter) (asJson : Bool) :
    Reports (resolve layout ids filter asJson) := by
  unfold resolve
  refine (reports_work (reports_checkMigrated layout)).bind fun _ => ?_
  refine (reports_work (reports_converse h _)).bind fun document => ?_
  split
  · exact reports_say _
  · exact (reports_say _).bind fun _ => (reports_say _).bind fun _ => (reports_say _).bind fun _ =>
      reports_forM fun _ => reports_say _

/-- Every task, and what is said after it. This is where the kinds of work come together; a new task
needs a lemma of its own above, and a case here. -/
theorem reports_carryOut (setting : Setting) (job : Job) :
    Reports (carryOut setting job layout) := by
  refine Reports.bind ?_ fun _ => reports_sayDiagnostics job layout
  cases job.task with
  | showHelp => exact reports_pure ()
  | setUp withConfig replacing => exact reports_setUpTask h withConfig replacing
  | migrate => exact reports_migrateTask h
  | showStats => exact reports_showStats h
  | acquire file asJson => exact reports_acquire h setting file asJson
  | resolve ids filter asJson => exact reports_resolve h ids filter asJson

end Layout

/-! ### Finding a project -/

/-- A configuration that is there may not be readable, or not be one, and both are reported. -/
theorem reported_load (tree : Tree) (path : Path) : Reported (Config.load tree path) := by
  unfold Config.load
  split
  · exact reported_ok _
  · split
    · exact reported_error rfl
    · split
      · exact reported_error rfl
      · exact reported_ok _

/-- Of all that makes a layout only the configuration can fail. -/
theorem reported_resolveLayout (tree : Tree) (environment : Environment) (overrides : Overrides)
    (current : Path) : Reported (Layout.resolve tree environment overrides current) :=
  (reported_load _ _).bind fun _ => reported_ok _

section Finding

variable {tree : Tree} {environment : Environment} {overrides : Overrides} {current : Path}

/-- Finding a project ends the program by nothing but a variable with a NUL. -/
theorem resolveFully_ends {fault : Fault}
    (h : Layout.resolveFully tree environment overrides current = .error fault)
    (hends : fault.endsProgram = true) : ∃ name, fault = .unfitVariable name := by
  -- the steps in their order: the nearest file of variables, a first configuration, the file in the
  -- root that this leads to, and the layout; the second and the last cannot end the program
  rw [Layout.resolveFully_eq] at h
  cases houter : Layout.outerEnvironment tree environment current with
  | error unfit =>
      rw [houter] at h
      cases h
      exact VariableFile.loadIfAny_fault houter
  | ok outer =>
      rw [houter] at h
      cases hload : Config.load tree
          (Layout.configChoice tree outer overrides current).path with
      | error unread =>
          simp only [bind, Except.bind, hload] at h
          cases h
          cases hends.symm.trans (reported_load _ _ _ hload)
      | ok config =>
          cases hinner : VariableFile.loadIfAny true
              (Layout.rootVariables? tree outer overrides current) outer with
          | error unfit =>
              simp only [bind, Except.bind, hload, hinner] at h
              cases h
              exact VariableFile.loadIfAny_fault hinner
          | ok inner =>
              simp only [bind, Except.bind, hload, hinner] at h
              have hreported := (reported_resolveLayout tree inner overrides current).bind
                (fun layout => reported_ok (inner, layout)) fault h
              cases hends.symm.trans hreported

/-- None of the files of variables that are read for a project holds a NUL. -/
structure NulFreeFiles (tree : Tree) (environment : Environment) (overrides : Overrides)
    (current : Path) : Prop where
  nearest : ∀ bytes, current.ancestors.findSome? (VariableFile.bytesIn? tree) = some bytes →
    0 ∉ bytes
  root : ∀ outer, Layout.outerEnvironment tree environment current = .ok outer → ∀ bytes,
    Layout.rootVariables? tree outer overrides current = some bytes → 0 ∉ bytes

/-- Where the files of variables have no NUL, no variable with a NUL comes up. -/
theorem reported_resolveFully (henvironment : environment.NulFree)
    (hfiles : NulFreeFiles tree environment overrides current) :
    Reported (Layout.resolveFully tree environment overrides current) := by
  obtain ⟨outer, houter, hfree⟩ :=
    VariableFile.loadIfAny_nulFree false henvironment hfiles.nearest
  obtain ⟨inner, hinner, -⟩ :=
    VariableFile.loadIfAny_nulFree true hfree (hfiles.root outer houter)
  have houter : Layout.outerEnvironment tree environment current = .ok outer := houter
  rw [Layout.resolveFully_eq, houter]
  refine (reported_load _ _).bind fun _ => ?_
  show Reported (VariableFile.loadIfAny true
    (Layout.rootVariables? tree outer overrides current) outer >>= _)
  rw [hinner]
  exact (reported_resolveLayout tree inner overrides current).bind fun _ => reported_ok _

end Finding

/-! ### Runs -/

/-- The run came to an end of its own: without a fault, or with a report of it. -/
def Outcome.Regular (outcome : Outcome) : Prop :=
  (outcome.fault = none ∧ (outcome.code = 0 ∨ outcome.code = 2)) ∨
    ∃ fault, outcome.fault = some fault ∧ outcome.code = 1 ∧
      outcome.report? = some ("Error: " ++ fault.message)

/-- A run ends regularly if what it performs does: help and words that are not understood end it
before there is anything to perform, with a code of their own. -/
theorem regular_run {setting : Setting} {tree : Tree} {words : List String}
    (h : ∀ levels, read words = .commands levels →
      Reported ((perform setting (.ofLevels levels)).run.run ⟨tree, ""⟩).1) :
    (run setting tree words).Regular := by
  unfold run
  split
  · exact Or.inl ⟨rfl, Or.inr rfl⟩
  · exact Or.inl ⟨rfl, Or.inl rfl⟩
  · next levels hread =>
    split
    · exact Or.inl ⟨rfl, Or.inl rfl⟩
    · next fault progress hrun =>
      have hfault := h levels hread fault (congrArg Prod.fst hrun)
      refine Or.inr ⟨fault, rfl, ?_, ?_⟩
      · unfold exitCode
        rw [hfault]
        rfl
      · unfold Outcome.report?
        dsimp only
        rw [hfault]
        rfl

/-- A project is found with this configuration, if it is found; and no variable with a NUL comes in
the way. -/
def FoundWith (config : Config) : Except Fault (Environment × Layout) → Prop
  | .ok (_, layout) => layout.config = config
  | .error fault => ∀ name, fault ≠ .unfitVariable name

/-- What a run performs once its words are read: showing help, which needs no project, or finding
the project and carrying out the task in it. A fault in finding it is reported unless it comes from
a variable with a NUL, and that is what `FoundWith` excludes. -/
theorem reported_perform {setting : Setting} {job : Job} {progress : Progress} {config : Config}
    (htimeout : config.busyTimeout ≤ Tree.maxTimeout)
    (hfound : FoundWith config (Layout.resolveFully progress.tree setting.environment
      job.overrides setting.current)) :
    Reported ((perform setting job).run.run progress).1 := by
  -- help is shown without looking for a project, so no configuration comes into it
  by_cases htask : job.task = .showHelp
  · unfold perform
    rw [htask]
    exact reports_say _ progress
  · rw [perform_eq htask]
    cases hresult : Layout.resolveFully progress.tree setting.environment job.overrides
        setting.current with
    | error fault =>
        rw [hresult] at hfound
        refine reported_error ?_
        cases hends : fault.endsProgram with
        | false => rfl
        | true =>
            obtain ⟨name, hname⟩ := resolveFully_ends hresult hends
            exact absurd hname (hfound name)
    | ok found =>
        rw [hresult] at hfound
        exact reports_carryOut (hfound ▸ htimeout) _ _ progress

/-- A configuration with a time to wait that can be set is usable: whatever the databases and
directories are, opening and migrating a database, looking at a project and every task end with a
result or a fault that is reported, and so does every run of the program that finds the
configuration, if no variable with a NUL comes in its way; a file of variables without a NUL has
none. With a longer time the opening of any database ends the program, where there is a file for it
or can be one. -/
theorem accepted_config_usable (config : Config) :
    (∀ layout, Reports (inspect layout)) ∧
    (config.busyTimeout ≤ Tree.maxTimeout →
      (∀ path, Reports (openDatabase path config.busyTimeout) ∧
        Reports (Project.migrate path config.busyTimeout) ∧
        Reports (migrateFully path config.busyTimeout)) ∧
      (∀ setting job layout, layout.config = config → Reports (carryOut setting job layout)) ∧
      ∀ setting tree words,
        (∀ levels, read words = .commands levels → FoundWith config
          (Layout.resolveFully tree setting.environment (Job.ofLevels levels).overrides
            setting.current)) →
        (run setting tree words).Regular) ∧
    (∀ tree environment overrides current, Environment.NulFree environment →
      NulFreeFiles tree environment overrides current →
      ∀ name, Layout.resolveFully tree environment overrides current ≠
        .error (.unfitVariable name)) ∧
    (Tree.maxTimeout < config.busyTimeout →
      ∀ path tree place, tree.databasePlace? path = some place →
        ((openDatabase path config.busyTimeout).on tree).1 = .error .timeoutTooLong) := by
  -- the three parts in the middle need a time to wait that can be set
  refine ⟨reports_inspect, fun htimeout => ⟨?_, ?_, ?_⟩, ?_, ?_⟩
  · intro path
    exact ⟨reports_openDatabase path htimeout, reports_migrate htimeout path,
      reports_migrateFully htimeout path⟩
  · rintro setting job layout rfl
    exact reports_carryOut htimeout setting job
  · intro setting tree words hfound
    exact regular_run fun levels hread => reported_perform htimeout (hfound levels hread)
  · intro tree environment overrides current henvironment hfiles name hname
    cases reported_resolveFully henvironment hfiles _ hname
  · intro hlong path tree place hplace
    exact openDatabase_ends hlong hplace

/-- A project in the root directory, of which there is nothing but the configuration. -/
def configured (text : String) : Tree :=
  (Tree.empty.put [".wbterms"] .directory).put [".wbterms", "config.toml"]
    (.file (Text.Utf8.encode text))

/-- The configuration that says how long to wait. -/
def waiting (timeout : Nat) : Config := { Config.empty with timeout := some timeout }

/-- The longest time to wait is usable, and a longer one is not. -/
theorem longest_timeout_usable :
    (run ⟨.empty, rootDirectory⟩ (configured "[store]\nbusy_timeout_ms = 2147483647\n")
        ["db", "migrate"]).Regular ∧
      ((openDatabase { pieces := ["", "terms.db"] } 2147483648).on Tree.empty).1 =
        .error .timeoutTooLong := by
  refine ⟨((accepted_config_usable (waiting 2147483647)).2.1 (by decide)).2.2 _ _ _ ?_,
    (accepted_config_usable (waiting 2147483648)).2.2.2 (by decide) _ _ ["terms.db"]
      (by decide +kernel)⟩
  intro levels hread
  have hlevels : read ["db", "migrate"] =
      .commands [(.program, .empty), (.db, .empty), (.migrate, .empty)] := by decide +kernel
  cases hlevels.symm.trans hread
  have hoverrides :
      (Job.ofLevels [(.program, .empty), (.db, .empty), (.migrate, .empty)]).overrides =
        .none := by decide +kernel
  have hfound : Layout.resolveFully (configured "[store]\nbusy_timeout_ms = 2147483647\n")
      .empty .none rootDirectory = .ok (.empty, Layout.withConfig
        (configured "[store]\nbusy_timeout_ms = 2147483647\n") .empty .none rootDirectory
        (waiting 2147483647)) := by
    decide +kernel
  rw [hoverrides, hfound]
  rfl

/-- A time to wait that is longer by a millisecond is read from a configuration like any other
one, and ends the program. -/
theorem longer_timeout_ends_program :
    Config.ofText? "[store]\nbusy_timeout_ms = 2147483648\n" = some (waiting 2147483648) ∧
      ¬ (run ⟨.empty, rootDirectory⟩ (configured "[store]\nbusy_timeout_ms = 2147483648\n")
        ["db", "migrate"]).Regular := by
  have hcode : (run ⟨.empty, rootDirectory⟩
      (configured "[store]\nbusy_timeout_ms = 2147483648\n") ["db", "migrate"]).code = 101 := by
    decide +kernel
  refine ⟨by decide +kernel, ?_⟩
  rintro (⟨-, hok | hok⟩ | ⟨fault, -, hone, -⟩)
  · cases hcode.symm.trans hok
  · cases hcode.symm.trans hok
  · cases hcode.symm.trans hone

end CommandLine

end TermStore
