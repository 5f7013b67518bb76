import TermStore.CommandLine.Run
import TermStore.Proofs.Maps

/-!
# The environment that counts

The paths of a project are chosen under the environment that the file of variables in the project's
root leaves. That file is found by a first layout, under the environment before it; so the
configuration that is selected there, provisionally, has to be one that can be loaded, although
nothing of it is used. Where it can, the final environment decides everything: the first layout
tells no more than the root, and no configuration has an influence on that.

That a configuration which is not selected has no influence is said by two file trees that differ
in its place only (`Tree.AgreeBut`): in one of them there may be a file and in the other one
another file or none. Only a path that leads to the place can tell them apart.
-/

namespace TermStore

open Files (Path Place Node Tree)

/-! ### Trees that differ in one place -/

namespace Files.Tree

variable {tree other : Tree} {place : Place} {path : Path}

/-- Two trees that differ at most in what stands at one place, which is no directory. -/
structure AgreeBut (tree other : Tree) (place : Place) : Prop where
  elsewhere : ∀ there, there ≠ place → tree.node? there = other.node? there
  noDirectory : tree.node? place ≠ some .directory
  noDirectory' : other.node? place ≠ some .directory

theorem AgreeBut.symm (h : tree.AgreeBut other place) : other.AgreeBut tree place :=
  ⟨fun there hthere => (h.elsewhere there hthere).symm, h.noDirectory', h.noDirectory⟩

/-- A path that leads past the place leads there in both trees: what is no directory lets no path
through. -/
theorem AgreeBut.follow (h : tree.AgreeBut other place) {here there : Place}
    {pieces : List String} (hthere : there ≠ place)
    (hfollow : tree.follow here pieces = .ok there) : other.follow here pieces = .ok there := by
  induction pieces generalizing here with
  | nil => exact hfollow
  | cons piece rest ih =>
      unfold Tree.follow at hfollow ⊢
      split at hfollow
      · next hhere =>
        have hne : here ≠ place := fun heq => h.noDirectory (heq ▸ hhere)
        rw [← h.elsewhere here hne, hhere]
        dsimp only
        by_cases hdot : (piece = "" || piece = ".") = true
        · rw [if_pos hdot] at hfollow ⊢
          exact ih hfollow
        rw [if_neg hdot] at hfollow ⊢
        by_cases hup : piece = ".."
        · rw [if_pos hup] at hfollow ⊢
          exact ih hfollow
        rw [if_neg hup] at hfollow ⊢
        split at hfollow
        · next node hnode =>
          have hnext : here ++ [piece] ≠ place := by
            intro heq
            rw [heq] at hfollow
            cases rest with
            | nil => exact hthere (Except.ok.inj hfollow).symm
            | cons piece rest =>
                unfold Tree.follow at hfollow
                split at hfollow
                · next hplace => exact h.noDirectory hplace
                · cases hfollow
          rw [← h.elsewhere _ hnext, hnode]
          exact ih hfollow
        · cases hfollow
      · cases hfollow

theorem AgreeBut.locate (h : tree.AgreeBut other place) {there : Place} (hthere : there ≠ place)
    (hlocate : tree.locate path = .ok there) : other.locate path = .ok there := by
  unfold Tree.locate locatePieces at hlocate ⊢
  split at hlocate
  · next hshort =>
    rw [if_pos hshort]
    split at hlocate
    · cases hlocate
    · next hpieces =>
      rw [if_neg hpieces]
      exact h.follow hthere hlocate
  · cases hlocate

/-- In neither of the trees the path leads to the place. -/
structure Misses (tree other : Tree) (place : Place) (path : Path) : Prop where
  left : tree.locate path ≠ .ok place
  right : other.locate path ≠ .ok place

theorem AgreeBut.find?_eq (h : tree.AgreeBut other place) (hpath : tree.Misses other place path) :
    tree.find? path = other.find? path := by
  unfold find?
  cases hlocate : tree.locate path with
  | ok there =>
      have hthere : there ≠ place := fun heq => hpath.left (heq ▸ hlocate)
      rw [h.locate hthere hlocate]
      exact h.elsewhere there hthere
  | error obstacle =>
      cases hlocate' : other.locate path with
      | ok there =>
          have hthere : there ≠ place := fun heq => hpath.right (heq ▸ hlocate')
          cases hlocate.symm.trans (h.symm.locate hthere hlocate')
      | error obstacle' => rfl

theorem isDirectory_iff :
    tree.isDirectory path = true ↔
      ∃ there, tree.locate path = .ok there ∧ tree.node? there = some .directory := by
  unfold isDirectory find?
  cases hlocate : tree.locate path with
  | error obstacle => simp
  | ok there =>
      simp only [Except.ok.injEq, exists_eq_left']
      constructor
      · intro h
        split at h
        · next hnode => exact hnode
        · cases h
      · intro h
        rw [h]

theorem AgreeBut.isDirectory (h : tree.AgreeBut other place)
    (hpath : tree.isDirectory path = true) : other.isDirectory path = true := by
  obtain ⟨there, hlocate, hnode⟩ := isDirectory_iff.1 hpath
  have hthere : there ≠ place := fun heq => h.noDirectory (heq ▸ hnode)
  exact isDirectory_iff.2 ⟨there, h.locate hthere hlocate, h.elsewhere there hthere ▸ hnode⟩

theorem AgreeBut.isDirectory_eq (h : tree.AgreeBut other place) (path : Path) :
    tree.isDirectory path = other.isDirectory path :=
  Bool.eq_iff_iff.2 ⟨h.isDirectory, h.symm.isDirectory⟩

end Files.Tree

namespace Project

variable {tree other : Tree} {environment outer inner : Environment} {overrides : Overrides}
  {current : Path} {place : Place} {layout : Layout}

/-! ### What finding a project reads of a tree -/

theorem chooseRoot_eq (h : tree.AgreeBut other place) (environment : Environment)
    (flag : Option Path) (current : Path) :
    chooseRoot tree environment flag current = chooseRoot other environment flag current := by
  unfold chooseRoot markedAncestor?
  simp only [h.isDirectory_eq]

theorem Config.load_eq (h : tree.AgreeBut other place) {path : Path}
    (hpath : tree.Misses other place path) : Config.load tree path = Config.load other path := by
  unfold Config.load Tree.contains Tree.readText?
  rw [h.find?_eq hpath]

theorem VariableFile.bytesIn?_eq (h : tree.AgreeBut other place) {directory : Path}
    (hpath : tree.Misses other place (directory.entry fileName)) :
    bytesIn? tree directory = bytesIn? other directory := by
  unfold bytesIn?
  rw [h.find?_eq hpath]

namespace Layout

/-- Loading the nearest file of variables reads no other file. -/
theorem outerEnvironment_eq (h : tree.AgreeBut other place)
    (hfiles : ∀ directory ∈ current.ancestors,
      tree.Misses other place (directory.entry VariableFile.fileName)) :
    outerEnvironment tree environment current = outerEnvironment other environment current := by
  have hbytes : ∀ directories : List Path,
      (∀ directory ∈ directories,
        tree.Misses other place (directory.entry VariableFile.fileName)) →
      directories.findSome? (VariableFile.bytesIn? tree) =
        directories.findSome? (VariableFile.bytesIn? other) := by
    intro directories hall
    induction directories with
    | nil => rfl
    | cons directory rest ih =>
        obtain ⟨hdirectory, hrest⟩ := List.forall_mem_cons.1 hall
        rw [List.findSome?_cons, List.findSome?_cons, VariableFile.bytesIn?_eq h hdirectory,
          ih hrest]
  unfold outerEnvironment
  rw [hbytes _ hfiles]

/-! ### One layout -/

/-- The choice of a configuration. -/
def configChoice (tree : Tree) (environment : Environment) (overrides : Overrides)
    (current : Path) : Choice :=
  let root := chooseRoot tree environment overrides.root current
  choosePath root.path environment overrides.config "WBTERMS_CONFIG" none
    ((Project.stateDirectory root.path).entry "config.toml")

/-- The layout that goes with a configuration. -/
def withConfig (tree : Tree) (environment : Environment) (overrides : Overrides) (current : Path)
    (config : Config) : Layout :=
  let root := chooseRoot tree environment overrides.root current
  let primary := choosePath root.path environment overrides.primary "WBTERMS_PRIMARY_DB"
    config.primary ((Project.dataDirectory root.path).entry "terms.db")
  ⟨root, configChoice tree environment overrides current, primary,
    choosePath root.path environment overrides.replica "WBTERMS_REPLICA_DB" config.replica
      primary.path, config⟩

/-- All that can go wrong with a layout is the loading of the configuration it selects. -/
theorem resolve_eq (tree : Tree) (environment : Environment) (overrides : Overrides)
    (current : Path) : resolve tree environment overrides current =
      (Config.load tree (configChoice tree environment overrides current).path).map
        (withConfig tree environment overrides current) := by
  unfold resolve
  show Except.bind (Config.load tree (configChoice tree environment overrides current).path) _ = _
  cases Config.load tree (configChoice tree environment overrides current).path <;> rfl

theorem configChoice_eq (h : tree.AgreeBut other place) :
    configChoice tree environment overrides current =
      configChoice other environment overrides current := by
  unfold configChoice
  rw [chooseRoot_eq h]

theorem resolve_agree (h : tree.AgreeBut other place)
    (hconfig : tree.Misses other place (configChoice tree environment overrides current).path) :
    resolve tree environment overrides current = resolve other environment overrides current := by
  rw [resolve_eq, resolve_eq, ← configChoice_eq h, Config.load_eq h hconfig]
  congr 1
  funext config
  unfold withConfig
  rw [chooseRoot_eq h, configChoice_eq h]

/-! ### The final layout -/

/-- The bytes of the file of variables in the root that an environment gives. -/
def rootVariables? (tree : Tree) (environment : Environment) (overrides : Overrides)
    (current : Path) : Option (List UInt8) :=
  VariableFile.bytesIn? tree (chooseRoot tree environment overrides.root current).path

/-- Of the first layout no more is used than that there is one. -/
theorem resolveFully_eq (tree : Tree) (environment : Environment) (overrides : Overrides)
    (current : Path) : resolveFully tree environment overrides current = do
      let outer ← outerEnvironment tree environment current
      let _ ← Config.load tree (configChoice tree outer overrides current).path
      let inner ← VariableFile.loadIfAny true (rootVariables? tree outer overrides current) outer
      let layout ← resolve tree inner overrides current
      return (inner, layout) := by
  unfold resolveFully
  congr 1
  funext outer
  rw [resolve_eq tree outer]
  cases Config.load tree (configChoice tree outer overrides current).path <;> rfl

/-- The layout under the final environment: `outer` is what the nearest file of variables leaves
of the environment, and `inner` what the one in the root that `outer` gives leaves of that. -/
structure Final (tree : Tree) (environment : Environment) (overrides : Overrides) (current : Path)
    (outer inner : Environment) (layout : Layout) : Prop where
  outer_eq : outerEnvironment tree environment current = .ok outer
  inner_eq : VariableFile.loadIfAny true (rootVariables? tree outer overrides current) outer =
    .ok inner
  layout_eq : resolve tree inner overrides current = .ok layout

/-- A project is found under the final environment, if the configuration that is selected before
it is final can be loaded. -/
theorem Final.resolveFully_eq (h : Final tree environment overrides current outer inner layout) :
    resolveFully tree environment overrides current =
      (Config.load tree (configChoice tree outer overrides current).path).map
        fun _ => (inner, layout) := by
  rw [Layout.resolveFully_eq, h.outer_eq]
  show Except.bind (Config.load tree (configChoice tree outer overrides current).path) _ = _
  rw [h.inner_eq]
  cases Config.load tree (configChoice tree outer overrides current).path with
  | error fault => rfl
  | ok config =>
      show Except.bind (resolve tree inner overrides current) _ = _
      rw [h.layout_eq]
      rfl

/-- The configuration of a layout was loaded. -/
theorem Final.load_eq (h : Final tree environment overrides current outer inner layout) :
    Config.load tree (configChoice tree inner overrides current).path = .ok layout.config := by
  have hlayout := h.layout_eq
  rw [resolve_eq] at hlayout
  cases hload : Config.load tree (configChoice tree inner overrides current).path with
  | error fault =>
      rw [hload] at hlayout
      cases hlayout
  | ok config =>
      rw [hload] at hlayout
      cases hlayout
      rfl

/-- A file that is no file of variables and not selected by the final environment may be another
one or none. -/
theorem Final.agree (h : Final tree environment overrides current outer inner layout)
    (hother : tree.AgreeBut other place)
    (hfiles : ∀ directory ∈
      (chooseRoot tree outer overrides.root current).path :: current.ancestors,
      tree.Misses other place (directory.entry VariableFile.fileName))
    (hconfig : tree.Misses other place (configChoice tree inner overrides current).path) :
    Final other environment overrides current outer inner layout := by
  obtain ⟨hroot, hancestors⟩ := List.forall_mem_cons.1 hfiles
  refine ⟨?_, ?_, ?_⟩
  · rw [← outerEnvironment_eq hother hancestors]
    exact h.outer_eq
  · unfold rootVariables?
    rw [← chooseRoot_eq hother, ← VariableFile.bytesIn?_eq hother hroot]
    exact h.inner_eq
  · rw [← resolve_agree hother hconfig]
    exact h.layout_eq

end Layout

end Project

/-! ### Tasks -/

namespace CommandLine

open Project (Config Environment Overrides Layout Fault)

variable {tree : Tree} {environment outer inner : Environment} {overrides : Overrides}
  {current : Path} {layout : Layout}

/-- Does a task for a project that was found. -/
def doTask (setting : Setting) (layout : Layout) : Task → Run Unit
  | .setUp withConfig replacing => setUp layout withConfig replacing
  | .migrate => migrate layout
  | .showStats => showStats layout
  | .acquire file asJson => acquire setting layout file asJson
  | .resolve ids filter asJson => resolve layout ids filter asJson
  | .showHelp => pure ()

/-- Does what a job asks for, for a project that was found. -/
def carryOut (setting : Setting) (job : Job) (layout : Layout) : Run Unit := do
  doTask setting layout job.task
  sayDiagnostics job layout

/-- A task is done for the project that is found, under the environment it is found with; where
none is found, nothing happens. -/
theorem perform_eq {setting : Setting} {job : Job} (htask : job.task ≠ .showHelp)
    (progress : Progress) :
    (perform setting job).run.run progress =
      match Layout.resolveFully progress.tree setting.environment job.overrides
        setting.current with
      | .error fault => (.error fault, progress)
      | .ok (environment, layout) =>
        (carryOut { setting with environment := environment } job layout).run.run progress := by
  obtain ⟨task, overrides, diagnostics⟩ := job
  have hget : ∀ next : Progress → Run Unit,
      ((get >>= next : Run Unit)).run.run progress = (next progress).run.run progress :=
    fun next => rfl
  unfold perform
  cases task with
  | showHelp => exact absurd rfl htask
  | _ =>
      simp only []
      rw [hget]
      cases Layout.resolveFully progress.tree setting.environment overrides setting.current <;> rfl

/-- What all tasks with some overrides find of a project: each of them is done with this environment
and layout, or each one ends with this fault before it did anything. -/
def TasksFind (tree : Tree) (environment : Environment) (overrides : Overrides) (current : Path)
    (found : Except Fault (Environment × Layout)) : Prop :=
  Layout.resolveFully tree environment overrides current = found ∧
    ∀ job : Job, job.overrides = overrides → job.task ≠ .showHelp → ∀ output,
      (perform ⟨environment, current⟩ job).run.run ⟨tree, output⟩ =
        match found with
        | .error fault => (.error fault, ⟨tree, output⟩)
        | .ok (inner, layout) => (carryOut ⟨inner, current⟩ job layout).run.run ⟨tree, output⟩

theorem tasksFind_resolveFully (tree : Tree) (environment : Environment) (overrides : Overrides)
    (current : Path) : TasksFind tree environment overrides current
      (Layout.resolveFully tree environment overrides current) := by
  refine ⟨rfl, ?_⟩
  rintro job rfl htask output
  exact perform_eq htask ⟨tree, output⟩

/-- Where the final environment gives a layout, all tasks are done with exactly that environment and
layout, if the configuration that is selected before the environment is final can be loaded; that
is so if it is the same one. Otherwise they end with the fault of loading it. A configuration that
the final environment does not select has no other influence: with another file in its place, or
none, the final environment and the layout are the same. -/
theorem tasks_use_final_layout
    (h : Layout.Final tree environment overrides current outer inner layout) :
    (∀ config,
      Config.load tree (Layout.configChoice tree outer overrides current).path = .ok config →
        TasksFind tree environment overrides current (.ok (inner, layout))) ∧
    (∀ fault,
      Config.load tree (Layout.configChoice tree outer overrides current).path = .error fault →
        TasksFind tree environment overrides current (.error fault)) ∧
    ((Layout.configChoice tree outer overrides current).path =
        (Layout.configChoice tree inner overrides current).path →
      TasksFind tree environment overrides current (.ok (inner, layout))) ∧
    ∀ other place, tree.AgreeBut other place →
      (∀ directory ∈
        (Project.chooseRoot tree outer overrides.root current).path :: current.ancestors,
        tree.Misses other place (directory.entry Project.VariableFile.fileName)) →
      tree.Misses other place (Layout.configChoice tree inner overrides current).path →
        Layout.Final other environment overrides current outer inner layout := by
  have hfind := tasksFind_resolveFully tree environment overrides current
  rw [h.resolveFully_eq] at hfind
  have hloaded : ∀ config,
      Config.load tree (Layout.configChoice tree outer overrides current).path = .ok config →
        TasksFind tree environment overrides current (.ok (inner, layout)) := by
    intro config hload
    rw [hload] at hfind
    exact hfind
  refine ⟨hloaded, ?_, ?_, ?_⟩
  · intro fault hload
    rw [hload] at hfind
    exact hfind
  · intro hsame
    exact hloaded layout.config (hsame ▸ h.load_eq)
  · intro other place hother hfiles hconfig
    exact h.agree hother hfiles hconfig

/-! ### A provisional configuration that is broken -/

/-- A project whose variables select the configuration `good.toml`, beside the usual one, which
holds some text. -/
def twoConfigs (usual : String) : Tree :=
  ((((Tree.empty.put ["proj"] .directory).put ["proj", ".wbterms"] .directory).put
    ["proj", ".wbterms", "config.toml"] (.file (Text.Utf8.encode usual))).put
    ["proj", ".env"] (.file (Text.Utf8.encode "WBTERMS_CONFIG=good.toml\n"))).put
    ["proj", "good.toml"] (.file [])

/-- The flag that names the project. -/
def projectFlag : Overrides := { Overrides.none with root := some { pieces := ["proj"] } }

/-- The root directory, where a command is started. -/
def rootDirectory : Path := ⟨["", ""], List.cons_ne_nil _ _⟩

/-- The environment that the variables of the project make. -/
def goodEnvironment : Environment := SortedMap.empty.put "WBTERMS_CONFIG" "good.toml"

/-- The layout under that environment. -/
def goodLayout : Layout :=
  Layout.withConfig (twoConfigs "") goodEnvironment projectFlag rootDirectory .empty

theorem final_twoConfigs {usual : String} (husual : usual = "" ∨ usual = "[store\n") :
    Layout.Final (twoConfigs usual) .empty projectFlag rootDirectory .empty goodEnvironment
      goodLayout := by
  rcases husual with rfl | rfl
  · exact ⟨by decide +kernel, by decide +kernel, by decide +kernel⟩
  · exact ⟨by decide +kernel, by decide +kernel, by decide +kernel⟩

/-- With a usual configuration that can be loaded the project is found with the selected one;
where the usual one is broken, all tasks fail with that. -/
theorem tasks_use_good_layout :
    TasksFind (twoConfigs "") .empty projectFlag rootDirectory
        (.ok (goodEnvironment, goodLayout)) ∧
      TasksFind (twoConfigs "[store\n") .empty projectFlag rootDirectory
        (.error (.notConfiguration { pieces := ["", "proj", ".wbterms", "config.toml"] })) :=
  ⟨(tasks_use_final_layout (final_twoConfigs (Or.inl rfl))).1 .empty (by decide +kernel),
    (tasks_use_final_layout (final_twoConfigs (Or.inr rfl))).2.1 _ (by decide +kernel)⟩

/-- A configuration that the final environment does not select can keep a project from being
found. -/
theorem unselected_config_refused :
    Layout.Final (twoConfigs "[store\n") .empty projectFlag rootDirectory .empty goodEnvironment
        goodLayout ∧
      ¬ ∃ found, Layout.resolveFully (twoConfigs "[store\n") .empty projectFlag rootDirectory =
        .ok found := by
  have hresult : Layout.resolveFully (twoConfigs "[store\n") .empty projectFlag rootDirectory =
      .error (.notConfiguration { pieces := ["", "proj", ".wbterms", "config.toml"] }) := by
    decide +kernel
  refine ⟨final_twoConfigs (Or.inr rfl), ?_⟩
  rintro ⟨found, hfound⟩
  rw [hresult] at hfound
  cases hfound

end CommandLine

end TermStore
