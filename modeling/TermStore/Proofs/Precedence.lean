import TermStore.Proofs.Layouts
import TermStore.Proofs.Paths
import Mathlib.Data.List.DropRight

/-!
# Which source counts

Each path of a project has sources that may name it (`Naming`): a flag, a variable with a value that
is not blank, for databases an entry of the configuration. The first of them that names a path is
the one that counts (`Chosen`), and a relative path is taken against the root, that of the root
itself against the current directory. What no source names is told by a default or, for the root,
by a search for the nearest marked directory (`Unnamed`).

A choice is told by the sources up to the one it comes from. So later sources have no influence on
it, and a replica that no source names is the primary.
-/

namespace TermStore.Project

open Files (Path Tree)
open CommandLine (projectFlag rootDirectory)

variable {tree : Tree} {environment : Environment} {overrides : Overrides} {current : Path}
  {layout : Layout}

/-! ### Blank values -/

/-- Of a text nothing is left without the blanks at its ends if all of it is blank. -/
theorem isEmpty_trim_iff (value : String) :
    (Text.trim value).isEmpty = true ↔ ∀ c ∈ value.toList, Text.isBlank c = true := by
  have htrim : (Text.trim value).isEmpty = true ↔
      List.rdropWhile Text.isBlank (value.toList.dropWhile Text.isBlank) = [] := by
    rw [String.isEmpty_iff, ← String.toList_inj, Text.trim, String.toList_ofList]
    rfl
  rw [htrim, List.rdropWhile_eq_nil_iff]
  constructor
  · intro h c hc
    rw [← List.takeWhile_append_dropWhile (p := Text.isBlank) (l := value.toList)] at hc
    rcases List.mem_append.1 hc with hc | hc
    · exact List.mem_takeWhile_imp hc
    · exact h c hc
  · intro h c hc
    exact h c ((List.dropWhile_sublist _).subset hc)

/-! ### Sources and their order -/

/-- The place of a source in the order in which sources count. -/
def Source.rank : Source → Nat
  | .flag => 0
  | .environment => 1
  | .config => 2
  | .search => 3
  | .default => 4

/-- What the sources of a path hold: a flag, the value of a variable, an entry of the
configuration. -/
structure Naming where
  flag : Option Path
  environment : Option String
  config : Option String

/-- A source names a path. A variable does with a value that is not blank, without the blanks
around it. -/
inductive Naming.Names (naming : Naming) : Source → Path → Prop
  | flag {path : Path} (h : naming.flag = some path) : Names naming .flag path
  | environment {value : String} (h : naming.environment = some value)
      (hblank : ∃ c ∈ value.toList, Text.isBlank c = false) :
      Names naming .environment (.ofText (Text.trim value))
  | config {value : String} (h : naming.config = some value) : Names naming .config (.ofText value)

/-- No source names a path. -/
def Naming.Silent (naming : Naming) : Prop := ∀ source path, ¬ naming.Names source path

/-- The choice is the path of the first source that names one, taken against a base; where no source
does, it is one of the choices that are told otherwise. -/
inductive Chosen (base : Path) (naming : Naming) (otherwise : Choice → Prop) : Choice → Prop
  | named {source : Source} {path : Path} (h : naming.Names source path)
      (hfirst : ∀ earlier, earlier.rank < source.rank → ∀ path, ¬ naming.Names earlier path) :
      Chosen base naming otherwise ⟨base.join path, source⟩
  | otherwise {choice : Choice} (h : naming.Silent) (hchoice : otherwise choice) :
      Chosen base naming otherwise choice

/-- Two namings are the same up to a source. -/
def Naming.AgreeUpTo (naming other : Naming) (source : Source) : Prop :=
  ∀ earlier, earlier.rank ≤ source.rank →
    ∀ path, naming.Names earlier path ↔ other.Names earlier path

theorem Naming.Names.unique {naming : Naming} {source : Source} {path other : Path}
    (h : naming.Names source path) (hother : naming.Names source other) : path = other := by
  cases h with
  | flag h =>
      cases hother with
      | flag hother => exact Option.some.inj (h.symm.trans hother)
  | environment h =>
      cases hother with
      | environment hother => rw [Option.some.inj (h.symm.trans hother)]
  | config h =>
      cases hother with
      | config hother => rw [Option.some.inj (h.symm.trans hother)]

theorem Source.rank_le_default (source : Source) : source.rank ≤ Source.default.rank := by
  cases source <;> decide

theorem Source.eq_of_rank_eq {source other : Source} (h : source.rank = other.rank) :
    source = other := by
  cases source <;> cases other <;> first | rfl | cases h

/-- What a source names is chosen whatever the sources after it hold. -/
theorem Chosen.eq_of_named {base : Path} {naming other : Naming} {otherwise others : Choice → Prop}
    {choice choice' : Choice} {path : Path} (h : Chosen base naming otherwise choice)
    (hother : Chosen base other others choice') (hnamed : naming.Names choice.source path)
    (hagree : naming.AgreeUpTo other choice.source) : choice' = choice := by
  cases h with
  | otherwise hsilent => exact absurd hnamed (hsilent _ _)
  | @named source path hnames hfirst =>
      have hnames' := (hagree source (Nat.le_refl _) path).1 hnames
      cases hother with
      | otherwise hsilent => exact absurd hnames' (hsilent _ _)
      | @named source' path' hnames'' hfirst' =>
          -- neither of the two sources can stand before the other one
          have hrank : source'.rank = source.rank := by
            rcases Nat.lt_trichotomy source'.rank source.rank with hlt | heq | hlt
            · exact absurd ((hagree source' (Nat.le_of_lt hlt) path').2 hnames'')
                (hfirst source' hlt path')
            · exact heq
            · exact absurd hnames' (hfirst' source hlt path)
          obtain rfl := Source.eq_of_rank_eq hrank
          rw [hnames''.unique hnames']

/-- A choice is the same whatever the sources after its own hold, a default included. -/
theorem Chosen.eq_of_agree {base : Path} {naming other : Naming}
    {rest rest' choice choice' : Choice}
    (h : Chosen base naming (· = rest) choice) (hother : Chosen base other (· = rest') choice')
    (hrest : rest.source = .default) (hagree : naming.AgreeUpTo other choice.source)
    (hsame : choice.source = .default → rest' = rest) : choice' = choice := by
  have hchosen := h
  cases h with
  | named hnames => exact hchosen.eq_of_named hother hnames hagree
  | otherwise hsilent hchoice =>
      subst hchoice
      have hsilent' : other.Silent := by
        intro source path hnames
        refine hsilent source path ((hagree source ?_ path).2 hnames)
        rw [hrest]
        exact source.rank_le_default
      cases hother with
      | named hnames => exact absurd hnames (hsilent' _ _)
      | otherwise _ hchoice' => rw [hchoice', hsame hrest]

/-- Where no source names a path, what is told otherwise is chosen. -/
theorem Chosen.of_silent {base : Path} {naming : Naming} {otherwise : Choice → Prop}
    {choice : Choice} (h : Chosen base naming otherwise choice) (hsilent : naming.Silent) :
    otherwise choice := by
  cases h with
  | named hnames => exact absurd hnames (hsilent _ _)
  | otherwise _ hchoice => exact hchoice

/-- What is chosen with an absolute base is absolute, if what is told otherwise is. -/
theorem Chosen.isAbsolute {base : Path} {naming : Naming} {otherwise : Choice → Prop}
    {choice : Choice} (h : Chosen base naming otherwise choice) (hbase : base.isAbsolute = true)
    (hotherwise : ∀ other, otherwise other → other.path.isAbsolute = true) :
    choice.path.isAbsolute = true := by
  cases h with
  | named => exact Path.isAbsolute_join hbase _
  | otherwise _ hchoice => exact hotherwise choice hchoice

/-! ### The sources of the paths of a project -/

theorem trimmed?_eq_some_iff {key trimmed : String} :
    environment.trimmed? key = some trimmed ↔ ∃ value, environment.get? key = some value ∧
      (∃ c ∈ value.toList, Text.isBlank c = false) ∧ Text.trim value = trimmed := by
  unfold Environment.trimmed?
  cases environment.get? key with
  | none => simp
  | some value =>
      have hblank : (∃ c ∈ value.toList, Text.isBlank c = false) ↔
          ¬ (Text.trim value).isEmpty = true := by
        rw [isEmpty_trim_iff]
        simp
      simp only [Option.some.injEq, exists_eq_left']
      rw [hblank]
      split
      · next hempty => simp [hempty]
      · next hnot => simp [hnot]

/-- The sources of a path that a flag, a variable and an entry of the configuration may name. -/
def naming (environment : Environment) (flag : Option Path) (key : String)
    (configured : Option String) : Naming :=
  ⟨flag, environment.get? key, configured⟩

/-- The sources of the root. -/
def rootNaming (environment : Environment) (overrides : Overrides) : Naming :=
  naming environment overrides.root "WBTERMS_PROJECT_ROOT" none

/-- The sources of the configuration's path. -/
def configNaming (environment : Environment) (overrides : Overrides) : Naming :=
  naming environment overrides.config "WBTERMS_CONFIG" none

/-- The sources of the primary. -/
def primaryNaming (environment : Environment) (overrides : Overrides) (config : Config) : Naming :=
  naming environment overrides.primary "WBTERMS_PRIMARY_DB" config.primary

/-- The sources of the replica. -/
def replicaNaming (environment : Environment) (overrides : Overrides) (config : Config) : Naming :=
  naming environment overrides.replica "WBTERMS_REPLICA_DB" config.replica

section Choices

variable {flag : Option Path} {key : String} {configured : Option String} {base : Path}
  {otherwise : Choice → Prop}

theorem chosen_flag {path : Path} (hflag : flag = some path) :
    Chosen base (naming environment flag key configured) otherwise ⟨base.join path, .flag⟩ :=
  .named (.flag hflag) fun _ hrank => absurd hrank (Nat.not_lt_zero _)

theorem chosen_environment {value : String} (hflag : flag = none)
    (hvariable : environment.trimmed? key = some value) :
    Chosen base (naming environment flag key configured) otherwise
      ⟨base.join (.ofText value), .environment⟩ := by
  obtain ⟨whole, hwhole, hblank, rfl⟩ := trimmed?_eq_some_iff.1 hvariable
  refine .named (.environment hwhole hblank) fun earlier hrank path hnames => ?_
  cases hnames with
  | flag h => exact Option.some_ne_none _ (h.symm.trans hflag)
  | environment => exact Nat.lt_irrefl _ hrank
  | config => exact absurd hrank (by decide)

theorem chosen_config {value : String} (hflag : flag = none)
    (hvariable : environment.trimmed? key = none) (hconfigured : configured = some value) :
    Chosen base (naming environment flag key configured) otherwise
      ⟨base.join (.ofText value), .config⟩ := by
  refine .named (.config hconfigured) fun earlier hrank path hnames => ?_
  cases hnames with
  | flag h => exact Option.some_ne_none _ (h.symm.trans hflag)
  | environment h hblank =>
      have hvalue := trimmed?_eq_some_iff.2 ⟨_, h, hblank, rfl⟩
      exact Option.some_ne_none _ (hvalue.symm.trans hvariable)
  | config => exact Nat.lt_irrefl _ hrank

theorem silent_naming (hflag : flag = none) (hvariable : environment.trimmed? key = none)
    (hconfigured : configured = none) : (naming environment flag key configured).Silent := by
  intro source path hnames
  cases hnames with
  | flag h => exact Option.some_ne_none _ (h.symm.trans hflag)
  | environment h hblank =>
      have hvalue := trimmed?_eq_some_iff.2 ⟨_, h, hblank, rfl⟩
      exact Option.some_ne_none _ (hvalue.symm.trans hvariable)
  | config h => exact Option.some_ne_none _ (h.symm.trans hconfigured)

/-- A path is chosen from its first source, or its default is. -/
theorem chosen_choosePath (base : Path) (environment : Environment) (flag : Option Path)
    (key : String) (configured : Option String) (rest : Path) :
    Chosen base (naming environment flag key configured) (· = ⟨rest, .default⟩)
      (choosePath base environment flag key configured rest) := by
  unfold choosePath
  cases hflag : flag with
  | some path => exact chosen_flag rfl
  | none =>
      cases hvariable : environment.trimmed? key with
      | some value => exact chosen_environment rfl hvariable
      | none =>
          cases hconfigured : configured with
          | some value => exact chosen_config rfl hvariable rfl
          | none => exact .otherwise (silent_naming rfl hvariable rfl) rfl

end Choices

/-- The root that no source names: the nearest directory with a marker from the current one
outwards, or the current one where there is none. -/
inductive FoundRoot (tree : Tree) (current : Path) : Choice → Prop
  | search {root : Path} (habove : current.Above root)
      (hmarked : tree.isDirectory (stateDirectory root) = true)
      (hnearest : ∀ other, current.Above other →
        tree.isDirectory (stateDirectory other) = true → root.Above other) :
      FoundRoot tree current ⟨root, .search⟩
  | default (hnone : ∀ other, current.Above other →
      tree.isDirectory (stateDirectory other) = false) :
      FoundRoot tree current ⟨current, .default⟩

/-- The root is chosen from its first source, or it is found. -/
theorem chosen_chooseRoot (tree : Tree) (environment : Environment) (overrides : Overrides)
    (current : Path) : Chosen current (rootNaming environment overrides) (FoundRoot tree current)
      (chooseRoot tree environment overrides.root current) := by
  unfold chooseRoot rootNaming
  cases hflag : overrides.root with
  | some path => exact chosen_flag rfl
  | none =>
      cases hvariable : environment.trimmed? "WBTERMS_PROJECT_ROOT" with
      | some value => exact chosen_environment rfl hvariable
      | none =>
          refine .otherwise (silent_naming rfl hvariable rfl) ?_
          cases hfound : markedAncestor? tree current with
          | some root =>
              obtain ⟨habove, hmarked, hnearest⟩ := Path.find?_ancestors hfound
              exact .search habove hmarked hnearest
          | none =>
              refine .default fun other hother => Bool.eq_false_iff.2 ?_
              exact List.find?_eq_none.1 hfound other (Path.mem_ancestors_iff.2 hother)

/-! ### Layouts -/

namespace Layout

theorem of_resolve (h : resolve tree environment overrides current = .ok layout) :
    Config.load tree (configChoice tree environment overrides current).path = .ok layout.config ∧
      layout = withConfig tree environment overrides current layout.config := by
  rw [resolve_eq] at h
  cases hload : Config.load tree (configChoice tree environment overrides current).path with
  | error fault =>
      rw [hload] at h
      cases h
  | ok config =>
      rw [hload] at h
      cases h
      exact ⟨rfl, rfl⟩

/-- The paths of a layout come from their first sources, or else from their defaults; relative ones
are taken against the root, and all are absolute. -/
structure Precedence (tree : Tree) (environment : Environment) (overrides : Overrides)
    (current : Path) (layout : Layout) : Prop where
  current_isBase : current.IsBase
  root : Chosen current (rootNaming environment overrides) (FoundRoot tree current) layout.root
  root_isBase : layout.root.path.IsBase
  configPath : Chosen layout.root.path (configNaming environment overrides)
    (· = ⟨(Project.stateDirectory layout.root.path).entry "config.toml", .default⟩)
    layout.configPath
  configPath_isAbsolute : layout.configPath.path.isAbsolute = true
  config : Config.load tree layout.configPath.path = .ok layout.config
  primary : Chosen layout.root.path (primaryNaming environment overrides layout.config)
    (· = ⟨(Project.dataDirectory layout.root.path).entry "terms.db", .default⟩) layout.primary
  primary_isAbsolute : layout.primary.path.isAbsolute = true
  replica : Chosen layout.root.path (replicaNaming environment overrides layout.config)
    (· = ⟨layout.primary.path, .default⟩) layout.replica
  replica_isAbsolute : layout.replica.path.isAbsolute = true

theorem precedence (hcurrent : current.isAbsolute = true)
    (h : resolve tree environment overrides current = .ok layout) :
    Precedence tree environment overrides current layout := by
  obtain ⟨hload, hlayout⟩ := of_resolve h
  generalize layout.config = config at hload hlayout
  subst hlayout
  have hroot : (chooseRoot tree environment overrides.root current).path.isAbsolute = true := by
    refine (chosen_chooseRoot tree environment overrides current).isAbsolute hcurrent ?_
    intro other hfound
    cases hfound with
    | search habove => exact Path.isAbsolute_of_above hcurrent habove
    | default => exact hcurrent
  have hstate := Path.isAbsolute_join hroot { pieces := [markerName] }
  have hdata := Path.isAbsolute_join hstate { pieces := ["data"] }
  have hconfig := chosen_choosePath (chooseRoot tree environment overrides.root current).path
    environment overrides.config "WBTERMS_CONFIG" none
    ((Project.stateDirectory (chooseRoot tree environment overrides.root current).path).entry
      "config.toml")
  have hprimary := chosen_choosePath (chooseRoot tree environment overrides.root current).path
    environment overrides.primary "WBTERMS_PRIMARY_DB" config.primary
    ((Project.dataDirectory (chooseRoot tree environment overrides.root current).path).entry
      "terms.db")
  have hprimaryAbsolute := hprimary.isAbsolute hroot fun other hother => by
    rw [hother]
    exact Path.isAbsolute_join hdata _
  have hreplica := chosen_choosePath (chooseRoot tree environment overrides.root current).path
    environment overrides.replica "WBTERMS_REPLICA_DB" config.replica
    (withConfig tree environment overrides current config).primary.path
  exact
    { current_isBase := Path.isBase_of_isAbsolute hcurrent
      root := chosen_chooseRoot tree environment overrides current
      root_isBase := Path.isBase_of_isAbsolute hroot
      configPath := hconfig
      configPath_isAbsolute := hconfig.isAbsolute hroot fun other hother => by
        rw [hother]
        exact Path.isAbsolute_join hstate _
      config := hload
      primary := hprimary
      primary_isAbsolute := hprimaryAbsolute
      replica := hreplica
      replica_isAbsolute := hreplica.isAbsolute hroot fun other hother => by
        rw [hother]
        exact hprimaryAbsolute }

/-- A second layout, of other inputs, has the same paths as far as their sources are the same up to
the ones that count; what replaces a replica that no source names is the primary. -/
structure SameChoices (environment : Environment) (overrides : Overrides) (layout : Layout)
    (environment' : Environment) (overrides' : Overrides) (layout' : Layout) : Prop where
  configPath : (configNaming environment overrides).AgreeUpTo
    (configNaming environment' overrides') layout.configPath.source →
      layout'.configPath = layout.configPath
  primary : (primaryNaming environment overrides layout.config).AgreeUpTo
    (primaryNaming environment' overrides' layout'.config) layout.primary.source →
      layout'.primary = layout.primary
  replica : (replicaNaming environment overrides layout.config).AgreeUpTo
    (replicaNaming environment' overrides' layout'.config) layout.replica.source →
      (layout.replica.source = .default → layout'.primary.path = layout.primary.path) →
        layout'.replica = layout.replica

theorem Precedence.sameChoices {tree' : Tree} {environment' : Environment}
    {overrides' : Overrides} {current' : Path} {layout' : Layout}
    (h : Precedence tree environment overrides current layout)
    (h' : Precedence tree' environment' overrides' current' layout')
    (hroot : layout'.root.path = layout.root.path) :
    SameChoices environment overrides layout environment' overrides' layout' where
  configPath hagree := by
    have hconfig := h'.configPath
    rw [hroot] at hconfig
    exact h.configPath.eq_of_agree hconfig rfl hagree fun _ => rfl
  primary hagree := by
    have hprimary := h'.primary
    rw [hroot] at hprimary
    exact h.primary.eq_of_agree hprimary rfl hagree fun _ => rfl
  replica hagree hsame := by
    have hreplica := h'.replica
    rw [hroot] at hreplica
    exact h.replica.eq_of_agree hreplica rfl hagree fun hdefault => by rw [hsame hdefault]

/-- Each path of a layout comes from its flag, or else from its variable unless that is blank, or
else, if it is a database, from the configuration that was loaded, or else from its default, and
tells so; it is taken against the root, the root itself against the current directory, and is
absolute. Sources behind the one that counts have no influence on a path, and where no source names
a replica there is none. -/
theorem resolve_precedence (hcurrent : current.isAbsolute = true)
    (h : resolve tree environment overrides current = .ok layout) :
    Precedence tree environment overrides current layout ∧
    (∀ tree' environment' overrides' current' layout', Path.isAbsolute current' = true →
      resolve tree' environment' overrides' current' = .ok layout' →
      layout'.root.path = layout.root.path →
        SameChoices environment overrides layout environment' overrides' layout') ∧
    (∀ tree' environment' overrides' layout' path,
      resolve tree' environment' overrides' current = .ok layout' →
      (rootNaming environment overrides).Names layout.root.source path →
      (rootNaming environment overrides).AgreeUpTo (rootNaming environment' overrides')
        layout.root.source →
        layout'.root = layout.root) ∧
    ((replicaNaming environment overrides layout.config).Silent → layout.hasReplica = false) := by
  have hprecedence := precedence hcurrent h
  refine ⟨hprecedence, ?_, ?_, ?_⟩
  · intro tree' environment' overrides' current' layout' hcurrent' h' hroot
    exact hprecedence.sameChoices (precedence hcurrent' h') hroot
  · intro tree' environment' overrides' layout' path h' hnamed hagree
    exact hprecedence.root.eq_of_named (precedence hcurrent h').root hnamed hagree
  · intro hsilent
    have hreplica : layout.replica = ⟨layout.primary.path, .default⟩ :=
      hprecedence.replica.of_silent hsilent
    simp [hasReplica, hreplica, Path.sameAs]

/-- A project with a configuration that names both databases. -/
def namedDatabases : Tree :=
  (((Tree.empty.put ["proj"] .directory).put ["proj", "sub"] .directory).put
    ["proj", ".wbterms"] .directory).put ["proj", ".wbterms", "config.toml"]
    (.file (Text.Utf8.encode
      "[store]\nprimary_db = \"primary.db\"\nreplica_db = \"/replica.db\"\n"))

/-- A directory below that project's. -/
def subdirectory : Path := { pieces := ["", "proj", "sub"] }

/-- A variable with blanks around its value, and one whose value is blank. -/
def blankReplica : Environment :=
  (SortedMap.empty.put "WBTERMS_PRIMARY_DB" " other.db ").put "WBTERMS_REPLICA_DB" " "

/-- The layout of the project under these variables. -/
def blankReplicaLayout : Layout where
  root := ⟨{ pieces := ["", "proj"] }, .search⟩
  configPath := ⟨{ pieces := ["", "proj", ".wbterms", "config.toml"] }, .default⟩
  primary := ⟨{ pieces := ["", "proj", "other.db"] }, .environment⟩
  replica := ⟨{ pieces := ["", "replica.db"] }, .config⟩
  config := { Config.empty with primary := some "primary.db", replica := some "/replica.db" }

/-- The flags that name the project and a primary. -/
def primaryFlag : Overrides := { projectFlag with primary := some { pieces := ["flag.db"] } }

/-- The layout of the project under these flags, without variables. -/
def primaryFlagLayout : Layout :=
  { blankReplicaLayout with
    root := ⟨{ pieces := ["", "proj"] }, .flag⟩
    primary := ⟨{ pieces := ["", "proj", "flag.db"] }, .flag⟩ }

/-- The primary comes from its variable and the replica from the configuration. The replica is the
same where the root and the primary are given by flags. -/
theorem resolve_precedence_blankReplica :
    resolve namedDatabases blankReplica .none subdirectory = .ok blankReplicaLayout ∧
    Precedence namedDatabases blankReplica .none subdirectory blankReplicaLayout ∧
    resolve namedDatabases .empty primaryFlag rootDirectory = .ok primaryFlagLayout ∧
    primaryFlagLayout.replica = blankReplicaLayout.replica := by
  have hblank : resolve namedDatabases blankReplica .none subdirectory =
      .ok blankReplicaLayout := by decide +kernel
  have hflag : resolve namedDatabases .empty primaryFlag rootDirectory =
      .ok primaryFlagLayout := by decide +kernel
  obtain ⟨hprecedence, hsame, -, -⟩ := resolve_precedence (by decide) hblank
  refine ⟨hblank, hprecedence, hflag, ?_⟩
  refine (hsame _ _ _ _ _ (by decide) hflag rfl).replica ?_ fun hdefault => by cases hdefault
  have hvalue : blankReplica.get? "WBTERMS_REPLICA_DB" = some " " := by decide +kernel
  have hnone : (SortedMap.empty : Environment).get? "WBTERMS_REPLICA_DB" = none := rfl
  -- the blank variable names nothing, and neither does one that is not there
  intro earlier _ path
  constructor
  · intro hnames
    cases hnames with
    | flag h => exact nomatch h
    | environment h hnot =>
        rw [← Option.some.inj (hvalue.symm.trans h)] at hnot
        obtain ⟨c, hc, hnot⟩ := hnot
        rw [(isEmpty_trim_iff " ").1 (by decide +kernel) c hc] at hnot
        cases hnot
    | config h => exact .config h
  · intro hnames
    cases hnames with
    | flag h => exact nomatch h
    | environment h => exact absurd (h.symm.trans hnone) (Option.some_ne_none _)
    | config h => exact .config h

end Layout

end TermStore.Project
