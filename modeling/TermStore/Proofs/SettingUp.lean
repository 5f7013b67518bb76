import TermStore.Proofs.Decoding
import TermStore.Proofs.Endings
import TermStore.Proofs.Precedence
import TermStore.Proofs.Trees
import Mathlib.Data.List.Find

/-!
# Setting a project up

A project that is set up is found again with the same paths and settings: its configuration says
what held without it, and its root is marked now. Nothing is left to do then, so setting it up
again changes nothing (`Layout.Ready`), also when the configuration was edited.

New directories may change what a search for the root finds. The only one of them that a search can
pass is the one for the databases, where the root is marked already; so a search finds something
else only from a current directory that leads through that one and up again.
-/

namespace TermStore

open Files (Path Place Tree)

namespace Project

variable {α β : Type} {tree after : Tree} {environment : Environment} {overrides : Overrides}
  {current path : Path} {paths made : List Path} {layout again : Layout} {replacing : Bool}

/-! ### Work that ends with a result -/

theorem on_bind_eq_ok_iff {work : Work α} {next : α → Work β} {result : β} :
    (work >>= next).on tree = (.ok result, after) ↔ ∃ middle between,
      work.on tree = (.ok middle, between) ∧ (next middle).on between = (.ok result, after) := by
  have hrun := run_bind work next tree
  unfold Work.on
  rw [hrun]
  cases hwork : StateT.run work.run tree with
  | mk outcome between =>
      cases outcome with
      | ok middle => simp
      | error fault => simp

theorem on_get_eq_ok_iff {result : Tree} :
    (get : Work Tree).on tree = (.ok result, after) ↔ result = tree ∧ after = tree := by
  show ((.ok tree, tree) : Except Fault Tree × Tree) = (.ok result, after) ↔ _
  simp [eq_comm]

theorem on_set_eq_ok_iff {later : Tree} {result : Unit} :
    (set later : Work Unit).on tree = (.ok result, after) ↔ after = later := by
  show ((.ok (), later) : Except Fault Unit × Tree) = (.ok result, after) ↔ _
  simp [eq_comm]

theorem on_pure_eq_ok_iff {value result : α} :
    (pure value : Work α).on tree = (.ok result, after) ↔ result = value ∧ after = tree := by
  show ((.ok value, tree) : Except Fault α × Tree) = (.ok result, after) ↔ _
  simp [eq_comm]

theorem on_throw_ne_ok {fault : Fault} {result : α} :
    ¬ (throw fault : Work α).on tree = (.ok result, after) := fun h => nomatch h

theorem on_makeDirectories_eq_ok_iff {fault : Fault} {result : Unit} :
    (Work.makeDirectories path fault).on tree = (.ok result, after) ↔
      tree.makeDirectories path = (true, after) := by
  rw [Work.makeDirectories, on_bind_eq_ok_iff]
  simp only [on_get_eq_ok_iff, exists_eq_left, and_assoc, exists_and_left]
  cases tree.makeDirectories path with
  | mk made later =>
      cases made with
      | false => simp [on_bind_eq_ok_iff, on_throw_ne_ok]
      | true =>
          simp only [on_bind_eq_ok_iff, on_set_eq_ok_iff, on_pure_eq_ok_iff, if_true, Prod.mk.injEq,
            true_and, exists_eq_left, exists_const]
          exact eq_comm

/-- A directory that is there is passed over; another one is made before those behind it. -/
theorem on_makeMissing_cons_eq_ok_iff :
    (makeMissing (path :: paths)).on tree = (.ok made, after) ↔
      (tree.contains path = true ∧ (makeMissing paths).on tree = (.ok made, after)) ∨
      (tree.contains path = false ∧ ∃ between, tree.makeDirectories path = (true, between) ∧
        ∃ rest, (makeMissing paths).on between = (.ok rest, after) ∧ made = path :: rest) := by
  rw [makeMissing, on_bind_eq_ok_iff]
  simp only [on_get_eq_ok_iff, exists_eq_left, and_assoc, exists_and_left]
  cases tree.contains path with
  | true => simp
  | false =>
      simp only [on_bind_eq_ok_iff, on_makeDirectories_eq_ok_iff, on_pure_eq_ok_iff,
        Bool.false_eq_true, false_and, false_or, if_false, exists_const, true_and]
      refine exists_congr fun between => and_congr_right fun _ => exists_congr fun rest => ?_
      constructor
      · intro ⟨_, hrest, hmade, hafter⟩
        exact ⟨hafter ▸ hrest, hmade⟩
      · intro ⟨hrest, hmade⟩
        exact ⟨after, hrest, hmade, rfl⟩

theorem on_makeMissing_of_contains (h : ∀ path ∈ paths, tree.contains path = true) :
    (makeMissing paths).on tree = (.ok [], tree) := by
  induction paths with
  | nil => rfl
  | cons path rest ih =>
      obtain ⟨hpath, hrest⟩ := List.forall_mem_cons.1 h
      exact on_makeMissing_cons_eq_ok_iff.2 (Or.inl ⟨hpath, ih hrest⟩)

/-- What is made is there at the end, and so is all that was there. -/
theorem contains_of_makeMissing (hfull : ∀ path ∈ paths, path.isEmpty = false)
    (h : (makeMissing paths).on tree = (.ok made, after)) :
    tree.Extends after ∧ ∀ path ∈ paths, after.contains path = true := by
  induction paths generalizing tree made with
  | nil =>
      obtain ⟨-, rfl⟩ := on_pure_eq_ok_iff.1 h
      exact ⟨Tree.Extends.refl _, fun path hpath => absurd hpath List.not_mem_nil⟩
  | cons path rest ih =>
      obtain ⟨hpath, hrest⟩ := List.forall_mem_cons.1 hfull
      rcases on_makeMissing_cons_eq_ok_iff.1 h with ⟨hcontains, hlater⟩ |
        ⟨-, between, hmake, made', hlater, -⟩
      · obtain ⟨hextends, hall⟩ := ih hrest hlater
        exact ⟨hextends, List.forall_mem_cons.2 ⟨hextends.contains hcontains, hall⟩⟩
      · obtain ⟨hextends, hall⟩ := ih hrest hlater
        have hbetween := Tree.extends_makeDirectories tree path
        have hdirectory := Tree.isDirectory_of_makeDirectories hpath (congrArg Prod.fst hmake)
        rw [hmake] at hbetween hdirectory
        have hcontains := hextends.contains (Tree.contains_of_isDirectory hdirectory)
        exact ⟨hbetween.trans hextends, List.forall_mem_cons.2 ⟨hcontains, hall⟩⟩

/-- A text is written into a directory that is there or made. -/
theorem on_writeText_eq_ok {text : String}
    (h : (writeText path text replacing).on tree = (.ok true, after)) :
    ∃ directory between, path.parent? = some directory ∧
      tree.makeDirectories directory = (true, between) ∧
        between.write path (Text.Utf8.encode text) = some after := by
  rw [writeText, on_bind_eq_ok_iff] at h
  obtain ⟨_, _, hget, h⟩ := h
  obtain ⟨rfl, rfl⟩ := on_get_eq_ok_iff.1 hget
  split at h
  · exact nomatch (on_pure_eq_ok_iff.1 h).1
  · split at h
    · exact absurd h on_throw_ne_ok
    · next directory hparent =>
      rw [on_bind_eq_ok_iff] at h
      obtain ⟨_, between, hmake, h⟩ := h
      refine ⟨directory, between, hparent, on_makeDirectories_eq_ok_iff.1 hmake, ?_⟩
      rw [on_bind_eq_ok_iff] at h
      obtain ⟨_, _, hget, h⟩ := h
      obtain ⟨rfl, rfl⟩ := on_get_eq_ok_iff.1 hget
      split at h
      · exact absurd h on_throw_ne_ok
      · next later hwrite =>
        rw [on_bind_eq_ok_iff] at h
        obtain ⟨_, _, hset, h⟩ := h
        obtain rfl := on_set_eq_ok_iff.1 hset
        obtain ⟨-, rfl⟩ := on_pure_eq_ok_iff.1 h
        exact hwrite

theorem on_writeText_of_contains {text : String} (h : tree.contains path = true) :
    (writeText path text false).on tree = (.ok false, tree) := by
  rw [writeText, on_bind_eq_ok_iff]
  refine ⟨tree, tree, rfl, ?_⟩
  rw [if_pos (by simp [h])]
  rfl

/-- What is missing is made, and then the configuration is written. -/
theorem on_setUp_eq_ok {between : Tree}
    (hmade : (makeMissing ([layout.stateDirectory, layout.dataDirectory] ++
      layout.primary.path.parent?.toList)).on tree = (.ok made, between))
    (hwrote : (writeText layout.configPath.path Config.initialText replacing).on between =
      (.ok true, after)) : (setUp layout true replacing).on tree = (.ok ⟨made, true⟩, after) :=
  on_bind_eq_ok_iff.2 ⟨made, between, hmade, on_bind_eq_ok_iff.2 ⟨true, after, hwrote, rfl⟩⟩

/-! ### The configuration of a new project -/

/-- What the configuration of a new project says. -/
def Config.initial : Config := ⟨some ".wbterms/data/terms.db", none, some 255, some 5, some 5000⟩

/-- The configuration that the characters of a document say. -/
def Config.ofChars? (chars : List Char) : Option Config := do
  let chars := match chars with
    | '\ufeff' :: rest => rest
    | chars => chars
  let draft ← Toml.readLines chars.length ⟨[], []⟩ chars
  match (Toml.entriesToValues draft.root).lookup "store" with
  | none => return empty
  | some store => ofStore? store

theorem Config.ofText?_eq (text : String) : ofText? text = ofChars? text.toList := by
  unfold ofText? Toml.parse? ofChars?
  rw [Option.bind_eq_bind, Option.bind_map]
  rfl

theorem Config.ofChars?_initialText : ofChars? initialText.toList = some initial := by
  unfold initialText
  -- the characters of the lines, so that only reading them is left to compute
  rw [String.toList_append, String.toList_append, String.toList_append, String.toList_append,
    String.toList_append, String.toList_append, String.toList_append, String.toList_ofList,
    String.toList_ofList, String.toList_ofList, String.toList_ofList, String.toList_ofList,
    String.toList_ofList, String.toList_ofList, String.toList_ofList]
  decide +kernel

theorem Config.ofText?_initialText : ofText? initialText = some initial :=
  (ofText?_eq initialText).trans ofChars?_initialText

/-- A configuration is loaded from the bytes of its text. -/
theorem Config.load_of_file {text : String} {config : Config}
    (hfile : tree.find? path = some (.file (Text.Utf8.encode text)))
    (hconfig : ofText? text = some config) : load tree path = .ok config := by
  have hcontains : tree.contains path = true := by
    rw [Tree.contains, hfile]
    rfl
  have htext : tree.readText? path = some text := by
    rw [Tree.readText?, hfile]
    dsimp only
    rw [Text.Utf8.decode_encode]
    rfl
  unfold load
  rw [if_neg (by simp [hcontains]), htext]
  dsimp only
  rw [hconfig]

/-! ### Projects that are set up -/

namespace Layout

/-- The directories that setting up asks for. -/
def directories (layout : Layout) : List Path :=
  [layout.stateDirectory, layout.dataDirectory] ++ layout.primary.path.parent?.toList

/-- All that setting up makes is there. -/
structure Ready (layout : Layout) (tree : Tree) : Prop where
  directories : ∀ path ∈ layout.directories, tree.contains path = true
  configPath : tree.contains layout.configPath.path = true

theorem Ready.extends {later : Tree} (h : layout.Ready tree) (hlater : tree.Extends later) :
    layout.Ready later :=
  ⟨fun path hpath => hlater.contains (h.directories path hpath), hlater.contains h.configPath⟩

/-- Where all is there, setting up does nothing. -/
theorem Ready.setUp_eq (h : layout.Ready tree) (withConfig : Bool) :
    (setUp layout withConfig false).on tree = (.ok ⟨[], false⟩, tree) := by
  rw [setUp, on_bind_eq_ok_iff]
  refine ⟨[], tree, on_makeMissing_of_contains h.directories, ?_⟩
  cases withConfig with
  | false => rfl
  | true =>
      exact on_bind_eq_ok_iff.2 ⟨false, tree, on_writeText_of_contains h.configPath, rfl⟩

/-- Neither a flag nor a variable tells where the configuration and the primary are. -/
structure UsualPlaces (environment : Environment) (overrides : Overrides) : Prop where
  config : overrides.config = none
  configVariable : environment.trimmed? "WBTERMS_CONFIG" = none
  primary : overrides.primary = none
  primaryVariable : environment.trimmed? "WBTERMS_PRIMARY_DB" = none

theorem configChoice_of_usual (husual : UsualPlaces environment overrides) (tree : Tree)
    (current : Path) : (configChoice tree environment overrides current).path =
      (Project.stateDirectory (chooseRoot tree environment overrides.root current).path).entry
        "config.toml" := by
  simp [configChoice, choosePath, husual.config, husual.configVariable]

/-- A project that has its things at their usual places is found and set up, with a new
configuration. -/
structure SetsUp (tree : Tree) (environment : Environment) (overrides : Overrides) (current : Path)
    (layout : Layout) (after : Tree) : Prop where
  usual : UsualPlaces environment overrides
  resolved : resolve tree environment overrides current = .ok layout
  missing : tree.contains layout.configPath.path = false
  done : ∃ replacing made, (setUp layout true replacing).on tree = (.ok ⟨made, true⟩, after)

/-- A second layout has the same paths and settings as the first one; the sources may be others. -/
structure SameSettings (layout again : Layout) : Prop where
  root : again.root.path = layout.root.path
  configPath : again.configPath.path = layout.configPath.path
  primary : again.primary.path = layout.primary.path
  replica : again.replica.path = layout.replica.path
  limits : ∀ environment, again.config.limits environment = layout.config.limits environment
  busyTimeout : again.config.busyTimeout = layout.config.busyTimeout

theorem Ready.sameSettings (h : layout.Ready tree) (hsame : SameSettings layout again) :
    again.Ready tree := by
  obtain ⟨hdirectories, hconfig⟩ := h
  unfold Layout.directories stateDirectory dataDirectory at hdirectories
  rw [← hsame.root, ← hsame.primary] at hdirectories
  rw [← hsame.configPath] at hconfig
  exact ⟨hdirectories, hconfig⟩

/-! ### What the first setting up leaves -/

section SetsUp

variable (h : SetsUp tree environment overrides current layout after)

include h

theorem SetsUp.layout_eq : layout = withConfig tree environment overrides current .empty := by
  obtain ⟨hload, hlayout⟩ := of_resolve h.resolved
  have hmissing := h.missing
  rw [hlayout] at hmissing
  have hempty : Config.load tree (configChoice tree environment overrides current).path =
      .ok .empty := by
    unfold Config.load
    rw [if_pos]
    simpa [withConfig] using hmissing
  rw [hload] at hempty
  rw [hlayout, Except.ok.inj hempty]

theorem SetsUp.root_eq : layout.root = chooseRoot tree environment overrides.root current := by
  rw [h.layout_eq]
  rfl

theorem SetsUp.configPath_eq :
    layout.configPath.path = layout.stateDirectory.entry "config.toml" := by
  rw [stateDirectory, h.layout_eq]
  exact configChoice_of_usual h.usual tree current

theorem SetsUp.parent?_configPath :
    layout.configPath.path.parent? = some layout.stateDirectory := by
  rw [h.configPath_eq]
  exact Path.parent?_entry_entry (by decide) (by decide)

theorem SetsUp.primary_eq : layout.primary.path = layout.dataDirectory.entry "terms.db" := by
  unfold dataDirectory
  rw [h.layout_eq]
  simp [withConfig, choosePath, h.usual.primary, h.usual.primaryVariable, Config.empty]

theorem SetsUp.directories_eq :
    layout.directories = [layout.stateDirectory, layout.dataDirectory, layout.dataDirectory] := by
  have hparent : (layout.dataDirectory.entry "terms.db").parent? = some layout.dataDirectory :=
    Path.parent?_entry_entry (by decide) (by decide)
  unfold Layout.directories
  rw [h.primary_eq, hparent]
  rfl

/-- Where all directories are, the project's own one is a directory. -/
theorem SetsUp.isDirectory {later : Tree}
    (hall : ∀ path ∈ layout.directories, later.contains path = true) :
    later.isDirectory layout.stateDirectory = true := by
  rw [h.directories_eq] at hall
  have hdata : later.contains (layout.stateDirectory.entry "data") = true :=
    hall _ (List.mem_cons_of_mem _ List.mem_cons_self)
  exact Tree.isDirectory_of_contains_entry (by decide) (by decide) (hall _ List.mem_cons_self) hdata

/-- The directories are made first, and the configuration is written then. -/
theorem SetsUp.steps : ∃ made between,
    (makeMissing layout.directories).on tree = (.ok made, between) ∧ tree.Extends between ∧
      (∀ path ∈ layout.directories, between.contains path = true) ∧
        between.write layout.configPath.path (Text.Utf8.encode Config.initialText) =
          some after := by
  obtain ⟨replacing, made, hdone⟩ := h.done
  rw [setUp, on_bind_eq_ok_iff] at hdone
  obtain ⟨made', between, hmade, hdone⟩ := hdone
  obtain ⟨wrote, later, hwrote, hlater⟩ := on_bind_eq_ok_iff.1 hdone
  obtain ⟨hsetup, rfl⟩ := on_pure_eq_ok_iff.1 hlater
  obtain ⟨-, rfl⟩ := Setup.mk.inj hsetup
  change (makeMissing layout.directories).on tree = _ at hmade
  obtain ⟨directory, between', hparent, hmake, hwrite⟩ := on_writeText_eq_ok hwrote
  have hstateFull : layout.stateDirectory.isEmpty = false :=
    Path.isEmpty_entry (by decide) layout.root.path
  have hdataFull : layout.dataDirectory.isEmpty = false :=
    Path.isEmpty_entry (by decide) layout.stateDirectory
  obtain ⟨hextends, hall⟩ := contains_of_makeMissing
    (by simp [h.directories_eq, hstateFull, hdataFull]) hmade
  refine ⟨made', between, hmade, hextends, hall, ?_⟩
  -- nothing is left to make for the configuration
  have hkept := Tree.makeDirectories_of_isDirectory (h.isDirectory hall)
  rw [h.parent?_configPath] at hparent
  rw [← Option.some.inj hparent, hkept] at hmake
  rw [(Prod.mk.inj hmake).2]
  exact hwrite

theorem SetsUp.extends : tree.Extends after := by
  obtain ⟨made, between, -, hextends, -, hwrite⟩ := h.steps
  exact hextends.trans (Tree.extends_of_write hwrite)

theorem SetsUp.written : after.find? layout.configPath.path =
      some (.file (Text.Utf8.encode Config.initialText)) ∧
    ∀ bytes, ∃ edited, after.write layout.configPath.path bytes = some edited := by
  obtain ⟨made, between, -, -, -, hwrite⟩ := h.steps
  exact Tree.written hwrite

theorem SetsUp.ready : layout.Ready after := by
  obtain ⟨made, between, -, -, hall, hwrite⟩ := h.steps
  refine ⟨fun path hpath => (Tree.extends_of_write hwrite).contains (hall path hpath), ?_⟩
  unfold Tree.contains
  rw [h.written.1]
  rfl

/-- The configuration that was written says what held without one. -/
theorem SetsUp.load_eq : Config.load after layout.configPath.path = .ok Config.initial :=
  Config.load_of_file h.written.1 Config.ofText?_initialText

/-! ### Finding the root again -/

/-- In a project that is marked already, the directory for the databases is the only one that can be
made. -/
theorem SetsUp.newDirectory (hmarked : tree.isDirectory layout.stateDirectory = true) :
    ∃ between, between.write layout.configPath.path (Text.Utf8.encode Config.initialText) =
        some after ∧
      (tree.contains layout.dataDirectory = true ∧ between = tree ∨
        tree.contains layout.dataDirectory = false ∧ ∃ place, tree.node? place = none ∧
          between = tree.put place .directory ∧
            between.locate layout.dataDirectory = .ok place) := by
  obtain ⟨made, between, hmade, -, -, hwrite⟩ := h.steps
  refine ⟨between, hwrite, ?_⟩
  have hstate := Tree.contains_of_isDirectory hmarked
  rw [h.directories_eq] at hmade
  rcases on_makeMissing_cons_eq_ok_iff.1 hmade with ⟨-, hmade⟩ | ⟨hnot, -⟩
  · rcases on_makeMissing_cons_eq_ok_iff.1 hmade with ⟨hdata, -⟩ |
      ⟨hdata, later, hmake, made', hrest, -⟩
    · have hnothing : (makeMissing [layout.dataDirectory, layout.dataDirectory]).on tree =
          (.ok [], tree) := on_makeMissing_of_contains (by simp [hdata])
      rw [hnothing] at hmade
      exact Or.inl ⟨hdata, (Prod.mk.inj hmade).2.symm⟩
    · have hnot : tree.isDirectory layout.dataDirectory = false := by
        refine Bool.eq_false_iff.2 fun hdirectory => ?_
        rw [Tree.contains_of_isDirectory hdirectory] at hdata
        cases hdata
      have hmake' : tree.makeDirectory layout.dataDirectory = .ok later :=
        Tree.makeDirectory_of_makeDirectories (by decide) (by decide) (by decide +kernel) hmarked
          hnot hmake
      obtain ⟨place, hnone, hlater, hlocate, -⟩ := Tree.makeDirectory_eq_ok hmake'
      have hdone : (makeMissing [layout.dataDirectory]).on later = (.ok [], later) :=
        on_makeMissing_of_contains (by
          simp [Tree.contains_of_isDirectory (Tree.isDirectory_of_makeDirectory hmake')])
      rw [hdone] at hrest
      rw [← (Prod.mk.inj hrest).2]
      exact Or.inr ⟨hdata, place, hnone, hlater, hlocate⟩
  · rw [hstate] at hnot
    cases hnot

/-- A current directory that is there does not go up from what is only made. -/
theorem SetsUp.not_goesUpFrom (hmarked : tree.isDirectory layout.stateDirectory = true)
    (hmissing : tree.contains layout.dataDirectory = false) {place : Place}
    (hcurrent : tree.locate current = .ok place) :
    ¬ after.GoesUpFrom current layout.dataDirectory := by
  obtain ⟨between, hwrite, hbetween⟩ := h.newDirectory hmarked
  rcases hbetween with ⟨hdata, -⟩ | ⟨-, place', hnone, -, hlocate⟩
  · rw [hmissing] at hdata
    cases hdata
  · exact Tree.not_goesUpFrom hcurrent h.extends
      ((Tree.extends_of_write hwrite).locate hlocate) hnone

/-- What is marked in the end was marked before, unless the current directory goes up from the one
for the databases. -/
theorem SetsUp.isDirectory_of_above (hgrounded : tree.Grounded)
    (hmarked : tree.isDirectory layout.stateDirectory = true)
    (hup : tree.contains layout.dataDirectory = false →
      ¬ after.GoesUpFrom current layout.dataDirectory)
    {outer : Path} (habove : current.Above outer) :
    after.isDirectory (Project.stateDirectory outer) =
      tree.isDirectory (Project.stateDirectory outer) := by
  obtain ⟨between, hwrite, hbetween⟩ := h.newDirectory hmarked
  rw [Tree.isDirectory_of_write hwrite]
  rcases hbetween with ⟨-, rfl⟩ | ⟨hdata, place, hnone, rfl, hlocate⟩
  · rfl
  have hnew : tree.node? place ≠ some .directory := by simp [hnone]
  refine Bool.eq_iff_iff.2 ⟨fun hdirectory => ?_, (Tree.extends_put hnew .directory).isDirectory⟩
  obtain ⟨there, hthere, hnode⟩ := Tree.isDirectory_iff.1 hdirectory
  obtain ⟨hfollowed, hpieces, hfollow⟩ := Tree.locate_eq_ok_iff.1 hthere
  -- a marker has another name than the new directory
  have hne : there ≠ place := by
    intro hsame
    have hmarker := Tree.getLast?_of_locate_entry (by decide) hthere
    rw [hsame, Tree.getLast?_of_locate_entry (by decide) hlocate] at hmarker
    exact absurd (Option.some.inj hmarker) (by decide)
  -- a step up on the way to a marker is one of the current directory
  have hstays : ∀ front rest, (Project.stateDirectory outer).pieces = front ++ ".." :: rest →
      (tree.put place .directory).follow [] front ≠ .ok place := by
    intro front rest hsplit hfront
    obtain ⟨rest', hcurrent⟩ := Path.exists_up_of_above habove (by decide) hsplit
    have hwritten := Tree.extends_of_write hwrite
    exact hup hdata ⟨front, rest', place, hcurrent, hwritten.follow hfront,
      hwritten.locate hlocate⟩
  have hfollow' := Tree.follow_of_new hgrounded hnone (Tree.ne_nil_of_node? hnew).symm hstays
    hfollow
  rw [Tree.node?_put_of_ne hne] at hnode
  exact Tree.isDirectory_iff.2 ⟨there, Tree.locate_eq_ok_iff.2
    ⟨hfollowed, hpieces, hfollow'.resolve_left hne⟩, hnode⟩

/-- The root is found again. -/
theorem SetsUp.root_path_eq (hgrounded : tree.Grounded)
    (hup : layout.root.source = .search → tree.contains layout.dataDirectory = false →
      ¬ after.GoesUpFrom current layout.dataDirectory) :
    (chooseRoot after environment overrides.root current).path = layout.root.path := by
  have hroot := h.root_eq
  unfold chooseRoot at hroot ⊢
  cases hflag : overrides.root with
  | some flag =>
      rw [hflag] at hroot
      rw [hroot]
  | none =>
      rw [hflag] at hroot
      cases hvariable : environment.trimmed? "WBTERMS_PROJECT_ROOT" with
      | some value =>
          rw [hvariable] at hroot
          rw [hroot]
      | none =>
          rw [hvariable] at hroot
          dsimp only at hroot ⊢
          cases hfound : markedAncestor? tree current with
          | some root =>
              rw [hfound] at hroot
              have hmarked : tree.isDirectory layout.stateDirectory = true := by
                have hholds := List.find?_some hfound
                rw [stateDirectory, hroot]
                exact hholds
              have hsame : markedAncestor? after current = some root := by
                rw [← hfound]
                refine List.find?_congr fun outer houter => ?_
                exact h.isDirectory_of_above hgrounded hmarked (hup (by rw [hroot]))
                  (Path.mem_ancestors_iff.1 houter)
              rw [hsame, hroot]
          | none =>
              rw [hfound] at hroot
              have hmarked := h.isDirectory h.ready.directories
              rw [stateDirectory, hroot] at hmarked
              -- the current directory is marked now
              have hcurrent : markedAncestor? after current = some current := by
                rw [markedAncestor?, Path.ancestors_eq]
                exact List.find?_cons_of_pos hmarked
              rw [hcurrent, hroot]

end SetsUp

/-! ### Finding the project again -/

/-- The primary that a new configuration names is the usual one. -/
theorem join_initial (root : Path) : root.join (.ofText ".wbterms/data/terms.db") =
    (Project.dataDirectory root).entry "terms.db" := by
  have hpieces : (Path.ofText ".wbterms/data/terms.db").pieces =
      [".wbterms", "data", "terms.db"] := by
    show (Path.cut (String.toList ".wbterms/data/terms.db")).map String.ofList = _
    rw [String.toList_ofList]
    rfl
  have hrelative : (Path.ofText ".wbterms/data/terms.db").isAbsolute = false := by
    rw [Path.isAbsolute, hpieces]
    rfl
  refine Path.eq_of_pieces ?_
  rw [Path.pieces_join hrelative, hpieces, Project.dataDirectory,
    Path.pieces_entry_entry (by decide), Project.stateDirectory,
    Path.pieces_entry_entry (by decide), Path.pieces_entry]
  simp [markerName]

/-- With the root the layout stays, and a new configuration changes nothing in it. -/
theorem sameSettings_withConfig (husual : UsualPlaces environment overrides)
    (hroot : (chooseRoot after environment overrides.root current).path =
      (chooseRoot tree environment overrides.root current).path) :
    SameSettings (withConfig tree environment overrides current .empty)
      (withConfig after environment overrides current .initial) := by
  have hprimary : (withConfig after environment overrides current .initial).primary.path =
      (withConfig tree environment overrides current .empty).primary.path := by
    simp [withConfig, choosePath, husual.primary, husual.primaryVariable, Config.empty,
      Config.initial, hroot, join_initial]
  exact
    { root := hroot
      configPath := by
        show (configChoice after environment overrides current).path =
          (configChoice tree environment overrides current).path
        rw [configChoice_of_usual husual, configChoice_of_usual husual, hroot]
      primary := hprimary
      replica := by
        show (choosePath (chooseRoot after environment overrides.root current).path environment
            overrides.replica "WBTERMS_REPLICA_DB" none
            (withConfig after environment overrides current .initial).primary.path).path =
          (choosePath (chooseRoot tree environment overrides.root current).path environment
            overrides.replica "WBTERMS_REPLICA_DB" none
            (withConfig tree environment overrides current .empty).primary.path).path
        rw [hroot, hprimary]
      limits := fun _ => rfl
      busyTimeout := rfl }

theorem SetsUp.resolve_again (h : SetsUp tree environment overrides current layout after)
    (hroot : (chooseRoot after environment overrides.root current).path = layout.root.path) :
    resolve after environment overrides current =
        .ok (withConfig after environment overrides current .initial) ∧
      SameSettings layout (withConfig after environment overrides current .initial) := by
  have hload : Config.load after (configChoice after environment overrides current).path =
      .ok Config.initial := by
    rw [configChoice_of_usual h.usual, hroot]
    have hload := h.load_eq
    rw [h.configPath_eq] at hload
    exact hload
  constructor
  · rw [resolve_eq, hload]
    rfl
  · rw [h.root_eq] at hroot
    rw [h.layout_eq]
    exact sameSettings_withConfig h.usual hroot

/-- A project that was set up with a new configuration is found again, with the same paths and
settings, unless its root was found by a search from a current directory that goes up from the
directory for the databases, and that one was missing. Setting it up again makes nothing and writes
nothing, also when the configuration was edited. -/
theorem setUp_found_again (h : SetsUp tree environment overrides current layout after)
    (hgrounded : tree.Grounded)
    (hup : layout.root.source = .search → tree.contains layout.dataDirectory = false →
      ¬ after.GoesUpFrom current layout.dataDirectory) :
    ∃ again, resolve after environment overrides current = .ok again ∧
      SameSettings layout again ∧
      (∀ withConfig, (setUp again withConfig false).on after = (.ok ⟨[], false⟩, after)) ∧
      ∀ bytes, ∃ edited, after.write again.configPath.path bytes = some edited ∧
        edited.find? again.configPath.path = some (.file bytes) ∧
        ∀ withConfig, (setUp again withConfig false).on edited = (.ok ⟨[], false⟩, edited) := by
  obtain ⟨hagain, hsame⟩ := h.resolve_again (h.root_path_eq hgrounded hup)
  have hready := h.ready.sameSettings hsame
  refine ⟨_, hagain, hsame, hready.setUp_eq, fun bytes => ?_⟩
  obtain ⟨edited, hwrite⟩ := h.written.2 bytes
  rw [← hsame.configPath] at hwrite
  exact ⟨edited, hwrite, (Tree.written hwrite).1,
    (hready.extends (Tree.extends_of_write hwrite)).setUp_eq⟩

/-- A project that is marked, without a configuration, and with another directory in it. -/
def markedProject : Tree :=
  ((Tree.empty.put ["proj"] .directory).put ["proj", "sub"] .directory).put
    ["proj", ".wbterms"] .directory

theorem grounded_markedProject : markedProject.Grounded := by
  have hproject : (Tree.empty.put ["proj"] .directory).Grounded :=
    Tree.grounded_put [] "proj" Tree.grounded_empty rfl (fun hnode => nomatch hnode) _
  have hsub : ((Tree.empty.put ["proj"] .directory).put ["proj", "sub"] .directory).Grounded :=
    Tree.grounded_put ["proj"] "sub" hproject rfl (fun hnode => nomatch hnode) _
  exact Tree.grounded_put ["proj"] ".wbterms" hsub rfl (fun hnode => nomatch hnode) _

/-- The project as it is found from a directory. -/
def markedLayout (current : Path) : Layout :=
  withConfig markedProject .empty .none current .empty

/-- The project with its directory for the databases. -/
def markedData : Tree := markedProject.put ["proj", ".wbterms", "data"] .directory

/-- The project as it is set up. -/
def markedSetUp : Tree :=
  markedData.put ["proj", ".wbterms", "config.toml"] (.file (Text.Utf8.encode Config.initialText))

/-- A directory that leads back to the project. -/
def backFromSub : Path := { pieces := ["", "proj", "sub", ".."] }

/-- A path that leads to the project when it is set up. -/
def backFromData : Path := { pieces := ["", "proj", ".wbterms", "data", "..", ".."] }

theorem setsUp_backFromSub : SetsUp markedProject .empty .none backFromSub
    (markedLayout backFromSub) markedSetUp where
  usual := ⟨rfl, rfl, rfl, rfl⟩
  resolved := by decide +kernel
  missing := by decide +kernel
  done := ⟨false, [(markedLayout backFromSub).dataDirectory], on_setUp_eq_ok
    (Prod.ext (by decide +kernel) (show _ = markedData from rfl))
    (Prod.ext (by decide +kernel) rfl)⟩

theorem setsUp_backFromData : SetsUp markedProject .empty .none backFromData
    (markedLayout backFromData) markedSetUp where
  usual := ⟨rfl, rfl, rfl, rfl⟩
  resolved := by decide +kernel
  missing := by decide +kernel
  done := ⟨false, [(markedLayout backFromData).dataDirectory], on_setUp_eq_ok
    (Prod.ext (by decide +kernel) (show _ = markedData from rfl))
    (Prod.ext (by decide +kernel) rfl)⟩

/-- From a directory that is there the project is found again where it was, and nothing is left to
do. -/
theorem setUp_found_again_backFromSub : ∃ again,
    resolve markedSetUp .empty .none backFromSub = .ok again ∧
      again.root.path = backFromSub ∧
        (setUp again true false).on markedSetUp = (.ok ⟨[], false⟩, markedSetUp) := by
  have hthere : markedProject.locate backFromSub = .ok ["proj"] := by decide +kernel
  obtain ⟨again, hagain, hsame, hnothing, -⟩ := setUp_found_again setsUp_backFromSub
    grounded_markedProject fun _ hmissing =>
      setsUp_backFromSub.not_goesUpFrom (by decide +kernel) hmissing hthere
  exact ⟨again, hagain, hsame.root.trans (by decide +kernel), hnothing true⟩

/-- A current directory that goes up from the directory for the databases leads to the project only
when that is made; then it is a root nearer than the one that was found before. -/
theorem setUp_moves_root :
    SetsUp markedProject .empty .none backFromData (markedLayout backFromData) markedSetUp ∧
      markedProject.Grounded ∧
        ¬ ∃ again, resolve markedSetUp .empty .none backFromData = .ok again ∧
          again.root.path = (markedLayout backFromData).root.path := by
  refine ⟨setsUp_backFromData, grounded_markedProject, ?_⟩
  intro ⟨again, hagain, hroot⟩
  have hmoved : (chooseRoot markedSetUp .empty none backFromData).path ≠
      (markedLayout backFromData).root.path := by decide +kernel
  obtain ⟨-, hlayout⟩ := of_resolve hagain
  rw [hlayout] at hroot
  exact hmoved hroot

end Layout

end Project

end TermStore
