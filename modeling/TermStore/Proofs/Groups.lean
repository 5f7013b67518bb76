import TermStore.Proofs.KindAnswers

/-!
# Groups of ids

The terms of several groups of ids are read together, with one look-up of all rows and one of all
kinds. Still each group gets what resolving it alone gives (`Resolution.Groupwise`). A row is found
with others as it is found alone (`Databases.exists_readsEach_lookChains`), and so is a kind, as
long as no kind has two ids (`KindStore.Steady.exists_readsEach`); so one group's rows can fail the
call, but they cannot change another group's terms. Calls of the store of kinds in between cannot
change them either, as long as no id has two kinds (`Resolution.resolve_lasts`).
-/

namespace TermStore

open Storage (TableSpec Record Database)
open Storage.Database (Chain)

/-! ### Terms that are put together from more rows -/

namespace Resolution

open Acquisition (idSet mem_idSet)

variable {kinds kinds' : SortedMap Int TermKind} {filter : ResolveFilter}
  {rows rows' : SortedMap Int Chain} {chains : List Chain} {ids all : List Int} {read write : Side}
  {state : Databases} {store : KindStore} {document : Document}

theorem foldlM_addChain_congr
    (h : ∀ chain ∈ chains, kinds.get? chain.kindId = kinds'.get? chain.kindId) (d : Document) :
    chains.foldlM (addChain kinds filter) d = chains.foldlM (addChain kinds' filter) d := by
  induction chains generalizing d with
  | nil => rfl
  | cons chain rest ih =>
      have hchain : addChain kinds filter d chain = addChain kinds' filter d chain := by
        unfold addChain
        rw [h chain List.mem_cons_self]
      rw [List.foldlM_cons, List.foldlM_cons, hchain]
      have hrest := ih fun other hother => h other (List.mem_cons_of_mem chain hother)
      exact bind_congr hrest

/-- The terms of ids depend on their rows and on the kinds of these, and on nothing else. -/
theorem build_congr (hrows : ∀ id ∈ ids, rows.get? id = rows'.get? id)
    (hkinds : ∀ id ∈ ids, ∀ chain, rows.get? id = some chain →
      kinds.get? chain.kindId = kinds'.get? chain.kindId) :
    build rows kinds filter ids = build rows' kinds' filter ids := by
  unfold build
  rw [← List.filterMap_congr fun id hid => hrows id (List.mem_eraseDups.1 hid)]
  refine foldlM_addChain_congr (fun chain hchain => ?_) _
  obtain ⟨id, hid, hget⟩ := List.mem_filterMap.1 hchain
  exact hkinds id (List.mem_eraseDups.1 hid) chain hget

/-- Where terms are put together, the kinds of all rows are known. -/
theorem exists_kind_of_build (h : build rows kinds filter ids = .ok document) {id : Int}
    (hid : id ∈ ids) {chain : Chain} (hget : rows.get? id = some chain) :
    ∃ kind, kinds.get? chain.kindId = some kind := by
  rw [← Option.ne_none_iff_exists']
  intro hnone
  have hmem : chain ∈ ids.eraseDups.filterMap rows.get? :=
    List.mem_filterMap.2 ⟨id, List.mem_eraseDups.2 hid, hget⟩
  obtain ⟨_, -, -, hfails⟩ := exists_foldlM_addChain_eq_error ⟨chain, hmem, hnone⟩
  rw [build, hfails] at h
  cases h

/-- The ids of the kinds of some rows. -/
def kindIdsOf (rows : SortedMap Int Chain) : List Int := idSet (rows.values.map Chain.kindId)

theorem mem_kindIdsOf {kindId : Int} :
    kindId ∈ kindIdsOf rows ↔ ∃ id chain, rows.get? id = some chain ∧ chain.kindId = kindId := by
  unfold kindIdsOf
  simp only [mem_idSet, List.mem_map, SortedMap.mem_values_iff]
  constructor
  · rintro ⟨chain, ⟨id, hget⟩, hkind⟩
    exact ⟨id, chain, hget, hkind⟩
  · rintro ⟨id, chain, hget, hkind⟩
    exact ⟨chain, ⟨id, hget⟩, hkind⟩

/-- Resolving is to look the rows up, to ask for their kinds, and to put the terms together. -/
theorem fst_run_resolve (read write : Side) (store : KindStore) (filter : ResolveFilter)
    (ids : List Int) (state : Databases) :
    ((resolve read write store filter ids).run Databases.handler state).1 = (do
      let rows ← (state.lookChains read write ids).mapError Failure.storage
      let kinds ← store.answer state (kindIdsOf rows)
      build rows kinds filter ids) := by
  rw [run_resolve_eq]
  cases state.lookChains read write ids with
  | error fault => rfl
  | ok rows =>
      simp only [KindStore.answer, kindIdsOf, readKinds, Except.mapError, bind, Except.bind]
      rcases (store.resolve (idSet (rows.values.map Chain.kindId))).run Databases.handler state with
        ⟨outcome, after⟩
      cases outcome <;> rfl

/-- Groups are resolved in the same way, with the rows of all of them. -/
theorem fst_run_resolveGroups {κ : Type} [LE κ] [LT κ] [DecidableLT κ] [DecidableEq κ]
    [Std.IsLinearOrder κ] [Std.LawfulOrderLT κ] (read write : Side) (store : KindStore)
    (filter : ResolveFilter) (groups : SortedMap κ (List Int)) (state : Databases) :
    ((resolveGroups read write store filter groups).run Databases.handler state).1 = (do
      let rows ← (state.lookChains read write groups.values.flatten).mapError Failure.storage
      let kinds ← store.answer state (kindIdsOf rows)
      let documents ← groups.entries.mapM fun group => do
        return (group.1, ← build rows kinds filter group.2)
      return .ofList documents) := by
  have hlast : ∀ (documents : Except Failure (List (κ × Document))) (after : Databases),
      (((Dialog.ofExcept documents).bind fun documents => .done (SortedMap.ofList documents)).run
        Databases.handler after).1 = documents >>= fun documents => .ok (.ofList documents) := by
    intro documents after
    cases documents <;> rfl
  unfold resolveGroups
  rw [Dialog.bind_eq, Dialog.run_bind, Databases.run_readChains_eq]
  cases state.lookChains read write groups.values.flatten with
  | error fault => rfl
  | ok rows =>
      simp only [Databases.readOnly]
      rw [Dialog.bind_eq, Dialog.run_bind]
      unfold KindStore.answer kindIdsOf readKinds
      show _ = (Dialog.run _ _ _).1 >>= _
      rcases (store.resolve (idSet (rows.values.map Chain.kindId))).run Databases.handler state with
        ⟨outcome, after⟩
      cases outcome with
      | error failure => rfl
      | ok kinds => exact hlast _ after

theorem resolve_ok_iff :
    ((resolve read write store filter ids).run Databases.handler state).1 = .ok document ↔
      ∃ rows, state.lookChains read write ids = .ok rows ∧
        ∃ kinds, store.answer state (kindIdsOf rows) = .ok kinds ∧
          build rows kinds filter ids = .ok document := by
  rw [fst_run_resolve]
  simp only [bind_eq_ok_iff, mapError_eq_ok_iff]

/-! ### Groups -/

section Groups

variable {κ : Type} [LE κ] [LT κ] [DecidableLT κ] [DecidableEq κ] [Std.IsLinearOrder κ]
  [Std.LawfulOrderLT κ]

omit [DecidableLT κ] [Std.IsLinearOrder κ] in
theorem mem_flatten_values {groups : SortedMap κ (List Int)} {key : κ}
    (hget : groups.get? key = some ids) : ∀ id ∈ ids, id ∈ groups.values.flatten := fun _ hid =>
  List.mem_flatten.2 ⟨_, SortedMap.mem_values_iff.2 ⟨_, hget⟩, hid⟩

theorem resolveGroups_ok_iff {groups : SortedMap κ (List Int)} {documents : SortedMap κ Document} :
    ((resolveGroups read write store filter groups).run Databases.handler state).1 =
        .ok documents ↔
      ∃ rows, state.lookChains read write groups.values.flatten = .ok rows ∧
        ∃ kinds, store.answer state (kindIdsOf rows) = .ok kinds ∧
          ∃ results, (groups.entries.mapM fun group => do
            return (group.1, ← build rows kinds filter group.2)) = .ok results ∧
              documents = .ofList results := by
  rw [fst_run_resolveGroups]
  simp only [bind_eq_ok_iff, mapError_eq_ok_iff]
  refine exists_congr fun rows => and_congr_right fun _ => exists_congr fun kinds =>
    and_congr_right fun _ => exists_congr fun results => and_congr_right fun _ => ?_
  exact ⟨fun h => (Except.ok.inj h).symm, fun h => congrArg Except.ok h.symm⟩

section OneByOne

variable {canRead : Int → Prop} {chainOf : Int → Chain → Prop} {canName : Int → Prop}
  {nameOf : Int → TermKind → Prop} {groups : SortedMap κ (List Int)}
  (hchains : ReadsEach (state.lookChains read write) canRead chainOf)
  (hnames : ReadsEach (store.answer state) canName nameOf)

include hchains hnames

/-- With the rows of more ids, and with the kinds of more rows, the terms of some ids are the ones
that they resolve to. -/
theorem fst_run_resolve_eq_build (hrows : state.lookChains read write all = .ok rows)
    (hkinds : store.answer state (kindIdsOf rows) = .ok kinds) (hids : ∀ id ∈ ids, id ∈ all)
    (filter : ResolveFilter) :
    ((resolve read write store filter ids).run Databases.handler state).1 =
      build rows kinds filter ids := by
  obtain ⟨own, hown⟩ := (hchains.ok_iff ids).2 fun id hid =>
    (hchains.ok_iff all).1 ⟨rows, hrows⟩ id (hids id hid)
  have hget : ∀ id ∈ ids, own.get? id = rows.get? id := fun id hid => by
    rw [hchains.get?_eq hown, hchains.get?_eq hrows, if_pos hid, if_pos (hids id hid)]
  have hkindIds : ∀ kindId ∈ kindIdsOf own, kindId ∈ kindIdsOf rows := by
    intro kindId hmem
    obtain ⟨id, chain, hchain, hkindId⟩ := mem_kindIdsOf.1 hmem
    have hid := ((hchains.get?_iff hown id chain).1 hchain).1
    exact mem_kindIdsOf.2 ⟨id, chain, (hget id hid).symm.trans hchain, hkindId⟩
  obtain ⟨named, hnamed⟩ := (hnames.ok_iff (kindIdsOf own)).2 fun kindId hmem =>
    (hnames.ok_iff _).1 ⟨kinds, hkinds⟩ kindId (hkindIds kindId hmem)
  rw [fst_run_resolve, hown]
  show store.answer state (kindIdsOf own) >>= _ = _
  rw [hnamed]
  refine build_congr hget fun id hid chain hchain => ?_
  have hmem : chain.kindId ∈ kindIdsOf own := mem_kindIdsOf.2 ⟨id, chain, hchain, rfl⟩
  rw [hnames.get?_eq hnamed, hnames.get?_eq hkinds, if_pos hmem, if_pos (hkindIds _ hmem)]

/-- Of groups that resolve, each one has the terms that its ids alone resolve to. -/
theorem resolve_of_resolveGroups {documents : SortedMap κ Document}
    (hrun : ((resolveGroups read write store filter groups).run Databases.handler state).1 =
      .ok documents) :
    documents.keys = groups.keys ∧ ∀ key ids, groups.get? key = some ids → ∃ document,
      documents.get? key = some document ∧
        ((resolve read write store filter ids).run Databases.handler state).1 = .ok document := by
  obtain ⟨rows, hrows, kinds, hkinds, results, hresults, rfl⟩ := resolveGroups_ok_iff.1 hrun
  have hget : ∀ {key document}, (SortedMap.ofList results).get? key = some document ↔
      ∃ ids, groups.get? key = some ids ∧ build rows kinds filter ids = .ok document :=
    SortedMap.get?_ofList_of_mapM hresults
  have hbuilds : ∀ {key ids}, groups.get? key = some ids →
      ∃ document, build rows kinds filter ids = .ok document := by
    intro key ids hgroup
    obtain ⟨_, -, hmapped⟩ := exists_of_mapM_eq_ok hresults (SortedMap.mem_entries_iff.2 hgroup)
    obtain ⟨document, hbuild, -⟩ := bind_eq_ok_iff.1 hmapped
    exact ⟨document, hbuild⟩
  refine ⟨SortedMap.keys_congr fun key => ⟨?_, ?_⟩, fun key ids hgroup => ?_⟩
  · rintro ⟨document, hdocument⟩
    obtain ⟨ids, hgroup, -⟩ := hget.1 hdocument
    exact ⟨ids, hgroup⟩
  · rintro ⟨ids, hgroup⟩
    obtain ⟨document, hbuild⟩ := hbuilds hgroup
    exact ⟨document, hget.2 ⟨ids, hgroup, hbuild⟩⟩
  · obtain ⟨document, hbuild⟩ := hbuilds hgroup
    refine ⟨document, hget.2 ⟨ids, hgroup, hbuild⟩, ?_⟩
    rw [fst_run_resolve_eq_build hchains hnames hrows hkinds (mem_flatten_values hgroup), hbuild]

/-- Where each group resolves alone, the groups resolve together. -/
theorem exists_run_resolveGroups (heach : ∀ key ids, groups.get? key = some ids → ∃ document,
      ((resolve read write store filter ids).run Databases.handler state).1 = .ok document) :
    ∃ documents, ((resolveGroups read write store filter groups).run Databases.handler state).1 =
      .ok documents := by
  -- an id of the groups is one of a group whose rows are read and whose kinds are named
  have hgroup : ∀ id ∈ groups.values.flatten, ∃ ids rows kinds, id ∈ ids ∧
      state.lookChains read write ids = .ok rows ∧
        store.answer state (kindIdsOf rows) = .ok kinds := by
    intro id hmem
    obtain ⟨ids, hids, hid⟩ := List.mem_flatten.1 hmem
    obtain ⟨key, hget⟩ := SortedMap.mem_values_iff.1 hids
    obtain ⟨document, hdocument⟩ := heach key ids hget
    obtain ⟨rows, hrows, kinds, hkinds, -⟩ := resolve_ok_iff.1 hdocument
    exact ⟨ids, rows, kinds, hid, hrows, hkinds⟩
  obtain ⟨rows, hrows⟩ := (hchains.ok_iff groups.values.flatten).2 fun id hmem => by
    obtain ⟨ids, own, -, hid, hown, -⟩ := hgroup id hmem
    exact (hchains.ok_iff ids).1 ⟨own, hown⟩ id hid
  obtain ⟨kinds, hkinds⟩ := (hnames.ok_iff (kindIdsOf rows)).2 fun kindId hmem => by
    obtain ⟨id, chain, hchain, hkindId⟩ := mem_kindIdsOf.1 hmem
    obtain ⟨hid, hchainOf⟩ := (hchains.get?_iff hrows id chain).1 hchain
    obtain ⟨ids, own, named, hid, hown, hnamed⟩ := hgroup id hid
    refine (hnames.ok_iff _).1 ⟨named, hnamed⟩ kindId (mem_kindIdsOf.2 ⟨id, chain, ?_, hkindId⟩)
    exact (hchains.get?_iff hown id chain).2 ⟨hid, hchainOf⟩
  obtain ⟨results, hresults⟩ : ∃ results, (groups.entries.mapM fun group => do
      return (group.1, ← build rows kinds filter group.2)) = .ok results := by
    refine exists_mapM_eq_ok fun group hmem => ?_
    have hget := SortedMap.mem_entries_iff.1 hmem
    obtain ⟨document, hdocument⟩ := heach group.1 group.2 hget
    rw [fst_run_resolve_eq_build hchains hnames hrows hkinds (mem_flatten_values hget)] at hdocument
    exact ⟨(group.1, document), bind_eq_ok_iff.2 ⟨document, hdocument, rfl⟩⟩
  exact ⟨_, resolveGroups_ok_iff.2 ⟨rows, hrows, kinds, hkinds, results, hresults, rfl⟩⟩

end OneByOne

/-- Groups of ids resolve if each of them does, and each of them to what it does alone. -/
structure Groupwise (read write : Side) (store : KindStore) (filter : ResolveFilter)
    (groups : SortedMap κ (List Int)) (state : Databases) : Prop where
  ok_iff : (∃ documents, ((resolveGroups read write store filter groups).run Databases.handler
      state).1 = .ok documents) ↔
    ∀ key ids, groups.get? key = some ids → ∃ document,
      ((resolve read write store filter ids).run Databases.handler state).1 = .ok document
  each : ∀ documents, ((resolveGroups read write store filter groups).run Databases.handler
      state).1 = .ok documents →
    documents.keys = groups.keys ∧ ∀ key ids, groups.get? key = some ids → ∃ document,
      documents.get? key = some document ∧
        ((resolve read write store filter ids).run Databases.handler state).1 = .ok document

end Groups

/-! ### After other calls -/

/-- What ids resolve to they resolve to after further calls of the store of kinds, if no id has two
kinds. -/
theorem resolve_lasts (hsound : state.InOrder) (hsteady : store.Steady state)
    (hkind : store.OneKind state) (calls : List KindCall)
    (hprimary : (store.after state calls).primary = state.primary)
    (hrun : ((resolve read write store filter ids).run Databases.handler state).1 = .ok document) :
    ((resolve read write store filter ids).run Databases.handler (store.after state calls)).1 =
      .ok document := by
  obtain ⟨memory, hafter, hsteady', hlasts⟩ := hsteady.lasts hkind calls hprimary
  obtain ⟨_, _, hchains⟩ := Databases.exists_readsEach_lookChains (hsound read) (hsound write)
  obtain ⟨_, _, hnames⟩ := hsteady.exists_readsEach
  obtain ⟨_, _, hnames'⟩ := hsteady'.exists_readsEach
  obtain ⟨rows, hrows, kinds, hkinds, hbuild⟩ := resolve_ok_iff.1 hrun
  -- all rows are used, so their kinds are known, and stay known
  have hknown : ∀ kindId ∈ kindIdsOf rows, ∃ kind, kinds.get? kindId = some kind ∧
      lookAlone (store.answer { state with kindIds := memory }) kindId = some kind := by
    intro kindId hmem
    obtain ⟨id, chain, hchain, rfl⟩ := mem_kindIdsOf.1 hmem
    have hid := ((hchains.get?_iff hrows id chain).1 hchain).1
    obtain ⟨kind, hget⟩ := exists_kind_of_build hbuild hid hchain
    refine ⟨kind, hget, hlasts _ _ ?_⟩
    rwa [hnames.get?_eq hkinds, if_pos hmem] at hget
  obtain ⟨kinds', hkinds'⟩ := (hnames'.ok_iff (kindIdsOf rows)).2 fun kindId hmem => by
    obtain ⟨_, -, halone⟩ := hknown kindId hmem
    obtain ⟨named, hnamed, -⟩ := lookAlone_eq_some_iff.1 halone
    exact (hnames'.ok_iff [kindId]).1 ⟨named, hnamed⟩ kindId (List.mem_singleton_self kindId)
  rw [hafter]
  refine resolve_ok_iff.2 ⟨rows, hrows, kinds', hkinds', Eq.trans ?_ hbuild⟩
  refine build_congr (fun _ _ => rfl) fun id _ chain hchain => ?_
  have hmem : chain.kindId ∈ kindIdsOf rows := mem_kindIdsOf.2 ⟨id, chain, hchain, rfl⟩
  obtain ⟨kind, hget, halone⟩ := hknown chain.kindId hmem
  rw [hnames'.get?_eq hkinds', if_pos hmem, halone, hget]

/-- On any contents of two databases, and after any calls of either store of kinds, with one id for
each kind: groups of ids resolve as each of them does alone. With one kind for each id, further
calls do not change what ids resolve to, while the rows stay. -/
theorem resolveGroups_groupwise (κ : Type) [LE κ] [LT κ] [DecidableLT κ] [DecidableEq κ]
    [Std.IsLinearOrder κ] [Std.LawfulOrderLT κ] (read write : Side) (hstore : store.Standard)
    {start : Databases} (hsound : start.InOrder) (hnew : start.kindIds = .none)
    (calls : List KindCall) (hone : store.OneId (store.after start calls)) :
    (∀ filter (groups : SortedMap κ (List Int)),
      Groupwise read write store filter groups (store.after start calls)) ∧
    (store.OneKind (store.after start calls) → ∀ more,
      (store.after (store.after start calls) more).primary = (store.after start calls).primary →
      ∀ filter ids document,
        ((resolve read write store filter ids).run Databases.handler
          (store.after start calls)).1 = .ok document →
        ((resolve read write store filter ids).run Databases.handler
          (store.after (store.after start calls) more)).1 = .ok document) := by
  have hsteady := hone.steady hstore hsound hnew calls
  have hsides := hstore.inOrder_after hsound calls
  obtain ⟨_, _, hchains⟩ := Databases.exists_readsEach_lookChains (hsides read) (hsides write)
  obtain ⟨_, _, hnames⟩ := hsteady.exists_readsEach
  refine ⟨fun filter groups => ⟨⟨fun ⟨documents, hrun⟩ key ids hget => ?_,
    exists_run_resolveGroups hchains hnames⟩, fun _ => resolve_of_resolveGroups hchains hnames⟩,
    fun hkind more hprimary _ _ _ => resolve_lasts hsides hsteady hkind more hprimary⟩
  obtain ⟨document, -, hdocument⟩ := (resolve_of_resolveGroups hchains hnames hrun).2 key ids hget
  exact ⟨document, hdocument⟩

/-- Ids with terms on one of the stores each and an id without one, none, and an id twice. -/
def townGroups : SortedMap Int (List Int) := .ofList [(1, [2, 1, 7]), (2, []), (3, [1, 1])]

/-- What the groups resolve to. -/
def townTerms : SortedMap Int Document :=
  .ofList [(1, .ofTerms [⟨.label, "en", "Berlin"⟩, ⟨.aliases, "en", "Athens"⟩]), (2, .empty),
    (3, .ofTerms [⟨.label, "en", "Berlin"⟩])]

theorem bonnBerlin_groups :
    Groupwise .replica .primary (.inTable .replica .primary) .all townGroups bonnBerlin ∧
    ((resolveGroups .replica .primary (.inTable .replica .primary) .all townGroups).run
      Databases.handler bonnBerlin).1 = .ok townTerms ∧
    ((resolve .replica .primary (.inTable .replica .primary) .all [1, 1]).run Databases.handler
      ((KindStore.inTable .replica .primary).after bonnBerlin
        [.lookup [.aliases, .label], .resolve [2, 9]])).1 =
      .ok (.ofTerms [⟨.label, "en", "Berlin"⟩]) := by
  have hprimary : bonnStore.Sound ∧ bonnStore.Typed := Database.sound_typed_stocked (by decide)
  have hreplica : berlinStore.Sound ∧ berlinStore.Typed := Database.sound_typed_stocked (by decide)
  have hsides : ∀ side, (bonnBerlin.database side).Sound ∧ (bonnBerlin.database side).Typed :=
    Databases.forall_database (P := fun db => db.Sound ∧ db.Typed) hprimary hreplica
  have hstore := KindStore.Standard.inTable .replica
  have hone := KindStore.oneId_of_kindRows hsides (.inTable .replica .primary)
    (Side.rec (by decide +kernel) (by decide +kernel))
  have hkind := KindStore.oneKind_of_kindRows hsides (.inTable .replica .primary)
    (Side.rec (by decide +kernel) (by decide +kernel))
  obtain ⟨hgroups, hlasts⟩ := resolveGroups_groupwise Int .replica .primary hstore
    (fun side => (hsides side).1) rfl [] hone
  have hcontents : ((KindStore.inTable .replica .primary).after bonnBerlin
      [.lookup [.aliases, .label], .resolve [2, 9]]).primary = bonnBerlin.primary :=
    (hstore.contents_after (by simp)).1
  exact ⟨hgroups .all townGroups, by decide +kernel,
    hlasts hkind [.lookup [.aliases, .label], .resolve [2, 9]] hcontents .all [1, 1] _
      (by decide +kernel)⟩

/-- On the replica the first kind is that of labels, and on the primary it is that of aliases. -/
def twoKinds : Databases where
  primary := .stocked [(.kinds, [[.text "alias"]])]
  replica := some (.stocked [
    (.kinds, [[.text "label"]]),
    (.texts, [[.text "Berlin"]]),
    (.textsInLanguage, [[.integer 1, .text "en"]]),
    (.termsInLanguage, [[.integer 1, .integer 1]])])
  kindIds := .none

/-- Each kind has one id; and yet, once the alias has been looked up, what was a label is resolved
to an alias. -/
theorem twoKinds_terms_change :
    twoKinds.InOrder ∧ (KindStore.inTable .replica .primary).OneId twoKinds ∧
    ((KindStore.inTable .replica .primary).after twoKinds
      [.resolve [1], .lookup [.aliases]]).primary = twoKinds.primary ∧
    ((resolve .replica .primary (.inTable .replica .primary) .all [1]).run Databases.handler
      twoKinds).1 = .ok (.ofTerms [⟨.label, "en", "Berlin"⟩]) ∧
    ((resolve .replica .primary (.inTable .replica .primary) .all [1]).run Databases.handler
      ((KindStore.inTable .replica .primary).after twoKinds
        [.resolve [1], .lookup [.aliases]])).1 =
      .ok (.ofTerms [⟨.aliases, "en", "Berlin"⟩]) := by
  have hsides : ∀ side, (twoKinds.database side).Sound ∧ (twoKinds.database side).Typed :=
    Databases.forall_database (P := fun db => db.Sound ∧ db.Typed)
      (Database.sound_typed_stocked (by decide)) (Database.sound_typed_stocked (by decide))
  refine ⟨fun side => (hsides side).1, KindStore.oneId_of_kindRows hsides _
    (Side.rec (by decide +kernel) (by decide +kernel)), ?_, by decide +kernel, by decide +kernel⟩
  exact ((KindStore.Standard.inTable .replica).contents_after (by simp)).1

end Resolution

end TermStore
