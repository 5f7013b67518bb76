import TermStore.Proofs.Company
import TermStore.Proofs.OneByOne
import TermStore.Proofs.Resolving

/-!
# What resolving returns

Whatever the two databases hold, the chain of an id is the one that the first of them has whole, or
else the one that the second has (`Databases.Tells`); how many ids are read together, and in which
order, makes no difference to it (`readsEach_lookChains`). The terms are put together from these
chains in the order of the ids, and a filter only leaves slots out: of a slot it keeps or drops all
terms. A chain whose kind the store of kinds does not name fails the call, also where the filter
would drop it.
-/

namespace TermStore

open Storage (TableSpec Record Database Fault)
open Storage.Database (Chain)

/-! ### Reading what one store lacks from another one -/

namespace Resolution

/-- Look-ups that change nothing, one after the other, are one look-up that changes nothing. -/
theorem run_fallback_eq {α : Type} {first second : List Int → Dialog (SortedMap Int α)}
    {look look' : List Int → Except Fault (SortedMap Int α)} {state : Databases}
    (hfirst : ∀ ids, (first ids).run Databases.handler state = state.readOnly (look ids))
    (hsecond : ∀ ids, (second ids).run Databases.handler state = state.readOnly (look' ids))
    (wanted : List Int) :
    (fallback first second wanted).run Databases.handler state =
      state.readOnly (lookFurther look look' wanted) := by
  unfold fallback lookFurther
  rw [Dialog.bind_eq, Dialog.run_bind, hfirst]
  cases look wanted with
  | error fault => rfl
  | ok found =>
      show Dialog.run _ (ite _ _ _) _ = state.readOnly (ite _ _ _)
      by_cases hempty : (wanted.filter fun id => !found.contains id).isEmpty = true
      · rw [if_pos hempty, if_pos hempty]
        rfl
      · rw [if_neg hempty, if_neg hempty, Dialog.bind_eq, Dialog.run_bind, hsecond]
        cases look' (wanted.filter fun id => !found.contains id) with
        | error fault => rfl
        | ok rest => rfl

end Resolution

/-! ### Chains of ids -/

namespace Databases

variable {state : Databases} {read write : Side}

/-- The chain that an id has: that of the first store if its three rows are there, or else that of
the second one. -/
def Tells (state : Databases) (read write : Side) (id : Int) (chain : Chain) : Prop :=
  (state.database read).LeadsTo id chain.kindId chain.language chain.text ∨
    (∀ other : Chain,
      ¬ (state.database read).LeadsTo id other.kindId other.language other.text) ∧
    (state.database write).LeadsTo id chain.kindId chain.language chain.text

/-- The chains of some ids as one look-up. -/
def lookChains (state : Databases) (read write : Side) (ids : List Int) :
    Except Fault (SortedMap Int Chain) :=
  lookFurther (state.database read).chains (state.database write).chains (Acquisition.idSet ids)

/-- What an id is told to lead to, looked up alone. -/
def told (state : Databases) (read write : Side) (id : Int) : Option Chain :=
  (state.lookChains read write [id]).toOption.bind fun found => found.get? id

/-- The chains of some ids, each id counted where it comes first. -/
def used (state : Databases) (read write : Side) (ids : List Int) : List Chain :=
  ids.eraseDups.filterMap (state.told read write)

theorem database_replica (primary replica : Database) (kindIds : KindIds) :
    (Databases.mk primary (some replica) kindIds).database .replica = replica := rfl

theorem forall_database {P : Database → Prop} {primary replica : Database} {kindIds : KindIds}
    (hprimary : P primary) (hreplica : P replica) (side : Side) :
    P ((Databases.mk primary (some replica) kindIds).database side) := by
  cases side with
  | primary => exact hprimary
  | replica => exact hreplica

theorem run_readChains_eq (state : Databases) (read write : Side) (ids : List Int) :
    (Resolution.readChains read write ids).run handler state =
      state.readOnly (state.lookChains read write ids) := by
  have hchains : ∀ side ids, (Dialog.chains side ids).run handler state =
      state.readOnly ((state.database side).chains ids) := fun side ids =>
    Dialog.run_request handler (.chains side ids) state
  exact Resolution.run_fallback_eq (hchains read) (hchains write) (Acquisition.idSet ids)

/-- Whatever the rows hold, each id is looked up as if it were alone. -/
theorem exists_readsEach_lookChains (hread : (state.database read).Sound)
    (hwrite : (state.database write).Sound) :
    ∃ readable reads, ReadsEach (state.lookChains read write) readable reads := by
  obtain ⟨_, _, hfirst⟩ := hread.exists_readsEach_chains
  obtain ⟨_, _, hsecond⟩ := hwrite.exists_readsEach_chains
  exact ⟨_, _, (hfirst.further hsecond).ordered fun _ _ => Acquisition.mem_idSet⟩

/-- Where every row holds a record, the look-up goes through and finds the chains. -/
theorem readsEach_lookChains (hread : (state.database read).Sound)
    (hreadTyped : (state.database read).Typed) (hwrite : (state.database write).Sound)
    (hwriteTyped : (state.database write).Typed) :
    ReadsEach (state.lookChains read write) (fun _ => True) (state.Tells read write) :=
  (((hreadTyped.readsEach_chains hread).further (hwriteTyped.readsEach_chains hwrite)).ordered
    fun _ _ => Acquisition.mem_idSet).congr (fun _ => ⟨fun _ => trivial, fun _ =>
      ⟨trivial, fun _ => trivial⟩⟩) fun _ _ => Iff.rfl

/-- Looked up with others, an id is told to lead to the same as alone. -/
theorem get?_lookChains {readable : Int → Prop} {reads : Int → Chain → Prop}
    (heach : ReadsEach (state.lookChains read write) readable reads) {ids : List Int}
    {rows : SortedMap Int Chain} (hrows : state.lookChains read write ids = .ok rows) {id : Int} :
    rows.get? id = if id ∈ ids then state.told read write id else none :=
  heach.get?_eq hrows id

theorem told_iff (hread : (state.database read).Sound) (hreadTyped : (state.database read).Typed)
    (hwrite : (state.database write).Sound) (hwriteTyped : (state.database write).Typed) (id : Int)
    (chain : Chain) : state.told read write id = some chain ↔ state.Tells read write id chain := by
  have heach := readsEach_lookChains hread hreadTyped hwrite hwriteTyped
  obtain ⟨alone, halone⟩ := (heach.ok_iff [id]).2 fun _ _ => trivial
  rw [told, halone]
  show alone.get? id = _ ↔ _
  rw [heach.get?_iff halone]
  exact and_iff_right (List.mem_singleton_self id)

end Databases

/-! ### Terms of chains -/

namespace Resolution

open Acquisition (idSet mem_idSet)

variable {kinds : SortedMap Int TermKind} {filter : ResolveFilter} {rows : SortedMap Int Chain}
  {chains : List Chain} {ids : List Int} {read write : Side} {state after : Databases}
  {store : KindStore}

theorem idSet_congr {others : List Int} (h : ∀ id, id ∈ ids ↔ id ∈ others) :
    idSet ids = idSet others := by
  have hascending : ∀ ids, (idSet ids).Pairwise (· < ·) := fun ids =>
    List.pairwise_map.2 (SortedMap.ofList (ids.map fun id => (id, ()))).ascending
  exact (hascending ids).eq_of_mem_iff (hascending others) fun id => by
    rw [mem_idSet, mem_idSet, h]

/-- Chains are put together where all their kinds are known. -/
theorem foldlM_addChain_of_known (h : ∀ chain ∈ chains, kinds.get? chain.kindId ≠ none)
    (d : Document) : chains.foldlM (addChain kinds filter) d =
      .ok (((chains.filterMap (termOf kinds)).filter filter.keeps).foldl
        (fun d term => d.insert term.kind term.language term.text) d) := by
  refine foldlM_addChain ?_ d
  induction chains with
  | nil => exact .nil
  | cons chain rest ih =>
      obtain ⟨kind, hkind⟩ := Option.ne_none_iff_exists'.1 (h chain List.mem_cons_self)
      have hterm : termOf kinds chain = some ⟨kind, chain.language, chain.text⟩ := by
        rw [termOf, hkind]
        rfl
      rw [List.filterMap_cons_some hterm]
      exact .cons hterm (ih fun other hother => h other (List.mem_cons_of_mem chain hother))

/-- The first chain whose kind is not known fails the call, whatever the filter is. -/
theorem exists_foldlM_addChain_eq_error (h : ∃ chain ∈ chains, kinds.get? chain.kindId = none) :
    ∃ chain ∈ chains, kinds.get? chain.kindId = none ∧ ∀ filter d,
      chains.foldlM (addChain kinds filter) d = .error (.unknownKindId chain.kindId) := by
  induction chains with
  | nil =>
      obtain ⟨_, hmem, -⟩ := h
      cases hmem
  | cons chain rest ih =>
      cases hkind : kinds.get? chain.kindId with
      | none =>
          refine ⟨chain, List.mem_cons_self, hkind, fun filter d => ?_⟩
          rw [List.foldlM_cons, addChain, hkind]
          rfl
      | some kind =>
          obtain ⟨missing, hmissing, hnone, hfold⟩ := ih (by
            obtain ⟨other, hother, hnone⟩ := h
            rcases List.mem_cons.1 hother with rfl | hother
            · rw [hkind] at hnone
              cases hnone
            · exact ⟨other, hother, hnone⟩)
          refine ⟨missing, List.mem_cons_of_mem chain hmissing, hnone, fun filter d => ?_⟩
          have hterm : termOf kinds chain = some ⟨kind, chain.language, chain.text⟩ := by
            rw [termOf, hkind]
            rfl
          rw [List.foldlM_cons, addChain_of_termOf hterm]
          exact hfold filter _

/-- Resolving is to look the chains up, to have their kinds named, and to put the terms together. -/
theorem run_resolve_eq (read write : Side) (store : KindStore) (filter : ResolveFilter)
    (ids : List Int) (state : Databases) :
    (resolve read write store filter ids).run Databases.handler state =
      match state.lookChains read write ids with
      | .error fault => (.error (.storage fault), state)
      | .ok rows =>
        match (readKinds store rows).run Databases.handler state with
        | (.error failure, after) => (.error failure, after)
        | (.ok kinds, after) => (build rows kinds filter ids, after) := by
  show ((readChains read write ids).bind fun rows => (readKinds store rows).bind fun kinds =>
    .ofExcept (build rows kinds filter ids)).run _ _ = _
  rw [Dialog.run_bind, Databases.run_readChains_eq]
  cases state.lookChains read write ids with
  | error fault => rfl
  | ok rows =>
      simp only [Databases.readOnly, Dialog.run_bind]
      rcases (readKinds store rows).run Databases.handler state with ⟨outcome, after⟩
      cases outcome with
      | error failure => rfl
      | ok kinds =>
          simp only
          cases build rows kinds filter ids <;> rfl

/-- Put together from rows that are told of the ids, the terms are those of the used chains. -/
theorem build_eq_of_told (hrows : ∀ id ∈ ids, rows.get? id = state.told read write id)
    (kinds : SortedMap Int TermKind) (filter : ResolveFilter) :
    build rows kinds filter ids =
      (state.used read write ids).foldlM (addChain kinds filter) .empty := by
  unfold build Databases.used
  rw [List.filterMap_congr fun id hid => hrows id (List.mem_eraseDups.1 hid)]

/-- The kinds of all rows are the kinds of the used chains. -/
theorem readKinds_eq_of_told (hrows : ∀ id, rows.get? id =
      if id ∈ ids then state.told read write id else none) (store : KindStore) :
    readKinds store rows =
      store.resolve (idSet ((state.used read write ids).map Chain.kindId)) := by
  unfold readKinds
  refine congrArg store.resolve (idSet_congr fun kindId => ?_)
  simp only [List.mem_map, SortedMap.mem_values_iff, Databases.used, List.mem_filterMap,
    List.mem_eraseDups, hrows]
  refine exists_congr fun chain => and_congr_left fun _ => exists_congr fun id => ?_
  split
  · next hid => exact (and_iff_right hid).symm
  · next hid =>
    exact ⟨fun h => absurd h.symm (Option.some_ne_none chain), fun h => absurd h.1 hid⟩

end Resolution

/-! ### Stores of kinds that only read -/

theorem Dialog.contents_of_run {α : Type} {d : Dialog α} (h : d.Asks (Request.Within []))
    {state after : Databases} {outcome : Except Failure α}
    (hrun : d.run Databases.handler state = (outcome, after)) :
    after.primary = state.primary ∧ after.replica = state.replica := by
  have hsame : (d.run Databases.handler state).2.primary = state.primary ∧
      (d.run Databases.handler state).2.replica = state.replica := by
    refine h.run_induction (I := fun now : Databases =>
      now.primary = state.primary ∧ now.replica = state.replica) (fun _ _ h => h)
      (fun r now hr hnow => ?_) ⟨rfl, rfl⟩
    cases r with
    | insert side spec records => exact absurd hr List.not_mem_nil
    | callerSection ids => exact hnow
    | known => exact hnow
    | remember ids => exact hnow
    | find side spec records =>
        rw [show (Databases.handler.reply _ now).2 = now from Databases.reply_find_snd _ _ _ _]
        exact hnow
    | findIds side spec ids =>
        rw [show (Databases.handler.reply _ now).2 = now from Databases.reply_findIds_snd _ _ _ _]
        exact hnow
    | chains side ids =>
        rw [show (Databases.handler.reply _ now).2 = now from Databases.reply_chains_snd _ _ _]
        exact hnow
  rw [hrun] at hsame
  exact hsame

/-- To name the kinds of ids, neither store of kinds inserts anything. -/
theorem KindStore.Standard.asks_resolve {store : KindStore} (h : store.Standard)
    (wanted : List Int) : (store.resolve wanted).Asks (Request.Within []) := by
  cases h with
  | inMemory => exact ⟨trivial, fun _ => trivial⟩
  | inTable read =>
      have hkeep : ∀ entries : List (Record × Int), ((learn entries).bind fun ids =>
          .done (ids.kindsOf wanted)).Asks (Request.Within []) := by
        intro entries
        rw [learn_eq]
        refine ⟨trivial, fun ids => ⟨trivial, fun _ => Dialog.Asks.bind ?_ fun _ => trivial⟩⟩
        exact (Dialog.asks_ofExcept _).bind fun _ => trivial
      rw [inTable_resolve_eq]
      refine ⟨trivial, fun ids => ?_⟩
      show Dialog.Asks _ (ite _ _ _)
      split
      · exact trivial
      · refine Dialog.Asks.bind ⟨trivial, fun found => ?_⟩ fun found => hkeep _
        show Dialog.Asks _ (ite _ _ _)
        split
        · exact trivial
        · exact ⟨trivial, fun _ => trivial⟩

/-! ### What comes of resolving -/

namespace Resolution

open Acquisition (idSet)

/-- What resolving ids returns, once the kinds of their chains are named. -/
structure Returns (read write : Side) (store : KindStore) (ids : List Int) (state : Databases)
    (kinds : SortedMap Int TermKind) (after : Databases) : Prop where
  /-- An id is told to lead to what the first store has whole, or else the second one. -/
  told : ∀ id chain, state.told read write id = some chain ↔ state.Tells read write id chain
  /-- The terms are added in the order of the ids, as far as the filter keeps them. -/
  terms : (∀ chain ∈ state.used read write ids, kinds.get? chain.kindId ≠ none) → ∀ filter,
    (resolve read write store filter ids).run Databases.handler state =
      (.ok (.ofTerms (((state.used read write ids).filterMap (termOf kinds)).filter filter.keeps)),
        after)
  /-- A filter leaves out the slots that it rejects. -/
  restricted : ∀ document, (resolve read write store .all ids).run Databases.handler state =
      (.ok document, after) → ∀ filter,
    (resolve read write store filter ids).run Databases.handler state =
      (.ok (document.restrict filter.accepts), after)
  /-- A kind that is not named fails the call, whatever the filter is. -/
  unknown : (∃ chain ∈ state.used read write ids, kinds.get? chain.kindId = none) →
    ∃ chain ∈ state.used read write ids, kinds.get? chain.kindId = none ∧ ∀ filter,
      (resolve read write store filter ids).run Databases.handler state =
        (.error (.unknownKindId chain.kindId), after)
  /-- No row changes, unless the store of kinds inserts some. -/
  contents : (∀ wanted, (store.resolve wanted).Asks (Request.Within [])) →
    after.primary = state.primary ∧ after.replica = state.replica

/-- What resolving returns, for ids of any number and order, with any filter, on any contents of two
databases whose rows hold records, and with any store of kinds that answers. -/
theorem resolve_returns (read write : Side) (store : KindStore) (ids : List Int)
    {state after : Databases} {kinds : SortedMap Int TermKind}
    (hread : (state.database read).Sound) (hreadTyped : (state.database read).Typed)
    (hwrite : (state.database write).Sound) (hwriteTyped : (state.database write).Typed)
    (hkinds : (store.resolve (idSet ((state.used read write ids).map Chain.kindId))).run
      Databases.handler state = (.ok kinds, after)) :
    Returns read write store ids state kinds after := by
  have heach := Databases.readsEach_lookChains hread hreadTyped hwrite hwriteTyped
  obtain ⟨rows, hrows⟩ := (heach.ok_iff ids).2 fun _ _ => trivial
  have hget : ∀ id, rows.get? id = if id ∈ ids then state.told read write id else none :=
    fun id => Databases.get?_lookChains heach hrows
  -- whatever the filter is, the same chains are added one after the other
  have hrun : ∀ filter, (resolve read write store filter ids).run Databases.handler state =
      ((state.used read write ids).foldlM (addChain kinds filter) .empty, after) := by
    intro filter
    rw [run_resolve_eq, hrows]
    simp only [readKinds_eq_of_told hget, hkinds]
    rw [build_eq_of_told fun id hid => (hget id).trans (if_pos hid)]
  have hterms : (∀ chain ∈ state.used read write ids, kinds.get? chain.kindId ≠ none) →
      ∀ filter, (resolve read write store filter ids).run Databases.handler state =
        (.ok (.ofTerms (((state.used read write ids).filterMap (termOf kinds)).filter
          filter.keeps)), after) := by
    intro hknown filter
    rw [hrun, foldlM_addChain_of_known hknown]
    rfl
  have hunknown : (∃ chain ∈ state.used read write ids, kinds.get? chain.kindId = none) →
      ∃ chain ∈ state.used read write ids, kinds.get? chain.kindId = none ∧ ∀ filter,
        (resolve read write store filter ids).run Databases.handler state =
          (.error (.unknownKindId chain.kindId), after) := by
    intro h
    obtain ⟨chain, hmem, hnone, hfold⟩ := exists_foldlM_addChain_eq_error h
    refine ⟨chain, hmem, hnone, fun filter => ?_⟩
    rw [hrun, hfold]
  refine ⟨Databases.told_iff hread hreadTyped hwrite hwriteTyped, hterms,
    fun document hall filter => ?_, hunknown,
    fun hreads => Dialog.contents_of_run (hreads _) hkinds⟩
  by_cases hknown : ∀ chain ∈ state.used read write ids, kinds.get? chain.kindId ≠ none
  · rw [hterms hknown .all] at hall
    obtain ⟨hdocument, -⟩ := Prod.mk.inj hall
    rw [hterms hknown filter, ← Except.ok.inj hdocument,
      List.filter_eq_self.2 fun term _ => (rfl : ResolveFilter.all.keeps term = true),
      ← Document.ofTerms_filter]
    rfl
  · simp only [not_forall, not_not] at hknown
    obtain ⟨chain, hmem, hnone⟩ := hknown
    obtain ⟨_, -, -, hfails⟩ := hunknown ⟨chain, hmem, hnone⟩
    rw [hfails .all] at hall
    cases hall

/-- A label, and a term without its text. -/
def berlinStore : Database := .stocked [
  (.kinds, [[.text "label"]]),
  (.texts, [[.text "Berlin"]]),
  (.textsInLanguage, [[.integer 1, .text "en"]]),
  (.termsInLanguage, [[.integer 1, .integer 1], [.integer 5, .integer 1]])]

/-- Another label, and an alias, under the same ids. -/
def bonnStore : Database := .stocked [
  (.kinds, [[.text "label"], [.text "alias"]]),
  (.texts, [[.text "Bonn"], [.text "Athens"]]),
  (.textsInLanguage, [[.integer 1, .text "en"], [.integer 2, .text "en"]]),
  (.termsInLanguage, [[.integer 1, .integer 1], [.integer 2, .integer 2]])]

/-- The one as the primary, and the other as its replica. -/
def bonnBerlin : Databases := ⟨bonnStore, some berlinStore, .none⟩

/-- The chain of the label is the replica's and that of the alias the primary's; a filter for labels
leaves the alias out. -/
theorem bonnBerlin_returned :
    ∃ after, ((KindStore.inTable .replica .primary).resolve (idSet
      ((bonnBerlin.used .replica .primary [2, 1, 7, 2]).map Chain.kindId))).run Databases.handler
        bonnBerlin = (.ok (.ofList [(1, .label), (2, .aliases)]), after) ∧
      Returns .replica .primary (.inTable .replica .primary) [2, 1, 7, 2] bonnBerlin
        (.ofList [(1, .label), (2, .aliases)]) after ∧
      (resolve .replica .primary (.inTable .replica .primary) .all [2, 1, 7, 2]).run
        Databases.handler bonnBerlin =
          (.ok (.ofTerms [⟨.aliases, "en", "Athens"⟩, ⟨.label, "en", "Berlin"⟩]), after) ∧
      (resolve .replica .primary (.inTable .replica .primary) ⟨[.label], []⟩ [2, 1, 7, 2]).run
        Databases.handler bonnBerlin = (.ok (.ofTerms [⟨.label, "en", "Berlin"⟩]), after) := by
  obtain ⟨hprimary, hprimaryTyped⟩ : bonnStore.Sound ∧ bonnStore.Typed :=
    Database.sound_typed_stocked (by decide)
  obtain ⟨hreplica, hreplicaTyped⟩ : berlinStore.Sound ∧ berlinStore.Typed :=
    Database.sound_typed_stocked (by decide)
  rw [← Databases.database_replica bonnStore berlinStore .none] at hreplica hreplicaTyped
  have hkinds : (((KindStore.inTable .replica .primary).resolve (idSet
      ((bonnBerlin.used .replica .primary [2, 1, 7, 2]).map Chain.kindId))).run Databases.handler
        bonnBerlin).1 = .ok (.ofList [(1, .label), (2, .aliases)]) := by decide +kernel
  have hreturns : Returns .replica .primary (.inTable .replica .primary) [2, 1, 7, 2] bonnBerlin
      (.ofList [(1, .label), (2, .aliases)]) _ :=
    resolve_returns .replica .primary _ [2, 1, 7, 2] hreplica hreplicaTyped hprimary
      hprimaryTyped (Prod.fst_eq_iff.1 hkinds)
  have hknown : ∀ chain ∈ bonnBerlin.used .replica .primary [2, 1, 7, 2],
      (SortedMap.ofList [(1, TermKind.label), (2, .aliases)]).get? chain.kindId ≠ none := by
    decide +kernel
  have hterms : (bonnBerlin.used .replica .primary [2, 1, 7, 2]).filterMap
      (termOf (.ofList [(1, .label), (2, .aliases)])) =
        [⟨.aliases, "en", "Athens"⟩, ⟨.label, "en", "Berlin"⟩] := by decide +kernel
  have hfiltered := hreturns.terms hknown
  rw [hterms] at hfiltered
  exact ⟨_, Prod.fst_eq_iff.1 hkinds, hreturns, hfiltered .all, hfiltered ⟨[.label], []⟩⟩

end Resolution

end TermStore
