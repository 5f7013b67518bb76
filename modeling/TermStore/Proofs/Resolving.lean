import TermStore.Proofs.Documents
import TermStore.Proofs.Join
import TermStore.Proofs.Kinds
import TermStore.Proofs.Reading
import TermStore.Resolution

/-!
# Resolving what was acquired

Ids are resolved with what the replica has of them first; what it lacks is read on the primary. If
the replica has no rows but those of the primary, that comes to reading all of it on the primary
(`run_fallback`), both for the chains of the ids and for the kinds of their terms. So from a batch
whose ids lead to its terms, and whose kinds the store of kinds names (`Batch.Stored`), the document
of its distinct terms is made, in their order.
-/

namespace TermStore

open Storage (TableSpec Table Record Cell Database Values)
open Storage.Database (Chain Clear Held)

/-! ### Rows on a database that lags behind -/

namespace Storage.Database

/-- Where an id leads to a term in the end, its rows hold records before, as far as they are
there. -/
theorem Within.clear {db db' : Database} {id kindId : Int} {language text : String}
    (h : db.Within db') (hleads : db'.LeadsTo id kindId language text) : db.Clear id := by
  obtain ⟨middleId, textId, hterm, hmiddle, htext⟩ := hleads
  have hheld : ∀ {spec : TableSpec} {id : Int} {record : Record}, spec ∈ TableSpec.all →
      spec.Takes record → db'.Has spec id record → db.Held spec id :=
    fun hspec htakes hhas _ _ htable hget => ⟨_, htakes, h.has_of_row hspec hhas htable hget⟩
  refine ⟨hheld TableSpec.mem_all_termsInLanguage (TableSpec.takes_termsInLanguage _ _) hterm,
    fun middleId' kindId' hterm' => ?_,
    fun middleId' kindId' textId' language' hterm' hmiddle' => ?_⟩
  · have hrecord := (h.has TableSpec.mem_all_termsInLanguage hterm').functional hterm
    simp only [List.cons.injEq, Cell.integer.injEq, and_true] at hrecord
    rw [hrecord.1]
    exact hheld TableSpec.mem_all_textsInLanguage (TableSpec.takes_textsInLanguage _ _) hmiddle
  · have hrecord := (h.has TableSpec.mem_all_termsInLanguage hterm').functional hterm
    simp only [List.cons.injEq, Cell.integer.injEq, and_true] at hrecord
    rw [hrecord.1] at hmiddle'
    have hrecord' := (h.has TableSpec.mem_all_textsInLanguage hmiddle').functional hmiddle
    simp only [List.cons.injEq, Cell.integer.injEq, and_true] at hrecord'
    rw [hrecord'.1]
    exact hheld TableSpec.mem_all_texts (TableSpec.takes_texts _) htext

end Storage.Database

/-! ### Reading what one store lacks from another one -/

namespace Resolution

section Fallback

variable {α : Type} {first second : List Int → Dialog (SortedMap Int α)} {wanted : List Int}
  {holds : Int → α → Prop} {state : Databases}

/-- What a first store has of some ids, and the rest from a second one. -/
def fallback (first second : List Int → Dialog (SortedMap Int α)) (wanted : List Int) :
    Dialog (SortedMap Int α) := do
  let found ← first wanted
  let missing := wanted.filter fun id => !found.contains id
  if missing.isEmpty then return found
  else return found.union (← second missing)

/-- If the first store tells nothing that does not hold, the second one's answer counts for all
ids. -/
theorem run_fallback (hfunctional : ∀ id value other, holds id value → holds id other →
      value = other)
    (hfirst : ∃ found, (first wanted).run Databases.handler state = (.ok found, state) ∧
      ∀ id value, found.get? id = some value → id ∈ wanted ∧ holds id value)
    (hsecond : ∀ missing, (∀ id ∈ missing, id ∈ wanted) →
      ∃ found, (second missing).run Databases.handler state = (.ok found, state) ∧
        ∀ id value, found.get? id = some value ↔ id ∈ missing ∧ holds id value) :
    ∃ found, (fallback first second wanted).run Databases.handler state = (.ok found, state) ∧
      ∀ id value, found.get? id = some value ↔ id ∈ wanted ∧ holds id value := by
  obtain ⟨found, hrun, hfound⟩ := hfirst
  have hkept : ∀ id value, id ∉ wanted.filter (fun id => !found.contains id) → id ∈ wanted →
      holds id value → found.get? id = some value := by
    intro id value hmissing hid hholds
    have hcontains : found.contains id = true := by
      by_contra hnot
      exact hmissing (List.mem_filter.2 ⟨hid, by simpa using hnot⟩)
    obtain ⟨other, hother⟩ := SortedMap.contains_iff.1 hcontains
    rw [hother, hfunctional id other value (hfound id other hother).2 hholds]
  by_cases hempty : (wanted.filter fun id => !found.contains id).isEmpty = true
  · refine ⟨found, Dialog.run_bind_eq_ok_iff.2 ⟨found, state, hrun, ?_⟩, fun id value => ?_⟩
    · show Dialog.run _ (ite _ _ _) _ = _
      rw [if_pos hempty]
      rfl
    · refine ⟨hfound id value, fun hholds => hkept id value ?_ hholds.1 hholds.2⟩
      rw [List.isEmpty_iff.1 hempty]
      exact List.not_mem_nil
  · obtain ⟨rest, hrest, hiff⟩ := hsecond (wanted.filter fun id => !found.contains id)
      fun id hid => (List.mem_filter.1 hid).1
    refine ⟨found.union rest, Dialog.run_bind_eq_ok_iff.2 ⟨found, state, hrun, ?_⟩,
      fun id value => ?_⟩
    · show Dialog.run _ (ite _ _ _) _ = _
      rw [if_neg hempty]
      exact Dialog.run_bind_eq_ok_iff.2 ⟨rest, state, hrest, rfl⟩
    · rw [SortedMap.get?_union]
      cases hget : rest.get? id with
      | some other =>
          obtain ⟨hmem, hholds⟩ := (hiff id other).1 hget
          rw [Option.some_or, Option.some.injEq]
          constructor
          · rintro rfl
            exact ⟨(List.mem_filter.1 hmem).1, hholds⟩
          · rintro ⟨-, hvalue⟩
            exact hfunctional id other value hholds hvalue
      | none =>
          rw [Option.none_or]
          refine ⟨hfound id value, fun hholds => hkept id value (fun hmem => ?_) hholds.1 hholds.2⟩
          rw [(hiff id value).2 ⟨hmem, hholds.2⟩] at hget
          cases hget

end Fallback

/-! ### Chains -/

section Chains

variable {state : Databases} {side : Side} {ids : List Int}

/-- On a store that follows the primary, the chains of ids that lead to terms there can be read. -/
theorem exists_run_chains (h : state.Follows side)
    (hleads : ∀ id ∈ ids, ∃ kindId language text,
      state.primary.LeadsTo id kindId language text) :
    ∃ found, (Dialog.chains side ids).run Databases.handler state = (.ok found, state) ∧
      ∀ id chain, found.get? id = some chain ↔
        id ∈ ids ∧ (state.database side).LeadsTo id chain.kindId chain.language chain.text := by
  have hclear : ∀ id ∈ ids, (state.database side).Clear id := by
    intro id hid
    obtain ⟨kindId, language, text, hid⟩ := hleads id hid
    exact h.within.clear hid
  obtain ⟨found, hfound, hiff⟩ := Database.exists_chains_of_clear h.sound hclear
  exact ⟨found, (Dialog.run_request Databases.handler (.chains side ids) state).trans
    (congrArg state.readOnly hfound), hiff⟩

/-- Chains are read as they are on the primary. -/
theorem exists_run_readChains (hsound : state.primary.Sound) (h : state.Follows side)
    (hleads : ∀ id ∈ ids, ∃ kindId language text,
      state.primary.LeadsTo id kindId language text) :
    ∃ rows, (readChains side .primary ids).run Databases.handler state = (.ok rows, state) ∧
      ∀ id chain, rows.get? id = some chain ↔
        id ∈ ids ∧ state.primary.LeadsTo id chain.kindId chain.language chain.text := by
  have hwanted : ∀ id ∈ Acquisition.idSet ids, ∃ kindId language text,
      state.primary.LeadsTo id kindId language text :=
    fun id hid => hleads id (Acquisition.mem_idSet.1 hid)
  have hfunctional : ∀ (id : Int) (chain other : Chain),
      state.primary.LeadsTo id chain.kindId chain.language chain.text →
      state.primary.LeadsTo id other.kindId other.language other.text → chain = other := by
    intro id chain other hchain hother
    obtain ⟨hkind, hlanguage, htext⟩ := hchain.functional hother
    cases chain
    cases other
    simp only [Chain.mk.injEq]
    exact ⟨hkind, hlanguage, htext⟩
  obtain ⟨found, hfound, hiff⟩ := exists_run_chains h hwanted
  obtain ⟨rows, hrun, hrows⟩ := run_fallback hfunctional
    ⟨found, hfound, fun id chain hget =>
      ⟨((hiff id chain).1 hget).1, h.within.leadsTo ((hiff id chain).1 hget).2⟩⟩
    fun missing hmissing => exists_run_chains (Databases.follows_primary hsound) fun id hid =>
      hwanted id (hmissing id hid)
  refine ⟨rows, hrun, fun id chain => ?_⟩
  rw [hrows id chain, Acquisition.mem_idSet]

end Chains

end Resolution

/-! ### Kinds -/

namespace KindStore

variable {store : KindStore} {state : Databases} {used : TermKind → Int → Prop}
  {ids ids' : KindIds} {wanted : List Int} {kind other : TermKind} {id id' : Int}

/-- A store of kinds names some kinds by ids: what it remembers is right, and it remembers these
ids, or they are in its table. -/
inductive Names (state : Databases) (used : TermKind → Int → Prop) : KindStore → Prop
  | inMemory (h : state.kindIds.Distinct)
      (hused : ∀ kind id, used kind id → state.kindIds.get? kind = some id) :
      Names state used .inMemory
  | inTable (read : Side) (h : Recorded state.kindIds state.primary)
      (hused : ∀ kind id, used kind id → state.primary.Has .kinds id (recordOf kind)) :
      Names state used (.inTable read .primary)

/-- What is remembered is named. -/
theorem Faithful.names (h : store.Faithful state)
    (hused : ∀ kind id, used kind id → state.kindIds.get? kind = some id) :
    store.Names state used := by
  cases h with
  | inMemory h => exact .inMemory h hused
  | inTable read h => exact .inTable read h fun kind id hkind => h kind id (hused kind id hkind)

/-- No id names two kinds. -/
theorem Names.kind_unique (h : store.Names state used) (hkind : used kind id)
    (hother : used other id) : kind = other := by
  cases h with
  | inMemory h hused => exact h kind other id (hused kind id hkind) (hused other id hother)
  | inTable read h hused =>
      exact recordOf_injective ((hused kind id hkind).functional (hused other id hother))

/-- No kind has two names. -/
theorem Names.id_unique (h : store.Names state used) (hsound : state.primary.Sound)
    (hid : used kind id) (hid' : used kind id') : id = id' := by
  cases h with
  | inMemory h hused =>
      exact Option.some.inj ((hused kind id hid).symm.trans (hused kind id' hid'))
  | inTable read h hused =>
      exact hsound.has_unique TableSpec.mem_all_kinds (hused kind id hid) (hused kind id' hid')

/-- Records of kinds can be learned. -/
theorem exists_learned (ids : KindIds) {entries : List (Record × Int)}
    (h : ∀ entry ∈ entries, ∃ kind, entry.1 = recordOf kind) :
    ∃ ids', learned ids entries = (ids', .ok ()) := by
  induction entries generalizing ids with
  | nil => exact ⟨ids, rfl⟩
  | cons entry rest ih =>
      obtain ⟨record, id⟩ := entry
      obtain ⟨kind, rfl⟩ := h _ List.mem_cons_self
      rw [learned, kindOf_recordOf]
      exact ih _ fun entry hentry => h entry (List.mem_cons_of_mem _ hentry)

theorem run_learn_of_learned {entries : List (Record × Int)}
    (h : learned state.kindIds entries = (ids, .ok ())) :
    (learn entries).run Databases.handler state = (.ok ids, { state with kindIds := ids }) := by
  show Dialog.run _ (Dialog.bind (Dialog.ofExcept (learned state.kindIds entries).2) _)
    { state with kindIds := (learned state.kindIds entries).1 } = _
  rw [h]
  rfl

/-- What the reading of kinds comes to: the wanted kinds are read, and remembered. -/
structure Resolved (store : KindStore) (used : TermKind → Int → Prop) (wanted : List Int)
    (state : Databases) (kinds : SortedMap Int TermKind) (ids : KindIds) : Prop where
  faithful : store.Faithful { state with kindIds := ids }
  kinds : ∀ kind, ∀ id ∈ wanted, used kind id → kinds.get? id = some kind
  ids : ∀ kind, ∀ id ∈ wanted, used kind id → ids.get? kind = some id

section InTable

variable {read : Side}

/-- The wanted ids that are not remembered. -/
def unknownIds (ids : KindIds) (wanted : List Int) : List Int :=
  Acquisition.idSet (wanted.filter fun id => !(ids.toList.any fun entry => entry.2 == id))

theorem mem_unknownIds :
    id ∈ unknownIds ids wanted ↔ id ∈ wanted ∧ ∀ kind, ids.get? kind ≠ some id := by
  unfold unknownIds
  rw [Acquisition.mem_idSet, List.mem_filter]
  refine and_congr_right fun _ => ?_
  rw [Bool.not_eq_true', List.any_eq_false]
  constructor
  · intro h kind hkind
    exact h (kind, id) (KindIds.mem_toList_iff.2 hkind) (beq_self_eq_true id)
  · rintro h ⟨kind, own⟩ hmem heq
    obtain rfl : own = id := beq_iff_eq.1 heq
    exact h kind (KindIds.mem_toList_iff.1 hmem)

/-- A wanted id that is not unknown is remembered. -/
theorem exists_get?_of_not_mem_unknownIds (hid : id ∈ wanted)
    (hknown : id ∉ unknownIds ids wanted) : ∃ kind, ids.get? kind = some id := by
  by_contra hnone
  exact hknown (mem_unknownIds.2 ⟨hid, fun kind hkind => hnone ⟨kind, hkind⟩⟩)

theorem inTable_resolve_eq (read : Side) (wanted : List Int) :
    (inTable read .primary).resolve wanted =
      .ask .known fun ids =>
        if (unknownIds ids wanted).isEmpty then .done (ids.kindsOf wanted)
        else
          (Resolution.fallback (Dialog.findIds read .kinds) (Dialog.findIds .primary .kinds)
            (unknownIds ids wanted)).bind fun found =>
          (learn (found.entries.map fun entry => (entry.2, entry.1))).bind fun ids =>
            .done (ids.kindsOf wanted) := by
  refine congrArg (Dialog.ask .known) (funext fun ids => ?_)
  show ite ((unknownIds ids wanted).isEmpty = true) _ _ = _
  by_cases hempty : (unknownIds ids wanted).isEmpty = true
  · rw [if_pos hempty, if_pos hempty]
    rfl
  · rw [if_neg hempty, if_neg hempty]
    refine congrArg (Dialog.ask (.findIds read .kinds (unknownIds ids wanted)))
      (funext fun found => ?_)
    show ite (((unknownIds ids wanted).filter fun id => !found.contains id).isEmpty = true) _ _ =
      Dialog.bind (ite (((unknownIds ids wanted).filter fun id =>
        !found.contains id).isEmpty = true) _ _) _
    split
    · rfl
    · rfl

/-- On a store that follows the primary, the rows of kinds that it has read as they are there. -/
theorem exists_run_findIds {side : Side} (h : state.Follows side)
    (hhas : ∀ id ∈ wanted, ∃ kind, state.primary.Has .kinds id (recordOf kind)) :
    ∃ found, (Dialog.findIds side .kinds wanted).run Databases.handler state = (.ok found, state) ∧
      ∀ id record, found.get? id = some record ↔
        id ∈ wanted ∧ (state.database side).Has .kinds id record := by
  obtain ⟨found, hfound⟩ := (h.sound.findIds_ok_iff TableSpec.mem_all_kinds).2 fun id hid => by
    obtain ⟨kind, hkind⟩ := hhas id hid
    exact h.within.readable TableSpec.mem_all_kinds hkind
  refine ⟨found, (Dialog.run_request Databases.handler (.findIds side .kinds wanted) state).trans
    (congrArg state.readOnly hfound), fun id record => ?_⟩
  rw [h.sound.findIds_iff TableSpec.mem_all_kinds hfound]
  refine and_congr_right fun hid => ⟨fun hreads => ?_, fun hrow => hrow.reads⟩
  obtain ⟨kind, hkind⟩ := hhas id hid
  exact h.within.has_of_reads TableSpec.mem_all_kinds hkind hreads

/-- Kinds in a table are read from memory, and those that are not remembered are looked up. -/
theorem exists_run_inTable_resolve (hsound : state.primary.Sound) (hlags : state.Lags)
    (hright : Recorded state.kindIds state.primary)
    (hused : ∀ kind id, used kind id → state.primary.Has .kinds id (recordOf kind))
    (hwanted : ∀ id ∈ wanted, ∃ kind, used kind id) :
    ∃ kinds ids, ((inTable read .primary).resolve wanted).run Databases.handler state =
        (.ok kinds, { state with kindIds := ids }) ∧
      Resolved (.inTable read .primary) used wanted state kinds ids := by
  -- whatever is remembered in the end, if it is right and has the wanted kinds, they are read
  have hread : ∀ ids : KindIds, Recorded ids state.primary →
      (∀ kind, ∀ id ∈ wanted, used kind id → (ids.get? kind).isSome = true) →
      Resolved (.inTable read .primary) used wanted state (ids.kindsOf wanted) ids := by
    intro ids hids hknown
    have hget : ∀ kind, ∀ id ∈ wanted, used kind id → ids.get? kind = some id := by
      intro kind id hid hkind
      obtain ⟨own, hown⟩ := Option.isSome_iff_exists.1 (hknown kind id hid hkind)
      rw [hown, hsound.has_unique TableSpec.mem_all_kinds (hids kind own hown)
        (hused kind id hkind)]
    exact ⟨.inTable read hids, fun kind id hid hkind =>
      hids.distinct.get?_kindsOf.2 ⟨hid, hget kind id hid hkind⟩, hget⟩
  have hremembered : ∀ kind id, used kind id → id ∈ wanted → id ∉ unknownIds state.kindIds wanted →
      (state.kindIds.get? kind).isSome = true := by
    intro kind id hkind hid hknown
    obtain ⟨other, hother⟩ := exists_get?_of_not_mem_unknownIds hid hknown
    obtain rfl := recordOf_injective ((hright other id hother).functional (hused kind id hkind))
    rw [hother]
    rfl
  rw [inTable_resolve_eq]
  by_cases hempty : (unknownIds state.kindIds wanted).isEmpty = true
  · refine ⟨_, state.kindIds, ?_, hread state.kindIds hright fun kind id hid hkind =>
      hremembered kind id hkind hid ?_⟩
    · show Dialog.run _ (ite _ _ _) _ = _
      rw [if_pos hempty]
      rfl
    · rw [List.isEmpty_iff.1 hempty]
      exact List.not_mem_nil
  · have hhas : ∀ id ∈ unknownIds state.kindIds wanted,
        ∃ kind, state.primary.Has .kinds id (recordOf kind) := by
      intro id hid
      obtain ⟨kind, hkind⟩ := hwanted id (mem_unknownIds.1 hid).1
      exact ⟨kind, hused kind id hkind⟩
    have hfollows := hlags.follows hsound read
    obtain ⟨known, hknown, hiff⟩ := exists_run_findIds hfollows hhas
    have hfunctional : ∀ (id : Int) (record other : Record), state.primary.Has .kinds id record →
        state.primary.Has .kinds id other → record = other :=
      fun _ _ _ => Database.Has.functional
    obtain ⟨found, hfound, hrows⟩ := Resolution.run_fallback hfunctional
      ⟨known, hknown, fun id record hget => ⟨((hiff id record).1 hget).1,
        hfollows.within.has TableSpec.mem_all_kinds ((hiff id record).1 hget).2⟩⟩
      fun missing hmissing => exists_run_findIds (Databases.follows_primary hsound)
        fun id hid => hhas id (hmissing id hid)
    have hentries : ∀ entry ∈ found.entries.map fun entry => (entry.2, entry.1),
        entry.2 ∈ unknownIds state.kindIds wanted ∧ state.primary.Has .kinds entry.2 entry.1 := by
      intro entry hentry
      exact (hrows entry.2 entry.1).1 (SortedMap.mem_map_swap_iff.1 hentry)
    obtain ⟨ids, hlearned⟩ := exists_learned state.kindIds fun entry hentry => by
      obtain ⟨hid, hrow⟩ := hentries entry hentry
      obtain ⟨kind, hkind⟩ := hhas entry.2 hid
      exact ⟨kind, hrow.functional hkind⟩
    have hright' : Recorded ids state.primary :=
      hright.learned hlearned fun entry hentry => (hentries entry hentry).2
    refine ⟨_, ids, ?_, hread ids hright' fun kind id hid hkind =>
      isSome_get?_learned hlearned ?_⟩
    · show Dialog.run _ (ite _ _ _) _ = _
      rw [if_neg hempty]
      refine Dialog.run_bind_eq_ok_iff.2 ⟨found, state, hfound, ?_⟩
      exact Dialog.run_bind_eq_ok_iff.2 ⟨ids, _, run_learn_of_learned hlearned, rfl⟩
    · by_cases hunknown : id ∈ unknownIds state.kindIds wanted
      · have hget := (hrows id (recordOf kind)).2 ⟨hunknown, hused kind id hkind⟩
        exact Or.inr (List.mem_map.2
          ⟨(recordOf kind, id), SortedMap.mem_map_swap_iff.2 hget, rfl⟩)
      · exact Or.inl (hremembered kind id hkind hid hunknown)

end InTable

/-- Wanted kinds that a store of kinds names are read. -/
theorem Names.exists_run_resolve (h : store.Names state used) (hsound : state.primary.Sound)
    (hlags : state.Lags) (hwanted : ∀ id ∈ wanted, ∃ kind, used kind id) :
    ∃ kinds ids, (store.resolve wanted).run Databases.handler state =
        (.ok kinds, { state with kindIds := ids }) ∧
      store.Resolved used wanted state kinds ids := by
  cases h with
  | inMemory h hused =>
      exact ⟨_, state.kindIds, rfl, .inMemory h, fun kind id hid hkind =>
        h.get?_kindsOf.2 ⟨hid, hused kind id hkind⟩, fun kind id _ hkind => hused kind id hkind⟩
  | inTable read h hused => exact exists_run_inTable_resolve hsound hlags h hused hwanted

end KindStore

/-! ### Documents -/

/-- Does the filter keep a term? -/
def ResolveFilter.keeps (filter : ResolveFilter) (term : Term) : Bool :=
  filter.accepts term.kind term.language

/-- What the rows of an occurrence tell, if its id leads to its term. -/
def AcquiredTerm.chain (acquired : AcquiredTerm) : Chain :=
  ⟨acquired.kindId, acquired.term.language, acquired.term.text⟩

/-- The kinds of a batch with their ids. -/
def Batch.Uses (batch : Batch) (kind : TermKind) (id : Int) : Prop :=
  ∃ acquired ∈ batch, acquired.term.kind = kind ∧ acquired.kindId = id

theorem Batch.uses_of_mem {batch : Batch} {acquired : AcquiredTerm} (h : acquired ∈ batch) :
    batch.Uses acquired.term.kind acquired.kindId :=
  ⟨acquired, h, rfl, rfl⟩

/-- A batch is stored: its ids lead to its terms, and its kinds are named by their ids. -/
structure Batch.Stored (batch : Batch) (store : KindStore) (state : Databases) : Prop where
  leads : batch.Leads state.primary
  names : store.Names state batch.Uses

namespace Batch.Stored

variable {batch : Batch} {store : KindStore} {state : Databases} (h : batch.Stored store state)

include h

/-- Different occurrences have different ids. -/
theorem eq_of_id_eq {a b : AcquiredTerm} (ha : a ∈ batch) (hb : b ∈ batch) (hid : a.id = b.id) :
    a = b := by
  obtain ⟨hkindId, hlanguage, htext⟩ := (h.leads a ha).functional (hid ▸ h.leads b hb)
  have hb' := uses_of_mem hb
  rw [← hkindId] at hb'
  have hkind := h.names.kind_unique (uses_of_mem ha) hb'
  obtain ⟨⟨_, _, _⟩, _, _⟩ := a
  obtain ⟨⟨_, _, _⟩, _, _⟩ := b
  simp_all only

/-- Occurrences of one term are the same. -/
theorem eq_of_term_eq (hsound : state.primary.Sound) {a b : AcquiredTerm} (ha : a ∈ batch)
    (hb : b ∈ batch) (hterm : a.term = b.term) : a = b := by
  have hb' := uses_of_mem hb
  rw [← hterm] at hb'
  have hkindId := h.names.id_unique hsound (uses_of_mem ha) hb'
  have hleads := h.leads b hb
  rw [← hterm, ← hkindId] at hleads
  exact h.eq_of_id_eq ha hb (hsound.leadsTo_unique (h.leads a ha) hleads)

end Batch.Stored

namespace Resolution

variable {batch : Batch} {store : KindStore} {state : Databases} {rows : SortedMap Int Chain}
  {kinds : SortedMap Int TermKind} {filter : ResolveFilter}

/-- The term that a chain tells of, if its kind is known. -/
def termOf (kinds : SortedMap Int TermKind) (chain : Chain) : Option Term :=
  (kinds.get? chain.kindId).map fun kind => ⟨kind, chain.language, chain.text⟩

theorem addChain_of_termOf {chain : Chain} {term : Term} (h : termOf kinds chain = some term)
    (d : Document) : addChain kinds filter d chain = .ok (if filter.keeps term then
      d.insert term.kind term.language term.text else d) := by
  obtain ⟨kind, hkind, rfl⟩ := Option.map_eq_some_iff.1 h
  unfold addChain
  rw [hkind]
  show ite (filter.keeps ⟨kind, chain.language, chain.text⟩ = true) _ _ = _
  split
  · rfl
  · rfl

/-- Chains whose kinds are known are added as the terms that they tell of. -/
theorem foldlM_addChain {chains : List Chain} {terms : List Term}
    (h : List.Forall₂ (fun chain term => termOf kinds chain = some term) chains terms)
    (d : Document) : chains.foldlM (addChain kinds filter) d =
      .ok ((terms.filter filter.keeps).foldl
        (fun d term => d.insert term.kind term.language term.text) d) := by
  induction h generalizing d with
  | nil => rfl
  | @cons chain term _ _ hterm _ ih =>
      rw [List.foldlM_cons, addChain_of_termOf hterm]
      by_cases hkeeps : filter.keeps term = true
      · rw [if_pos hkeeps, List.filter_cons_of_pos hkeeps, List.foldl_cons]
        exact ih _
      · rw [if_neg hkeeps, List.filter_cons_of_neg hkeeps]
        exact ih d

/-- From rows that tell the terms of a batch, the document of its distinct terms is made. -/
theorem build_eq (hstored : batch.Stored store state) (hsound : state.primary.Sound)
    (hrows : ∀ acquired ∈ batch, rows.get? acquired.id = some acquired.chain)
    (hkinds : ∀ acquired ∈ batch, kinds.get? acquired.kindId = some acquired.term.kind)
    (filter : ResolveFilter) :
    build rows kinds filter batch.ids =
      .ok (.ofTerms ((batch.map AcquiredTerm.term).eraseDups.filter filter.keeps)) := by
  have hids : batch.ids.eraseDups = batch.eraseDups.map AcquiredTerm.id :=
    (map_eraseDups fun a ha b hb => hstored.eq_of_id_eq ha hb).symm
  have hterms : (batch.map AcquiredTerm.term).eraseDups = batch.eraseDups.map AcquiredTerm.term :=
    (map_eraseDups fun a ha b hb => hstored.eq_of_term_eq hsound ha hb).symm
  have hchains : (batch.eraseDups.map AcquiredTerm.id).filterMap rows.get? =
      batch.eraseDups.map AcquiredTerm.chain := by
    rw [List.filterMap_map, ← List.filterMap_eq_map]
    exact List.filterMap_congr fun acquired hmem => hrows acquired (List.mem_eraseDups.1 hmem)
  unfold build Document.ofTerms
  rw [hids, hchains, hterms]
  refine foldlM_addChain (List.forall₂_map_left_iff.2 (List.forall₂_map_right_iff.2
    (List.forall₂_same.2 fun acquired hmem => ?_))) .empty
  exact Option.map_eq_some_iff.2
    ⟨acquired.term.kind, hkinds acquired (List.mem_eraseDups.1 hmem), rfl⟩

/-- What comes of resolving the ids of a batch that is stored: the document of its distinct terms
that the filter keeps. Nothing but the memory of the kinds changes. -/
theorem exists_run_resolve (hstored : batch.Stored store state) (hsound : state.primary.Sound)
    (hlags : state.Lags) (read : Side) (filter : ResolveFilter) :
    ∃ ids, (resolve read .primary store filter batch.ids).run Databases.handler state =
        (.ok (.ofTerms ((batch.map AcquiredTerm.term).eraseDups.filter filter.keeps)),
          { state with kindIds := ids }) ∧
      store.Faithful { state with kindIds := ids } ∧
      ∀ acquired ∈ batch, ids.get? acquired.term.kind = some acquired.kindId := by
  have hleads : ∀ id ∈ batch.ids, ∃ kindId language text,
      state.primary.LeadsTo id kindId language text := by
    intro id hid
    obtain ⟨acquired, hmem, rfl⟩ := List.mem_map.1 hid
    exact ⟨_, _, _, hstored.leads acquired hmem⟩
  obtain ⟨rows, hrun, hrows⟩ :=
    exists_run_readChains hsound (hlags.follows hsound read) hleads
  have hget : ∀ acquired ∈ batch, rows.get? acquired.id = some acquired.chain :=
    fun acquired hmem => (hrows acquired.id acquired.chain).2
      ⟨List.mem_map_of_mem hmem, hstored.leads acquired hmem⟩
  have hwanted : ∀ acquired ∈ batch,
      acquired.kindId ∈ Acquisition.idSet (rows.values.map Chain.kindId) := fun acquired hmem =>
    Acquisition.mem_idSet.2 (List.mem_map.2
      ⟨acquired.chain, SortedMap.mem_values_iff.2 ⟨acquired.id, hget acquired hmem⟩, rfl⟩)
  have hused : ∀ kindId ∈ Acquisition.idSet (rows.values.map Chain.kindId),
      ∃ kind, batch.Uses kind kindId := by
    intro kindId hkindId
    obtain ⟨chain, hchain, rfl⟩ := List.mem_map.1 (Acquisition.mem_idSet.1 hkindId)
    obtain ⟨id, hid⟩ := SortedMap.mem_values_iff.1 hchain
    obtain ⟨hid, hchain⟩ := (hrows id chain).1 hid
    obtain ⟨acquired, hmem, rfl⟩ := List.mem_map.1 hid
    exact ⟨_, acquired, hmem, rfl, ((hstored.leads acquired hmem).functional hchain).1⟩
  obtain ⟨kinds, ids, hresolve, hresolved⟩ :=
    hstored.names.exists_run_resolve hsound hlags hused
  have hkinds : ∀ acquired ∈ batch, kinds.get? acquired.kindId = some acquired.term.kind :=
    fun acquired hmem => hresolved.kinds _ _ (hwanted acquired hmem) (Batch.uses_of_mem hmem)
  refine ⟨ids, ?_, hresolved.faithful, fun acquired hmem =>
    hresolved.ids _ _ (hwanted acquired hmem) (Batch.uses_of_mem hmem)⟩
  refine Dialog.run_bind_eq_ok_iff.2 ⟨rows, state, hrun, ?_⟩
  refine Dialog.run_bind_eq_ok_iff.2 ⟨kinds, _, hresolve, ?_⟩
  rw [build_eq hstored hsound hget hkinds filter]
  rfl

end Resolution

end TermStore
