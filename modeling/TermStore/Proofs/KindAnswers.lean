import TermStore.Proofs.KnownKinds

/-!
# Kinds of ids, one by one

As long as no kind has two ids, a store of kinds answers for each id as if it were asked for that id
alone (`KindStore.Steady.exists_readsEach`). As long as no id has two kinds either, what it answers
for an id it still answers after further calls (`KindStore.Steady.lasts`): it remembers more then,
but it forgets nothing. Where an id is that of one kind on the replica and of another one on the
primary, the one that the store has met first counts.
-/

namespace TermStore

open Storage (TableSpec Record Database)

/-! ### Kinds of ids, one by one -/

namespace KindStore

variable {store : KindStore} {state start : Databases} {read : Side} {ids : KindIds}
  {kind other : TermKind} {id : Int} {wanted : List Int}

/-- What a store answers that is asked for the kinds of ids. -/
def answer (store : KindStore) (state : Databases) (wanted : List Int) :
    Except Failure (SortedMap Int TermKind) :=
  ((store.resolve wanted).run Databases.handler state).1

/-- If the store is one in a table, no kind has two ids in the two tables together. -/
def OneId (store : KindStore) (state : Databases) : Prop :=
  ∀ read, store = .inTable read .primary → ∀ kind id other, state.NamesKind read kind id →
    state.NamesKind read kind other → id = other

/-- If the store is one in a table, no id has two kinds in the two tables together. -/
def OneKind (store : KindStore) (state : Databases) : Prop :=
  ∀ read, store = .inTable read .primary → ∀ kind other id, state.NamesKind read kind id →
    state.NamesKind read other id → kind = other

/-- What is remembered is what rows name, and no kind has two ids. -/
structure Settled (read : Side) (state : Databases) : Prop where
  sound : state.InOrder
  named : ∀ kind id, state.kindIds.get? kind = some id → state.NamesKind read kind id
  unique : ∀ kind id other, state.NamesKind read kind id → state.NamesKind read kind other →
    id = other

/-- The stores whose answers do not depend on what else is asked. -/
inductive Steady (state : Databases) : KindStore → Prop
  | inMemory : Steady state .inMemory
  | inTable (read : Side) (h : Settled read state) : Steady state (.inTable read .primary)

/-- A store that was new at first is steady after any calls. -/
theorem OneId.steady (hstore : store.Standard) (hsound : start.InOrder)
    (hnew : start.kindIds = .none) (calls : List KindCall)
    (h : store.OneId (store.after start calls)) : store.Steady (store.after start calls) := by
  cases hstore with
  | inMemory => exact .inMemory
  | inTable read =>
      have hlearns := learns_after read hsound calls
      exact .inTable read ⟨hlearns.onward.inOrder hsound, fun kind id => hlearns.namesKind hnew,
        h read rfl⟩

/-- An id is remembered for a kind, or it is remembered for none, and is told the kind. -/
def KnownAs (state : Databases) (read : Side) (kind : TermKind) (id : Int) : Prop :=
  state.kindIds.get? kind = some id ∨
    (∀ other, state.kindIds.get? other ≠ some id) ∧ state.TellsRow read id (recordOf kind)

/-- An id is remembered, or what it is told to be can be read and is the name of a kind. -/
def Knowable (state : Databases) (read : Side) (id : Int) : Prop :=
  (∃ kind, state.kindIds.get? kind = some id) ∨
    state.CanTell read id ∧ ∀ record, state.TellsRow read id record → ∃ kind, record = recordOf kind

theorem Settled.namesKind (h : Settled read state) (hknown : KnownAs state read kind id) :
    state.NamesKind read kind id := by
  rcases hknown with hown | ⟨-, htells⟩
  · exact h.named kind id hown
  · exact htells.namesKind

/-- A store in a table answers from memory, once the rows of the ids that it does not remember are
read and learned. -/
theorem answer_inTable_iff (hsound : state.InOrder) {kinds : SortedMap Int TermKind} :
    (inTable read .primary).answer state wanted = .ok kinds ↔
      ∃ found ids, state.lookKinds read (unknownIds state.kindIds wanted) = .ok found ∧
        learnedRows state.kindIds found = (ids, .ok ()) ∧ kinds = ids.kindsOf wanted := by
  unfold answer
  rw [run_inTable_resolve_eq hsound]
  cases hfound : state.lookKinds read (unknownIds state.kindIds wanted) with
  | error fault => exact ⟨nofun, fun ⟨_, _, hfound, _⟩ => nomatch hfound⟩
  | ok found =>
      rcases hlearned : learnedRows state.kindIds found with ⟨own, outcome⟩
      simp only [hlearned]
      constructor
      · intro hkinds
        cases outcome with
        | error failure => cases hkinds
        | ok => exact ⟨found, own, rfl, hlearned, (Except.ok.inj hkinds).symm⟩
      · rintro ⟨_, _, hsame, hown, rfl⟩
        obtain rfl := Except.ok.inj hsame
        rw [hlearned] at hown
        cases hown
        rfl

/-- Asked for ids with others, a store remembers the kinds of each of them as it would alone. -/
theorem Settled.get?_iff (h : Settled read state) {found : SortedMap Int Record}
    (hfound : state.lookKinds read (unknownIds state.kindIds wanted) = .ok found)
    (hlearned : learnedRows state.kindIds found = (ids, .ok ())) (hid : id ∈ wanted) :
    ids.get? kind = some id ↔ KnownAs state read kind id := by
  rw [get?_of_lookKinds h.sound hfound hlearned]
  constructor
  · rintro (⟨⟨hunknown, htells⟩, -⟩ | ⟨hown, -⟩)
    · exact Or.inr ⟨(mem_unknownIds.1 hunknown).2, htells⟩
    · exact Or.inl hown
  · rintro (hown | ⟨hunknown, htells⟩)
    · -- another id of the kind would be this one, and this one is remembered
      refine Or.inr ⟨hown, fun new hnew => (mem_unknownIds.1 hnew.1).2 kind ?_⟩
      rw [hown, h.unique kind id new (h.named kind id hown) hnew.2.namesKind]
    · exact Or.inl ⟨⟨mem_unknownIds.2 ⟨hid, hunknown⟩, htells⟩, fun new hnew =>
        (h.unique kind new id hnew.2.namesKind htells.namesKind).le⟩

theorem exists_answer_inTable_iff (hsound : state.InOrder) :
    (∃ kinds, (inTable read .primary).answer state wanted = .ok kinds) ↔
      ∀ id ∈ wanted, Knowable state read id := by
  have heach := Databases.readsEach_lookKinds hsound read
  constructor
  · rintro ⟨kinds, hkinds⟩ id hid
    obtain ⟨found, ids, hfound, hlearned, -⟩ := (answer_inTable_iff hsound).1 hkinds
    by_cases hunknown : id ∈ unknownIds state.kindIds wanted
    · refine Or.inr ⟨(heach.ok_iff _).1 ⟨found, hfound⟩ id hunknown, fun record hrecord => ?_⟩
      exact exists_learnedRows_iff.1 ⟨ids, hlearned⟩ id record
        ((heach.get?_iff hfound id record).2 ⟨hunknown, hrecord⟩)
    · exact Or.inl (exists_get?_of_not_mem_unknownIds hid hunknown)
  · intro hall
    have hunknown : ∀ id ∈ unknownIds state.kindIds wanted, state.CanTell read id ∧
        ∀ record, state.TellsRow read id record → ∃ kind, record = recordOf kind := by
      intro id hmem
      obtain ⟨hid, hnone⟩ := mem_unknownIds.1 hmem
      exact (hall id hid).resolve_left fun ⟨kind, hkind⟩ => hnone kind hkind
    obtain ⟨found, hfound⟩ := (heach.ok_iff _).2 fun id hid => (hunknown id hid).1
    obtain ⟨ids, hlearned⟩ : ∃ ids, learnedRows state.kindIds found = (ids, .ok ()) := by
      refine exists_learnedRows_iff.2 fun id record hget => ?_
      obtain ⟨hid, htells⟩ := (heach.get?_iff hfound id record).1 hget
      exact (hunknown id hid).2 record htells
    exact ⟨_, (answer_inTable_iff hsound).2 ⟨found, ids, hfound, hlearned, rfl⟩⟩

/-- Each id is asked for as if it were alone. -/
theorem Steady.exists_readsEach (h : store.Steady state) :
    ∃ readable names, ReadsEach (store.answer state) readable names := by
  cases h with
  | inMemory =>
      refine ⟨fun _ => True, _, .of_alone (fun ids => ⟨fun _ _ _ => trivial, fun _ => ⟨_, rfl⟩⟩)
        ?_ ?_⟩
      · rintro ids found hfound id kind hkind
        obtain rfl := Except.ok.inj hfound
        exact (KindIds.of_get?_kindsOf hkind).1
      · rintro ids found hfound id alone halone hid
        obtain rfl := Except.ok.inj hfound
        obtain rfl := Except.ok.inj halone
        exact KindIds.get?_kindsOf_congr hid (List.mem_singleton_self id) fun _ => Iff.rfl
  | inTable read h =>
      refine ⟨Knowable state read, _, .of_alone (fun ids => exists_answer_inTable_iff h.sound)
        ?_ ?_⟩
      · rintro ids found hfound id kind hkind
        obtain ⟨_, _, -, -, rfl⟩ := (answer_inTable_iff h.sound).1 hfound
        exact (KindIds.of_get?_kindsOf hkind).1
      · rintro ids found hfound id alone halone hid
        obtain ⟨rows, own, hrows, hlearned, rfl⟩ := (answer_inTable_iff h.sound).1 hfound
        obtain ⟨rows', own', hrows', hlearned', rfl⟩ := (answer_inTable_iff h.sound).1 halone
        have hone := List.mem_singleton_self id
        refine KindIds.get?_kindsOf_congr hid hone fun kind => ?_
        rw [h.get?_iff hrows hlearned hid, h.get?_iff hrows' hlearned' hone]

/-! ### Answers that last -/

/-- The process numbers further kinds, and leaves the numbers that are taken. -/
theorem after_inMemory (calls : List KindCall) (state : Databases) :
    ∃ ids, inMemory.after state calls = { state with kindIds := ids } ∧
      ∀ id, (∃ other, state.kindIds.get? other = some id) → ∀ kind,
        ids.get? kind = some id ↔ state.kindIds.get? kind = some id := by
  induction calls generalizing state with
  | nil => exact ⟨state.kindIds, rfl, fun _ _ _ => Iff.rfl⟩
  | cons call rest ih =>
      cases call with
      | acquire kinds =>
          obtain ⟨ids, hafter, hkept⟩ := ih { state with kindIds := state.kindIds.number kinds }
          refine ⟨ids, hafter, fun id htaken kind => ?_⟩
          obtain ⟨other, hother⟩ := htaken
          have hnumber : ∀ kind, (state.kindIds.number kinds).get? kind = some id ↔
              state.kindIds.get? kind = some id := fun _ => KindIds.get?_number_iff ⟨other, hother⟩
          exact (hkept id ⟨other, (hnumber other).2 hother⟩ kind).trans (hnumber kind)
      | lookup kinds => exact ih state
      | resolve wanted => exact ih state

/-- A store in a table keeps the ids that it remembers, as no kind has another one. -/
theorem Settled.after (h : Settled read state) (calls : List KindCall)
    (hprimary : ((inTable read .primary).after state calls).primary = state.primary) :
    ∃ ids, (inTable read .primary).after state calls = { state with kindIds := ids } ∧
      (∀ kind id, state.kindIds.get? kind = some id → ids.get? kind = some id) ∧
      Settled read { state with kindIds := ids } := by
  have hlearns := learns_after read h.sound calls
  generalize (inTable read .primary).after state calls = later at hlearns hprimary ⊢
  obtain ⟨primary, replica, ids⟩ := later
  obtain rfl : primary = state.primary := hprimary
  obtain rfl : replica = state.replica := hlearns.onward.replica
  have hids : ∀ kind id, ids.get? kind = some id → state.NamesKind read kind id :=
    fun kind id hid => (hlearns.named kind id hid).elim (h.named kind id) fun hnames => hnames
  refine ⟨ids, rfl, fun kind id hid => ?_, h.sound, hids, h.unique⟩
  obtain ⟨own, hown⟩ := Option.ne_none_iff_exists'.1 (hlearns.kept kind (by rw [hid]; exact nofun))
  replace hown : ids.get? kind = some own := hown
  rw [hown, h.unique kind own id (hids kind own hown) (h.named kind id hid)]

/-- What a store in a table answers of an id alone it still answers when it remembers more. -/
theorem Settled.lookAlone_lasts (h : Settled read state)
    (h' : Settled read { state with kindIds := ids })
    (hkept : ∀ kind id, state.kindIds.get? kind = some id → ids.get? kind = some id)
    (hkind : ∀ kind other id, state.NamesKind read kind id → state.NamesKind read other id →
      kind = other)
    (halone : lookAlone ((inTable read .primary).answer state) id = some kind) :
    lookAlone ((inTable read .primary).answer { state with kindIds := ids }) id = some kind := by
  have hone := List.mem_singleton_self id
  obtain ⟨kinds, hkinds, hget⟩ := lookAlone_eq_some_iff.1 halone
  have hknowable := (exists_answer_inTable_iff h.sound).1 ⟨kinds, hkinds⟩ id hone
  obtain ⟨rows, own, hrows, hlearned, rfl⟩ := (answer_inTable_iff h.sound).1 hkinds
  have hknown := (h.get?_iff hrows hlearned hone).1 (KindIds.of_get?_kindsOf hget).2
  have hnames := h.namesKind hknown
  -- the later state has the same rows, so the id is known there, and as the same kind
  have hknowable' : Knowable { state with kindIds := ids } read id :=
    hknowable.imp_left fun ⟨kind, hid⟩ => ⟨kind, hkept kind id hid⟩
  have hknown' : KnownAs { state with kindIds := ids } read kind id := by
    rcases hknown with hown | ⟨-, htells⟩
    · exact Or.inl (hkept kind id hown)
    · by_cases hother : ∃ other, ids.get? other = some id
      · obtain ⟨other, hother⟩ := hother
        obtain rfl := hkind kind other id hnames (h'.named other id hother)
        exact Or.inl hother
      · exact Or.inr ⟨fun other hid => hother ⟨other, hid⟩, htells⟩
  obtain ⟨kinds', hkinds'⟩ := (exists_answer_inTable_iff h'.sound).2
    (List.forall_mem_singleton.2 hknowable')
  refine lookAlone_eq_some_iff.2 ⟨kinds', hkinds', ?_⟩
  obtain ⟨rows', own', hrows', hlearned', rfl⟩ := (answer_inTable_iff h'.sound).1 hkinds'
  refine SortedMap.get?_ofList_of_forall (KindIds.mem_kindsOf_iff.2
    ⟨hone, (h'.get?_iff hrows' hlearned' hone).2 hknown'⟩) fun other hother => ?_
  have hnames' := h'.namesKind
    ((h'.get?_iff hrows' hlearned' hone).1 (KindIds.mem_kindsOf_iff.1 hother).2)
  exact hkind other kind id hnames' hnames

/-- Calls that leave the rows change what is remembered only, and what was answered of an id alone
is still answered. -/
theorem Steady.lasts (h : store.Steady state) (hkind : store.OneKind state)
    (calls : List KindCall) (hprimary : (store.after state calls).primary = state.primary) :
    ∃ ids, store.after state calls = { state with kindIds := ids } ∧
      store.Steady { state with kindIds := ids } ∧
      ∀ id kind, lookAlone (store.answer state) id = some kind →
        lookAlone (store.answer { state with kindIds := ids }) id = some kind := by
  cases h with
  | inMemory =>
      obtain ⟨ids, hafter, hkept⟩ := after_inMemory calls state
      refine ⟨ids, hafter, .inMemory, fun id kind halone => ?_⟩
      have hone := List.mem_singleton_self id
      obtain ⟨kinds, hkinds, hget⟩ := lookAlone_eq_some_iff.1 halone
      obtain rfl := Except.ok.inj hkinds
      refine lookAlone_eq_some_iff.2 ⟨_, rfl, hget ▸ ?_⟩
      exact KindIds.get?_kindsOf_congr hone hone
        (hkept id ⟨kind, (KindIds.of_get?_kindsOf hget).2⟩)
  | inTable read h =>
      obtain ⟨ids, hafter, hkept, h'⟩ := h.after calls hprimary
      exact ⟨ids, hafter, .inTable read h', fun id kind =>
        h.lookAlone_lasts h' hkept (hkind read rfl)⟩

/-! ### Calls that only read -/

/-- Neither store inserts anything where nothing is acquired. -/
theorem Standard.asks_call (h : store.Standard) {call : KindCall}
    (hreads : ∀ kinds, call ≠ .acquire kinds) : (call.on store).Asks (Request.Within []) := by
  cases call with
  | acquire kinds => exact absurd rfl (hreads kinds)
  | lookup kinds =>
      cases h with
      | inMemory => exact ⟨trivial, fun _ => trivial⟩
      | inTable read => exact (asks_lookup read kinds).bind fun _ => trivial
  | resolve wanted => exact (h.asks_resolve wanted).bind fun _ => trivial

/-- Calls that acquire nothing leave the rows. -/
theorem Standard.contents_after (h : store.Standard) {calls : List KindCall}
    (hreads : ∀ call ∈ calls, ∀ kinds, call ≠ .acquire kinds) :
    (store.after state calls).primary = state.primary ∧
      (store.after state calls).replica = state.replica := by
  induction calls generalizing state with
  | nil => exact ⟨rfl, rfl⟩
  | cons call rest ih =>
      obtain ⟨hcall, hrest⟩ := List.forall_mem_cons.1 hreads
      obtain ⟨hprimary, hreplica⟩ := ih hrest
      obtain ⟨hprimary', hreplica'⟩ := Dialog.contents_of_run (h.asks_call hcall) rfl
      exact ⟨hprimary.trans hprimary', hreplica.trans hreplica'⟩

theorem Standard.inOrder_after (h : store.Standard) (hsound : start.InOrder)
    (calls : List KindCall) : (store.after start calls).InOrder := by
  cases h with
  | inMemory =>
      obtain ⟨ids, hafter, -⟩ := after_inMemory calls start
      rw [hafter]
      exact hsound
  | inTable read => exact (learns_after read hsound calls).onward.inOrder hsound

end KindStore

/-! ### Rows of kinds, listed -/

/-- The ids of the rows of kinds, with what they read as. -/
def Storage.Database.kindRows (db : Database) : List (Int × Record) :=
  ((db.table TableSpec.kinds.name).toOption.bind fun t =>
    (db.findIds .kinds t.rows.keys).toOption).elim [] SortedMap.entries

theorem Storage.Database.Sound.mem_kindRows_iff {db : Database} (h : db.Sound) (htyped : db.Typed)
    {id : Int} {record : Record} : (id, record) ∈ db.kindRows ↔ db.Reads .kinds id record := by
  obtain ⟨t, htable, -⟩ := h .kinds TableSpec.mem_all_kinds
  have heach := h.readsEach_findIds TableSpec.mem_all_kinds
  obtain ⟨found, hfound⟩ := (heach.ok_iff t.rows.keys).2 fun id _ =>
    htyped.readable TableSpec.mem_all_kinds id
  have hrows : db.kindRows = found.entries := by
    unfold kindRows
    rw [htable]
    show Option.elim (Except.toOption _) _ _ = _
    rw [hfound]
    rfl
  rw [hrows, SortedMap.mem_entries_iff, heach.get?_iff hfound]
  refine and_iff_right_of_imp fun hreads => ?_
  obtain ⟨t', htable', values, hget, -⟩ := hreads
  obtain rfl := Except.ok.inj (htable.symm.trans htable')
  exact SortedMap.mem_keys_iff.2 ⟨values, hget⟩

/-- The rows of kinds that a store reads. -/
def Databases.kindRows (state : Databases) (read : Side) : List (Int × Record) :=
  (state.database read).kindRows ++ state.primary.kindRows

namespace KindStore

variable {state : Databases}
  (h : ∀ side, (state.database side).Sound ∧ (state.database side).Typed)

include h

theorem namesKind_iff_mem {read : Side} {kind : TermKind} {id : Int} :
    state.NamesKind read kind id ↔ (id, recordOf kind) ∈ state.kindRows read := by
  have hprimary : state.primary.Sound ∧ state.primary.Typed := h .primary
  rw [Databases.kindRows, List.mem_append, (h read).1.mem_kindRows_iff (h read).2,
    hprimary.1.mem_kindRows_iff hprimary.2]
  rfl

/-- Whether each kind has one id can be checked on the rows. -/
theorem oneId_of_kindRows (store : KindStore) (hrows : ∀ read, ∀ row ∈ state.kindRows read,
      ∀ other ∈ state.kindRows read, row.2 = other.2 → row.1 = other.1) : store.OneId state := by
  intro read _ kind id other hid hother
  exact hrows read _ ((namesKind_iff_mem h).1 hid) _ ((namesKind_iff_mem h).1 hother) rfl

/-- Whether each id has one kind can be checked on the rows. -/
theorem oneKind_of_kindRows (store : KindStore) (hrows : ∀ read, ∀ row ∈ state.kindRows read,
      ∀ other ∈ state.kindRows read, row.1 = other.1 → row.2 = other.2) : store.OneKind state := by
  intro read _ kind other id hkind hother
  exact recordOf_injective
    (hrows read _ ((namesKind_iff_mem h).1 hkind) _ ((namesKind_iff_mem h).1 hother) rfl)

end KindStore

end TermStore
