import TermStore.Proofs.KindCalls
import TermStore.Proofs.Leftovers
import TermStore.Proofs.Outcomes

/-!
# Kinds that are known

A store of kinds in a table remembers one id for each kind. Whatever it was called for, and however
the calls ended, each id that it remembers is that of a row which names the kind, on the replica or
on the primary (`Databases.Learns`).

Asked for the kinds of ids, it reads the rows of those that it does not remember, remembers them,
one after the other, and answers from memory. So ids that are told one kind stand in each other's
way: the largest one that was read is remembered, and the others go without an answer
(`KindStore.Answers`).
-/

namespace TermStore

open Storage (TableSpec Record RecordIds Database Fault)

/-! ### Rows that name kinds -/

/-- Records of the table of kinds that are names of kinds. -/
def KindStore.IsName (spec : TableSpec) (record : Record) : Prop :=
  spec = .kinds ∧ ∃ kind, record = recordOf kind

namespace Storage.Database

variable {db db' : Database}

/-- Each row of kinds reads as the name of a kind. -/
def NamesKinds (db : Database) : Prop :=
  ∃ t, db.table TableSpec.kinds.name = .ok t ∧ ∀ id values, t.rows.get? id = some values →
    ∃ kind, t.Reads .kinds id (KindStore.recordOf kind)

/-- Where only names of kinds are added, each row still names a kind. -/
theorem AddsAmong.namesKinds (h : db.AddsAmong KindStore.IsName db') (hnames : db.NamesKinds) :
    db'.NamesKinds := by
  obtain ⟨t₀, htable₀, hall⟩ := hnames
  obtain ⟨t, t', htable, htable', hkept, hnew⟩ := h .kinds TableSpec.mem_all_kinds
  obtain rfl := Except.ok.inj (htable.symm.trans htable₀)
  refine ⟨t', htable', fun id values hget => ?_⟩
  cases hold : t.rows.get? id with
  | some held =>
      obtain ⟨kind, hreads⟩ := hall id held hold
      exact ⟨kind, hkept.reads hreads⟩
  | none =>
      obtain ⟨record, ⟨-, kind, rfl⟩, -, hhas⟩ := hnew id values hget hold
      exact ⟨kind, hhas.reads⟩

theorem Gains.namesKinds {records : List Record} (h : db.Gains .kinds records db')
    (hrecords : KindStore.AllNames records) (hnames : db.NamesKinds) : db'.NamesKinds := by
  obtain ⟨t₀, htable₀, hall⟩ := hnames
  obtain ⟨t, t', htable, htable', hgains⟩ := h.table
  obtain rfl := Except.ok.inj (htable.symm.trans htable₀)
  refine ⟨t', htable', fun id values hget => ?_⟩
  rcases hgains.gained id values hget with hold | ⟨record, hrecord, hcells⟩
  · obtain ⟨kind, hreads⟩ := hall id values hold
    exact ⟨kind, hgains.kept.reads hreads⟩
  · obtain ⟨kind, rfl⟩ := hrecords record hrecord
    exact ⟨kind, Table.Has.reads ⟨values, hget, hcells⟩⟩

theorem Fresh.namesKinds (h : db.Fresh) : db.NamesKinds := by
  obtain ⟨t, htable, hfresh⟩ := h .kinds TableSpec.mem_all_kinds
  refine ⟨t, htable, fun id values hget => ?_⟩
  rw [hfresh.rows, SortedMap.get?_empty] at hget
  cases hget

theorem NamesKinds.readable (h : db.NamesKinds) (id : Int) : db.Readable .kinds id := by
  obtain ⟨t, htable, hall⟩ := h
  refine ⟨t, htable, fun values hget => ?_⟩
  obtain ⟨kind, hreads⟩ := hall id values hget
  exact ⟨_, hreads⟩

theorem NamesKinds.exists_kind (h : db.NamesKinds) {id : Int} {record : Record}
    (hreads : db.Reads .kinds id record) : ∃ kind, record = KindStore.recordOf kind := by
  obtain ⟨t₀, htable₀, values, hget, hcells⟩ := hreads
  obtain ⟨t, htable, hall⟩ := h
  obtain rfl := Except.ok.inj (htable.symm.trans htable₀)
  obtain ⟨kind, hkind⟩ := hall id values hget
  exact ⟨kind, Table.Reads.functional ⟨values, hget, hcells⟩ hkind⟩

end Storage.Database

/-! ### What a store learns -/

namespace Databases

variable {before middle after state : Databases} {read : Side} {kind : TermKind} {id : Int}

/-- Both stores are in order. -/
def InOrder (state : Databases) : Prop := ∀ side, (state.database side).Sound

/-- A row of one of the stores names a kind. -/
def NamesKind (state : Databases) (read : Side) (kind : TermKind) (id : Int) : Prop :=
  (state.database read).Reads .kinds id (KindStore.recordOf kind) ∨
    state.primary.Reads .kinds id (KindStore.recordOf kind)

theorem Onward.inOrder (h : before.Onward after) (hsound : before.InOrder) : after.InOrder := by
  intro side
  rcases before.database_onward side with haside | hon
  · rw [haside after h]
    exact hsound side
  · rw [hon after h.replica]
    exact h.sound

theorem Onward.namesKind (h : before.Onward after) (hnames : before.NamesKind read kind id) :
    after.NamesKind read kind id := by
  have hrows : before.primary.RowsWithin .kinds after.primary :=
    h.grows.within .kinds TableSpec.mem_all_kinds
  rcases hnames with hread | hprimary
  · rcases before.database_onward read with haside | hon
    · rw [← haside after h] at hread
      exact Or.inl hread
    · rw [hon before rfl] at hread
      exact Or.inr (hrows.reads hread)
  · exact Or.inr (hrows.reads hprimary)

/-- What a call of a store comes to: the primary has gained names of kinds at most, and what the
store remembers afterwards it remembered before, or a row names it. -/
structure Learns (read : Side) (before after : Databases) : Prop where
  onward : before.Onward after
  adds : before.primary.AddsAmong KindStore.IsName after.primary
  named : ∀ kind id, after.kindIds.get? kind = some id →
    before.kindIds.get? kind = some id ∨ after.NamesKind read kind id
  /-- A kind that has an id is not forgotten, though its id may become another one. -/
  kept : ∀ kind, before.kindIds.get? kind ≠ none → after.kindIds.get? kind ≠ none

theorem Learns.refl (hsound : state.primary.Sound) : state.Learns read state where
  onward := .refl hsound
  adds := hsound.addsAmong_self _
  named _ _ hid := Or.inl hid
  kept _ hkind := hkind

theorem Learns.trans (h : before.Learns read middle) (h' : middle.Learns read after) :
    before.Learns read after where
  onward := h.onward.trans h'.onward
  adds := h.adds.trans h'.adds
  named kind id hid := by
    rcases h'.named kind id hid with hmiddle | hnames
    · exact (h.named kind id hmiddle).imp_right h'.onward.namesKind
    · exact Or.inr hnames
  kept kind hkind := h'.kept kind (h.kept kind hkind)

end Databases

namespace KindStore

variable {ids : KindIds} {kind : TermKind} {entries : List (Record × Int)}

/-- A kind is not forgotten: learning may give it another id, but not none. -/
theorem get?_learned_ne_none (h : ids.get? kind ≠ none) :
    (learned ids entries).1.get? kind ≠ none := by
  induction entries generalizing ids with
  | nil => exact h
  | cons entry rest ih =>
      obtain ⟨record, id⟩ := entry
      rw [learned]
      cases kindOf record with
      | error failure => exact h
      | ok named =>
          refine ih ?_
          rw [KindIds.get?_put]
          split
          · exact Option.some_ne_none id
          · exact h

/-- What is learned without a failure is names of kinds. -/
theorem exists_kind_of_learned {ids' : KindIds} (h : learned ids entries = (ids', .ok ())) :
    ∀ entry ∈ entries, ∃ kind, entry.1 = recordOf kind := by
  induction entries generalizing ids with
  | nil => exact fun _ hmem => absurd hmem List.not_mem_nil
  | cons head rest ih =>
      obtain ⟨record, id⟩ := head
      rw [learned] at h
      cases hrecord : kindOf record with
      | error failure =>
          simp only [hrecord] at h
          cases h
      | ok kind =>
          simp only [hrecord] at h
          exact List.forall_mem_cons.2 ⟨⟨kind, eq_recordOf_of_kindOf hrecord⟩, ih h⟩

theorem run_learn_eq (entries : List (Record × Int)) (state : Databases) :
    (learn entries).run Databases.handler state =
      ((learned state.kindIds entries).2.map fun _ => (learned state.kindIds entries).1,
        { state with kindIds := (learned state.kindIds entries).1 }) := by
  show Dialog.run _ (Dialog.bind (Dialog.ofExcept (learned state.kindIds entries).2) _)
    { state with kindIds := (learned state.kindIds entries).1 } = _
  cases (learned state.kindIds entries).2 <;> rfl

end KindStore

namespace Dialog

variable {α β : Type} {read : Side} {before : Databases}

/-- However a dialog ends, it has only learned; and its result, if it has one, satisfies a
condition. -/
def Learns (read : Side) (post : α → Databases → Prop) (d : Dialog α) (before : Databases) : Prop :=
  before.Learns read (d.run Databases.handler before).2 ∧
    ∀ result after, d.run Databases.handler before = (.ok result, after) → post result after

theorem learns_done {post : α → Databases → Prop} {result : α} (hsound : before.primary.Sound)
    (h : post result before) : (done result).Learns read post before := by
  refine ⟨.refl hsound, fun other after hrun => ?_⟩
  cases hrun
  exact h

/-- What is learned by two dialogs in sequence is learned in the databases as they are in the end.
-/
theorem Learns.bind {mid : α → Databases → Prop} {post : β → Databases → Prop} {d : Dialog α}
    {next : α → Dialog β} (h : d.Learns read mid before)
    (hnext : ∀ result after, before.Learns read after → mid result after →
      (next result).Learns read post after) : (d.bind next).Learns read post before := by
  obtain ⟨hlearns, hmid⟩ := h
  unfold Learns
  rw [run_bind]
  rcases hrun : d.run Databases.handler before with ⟨outcome, middle⟩
  rw [hrun] at hlearns
  cases outcome with
  | error failure => exact ⟨hlearns, nofun⟩
  | ok result =>
      obtain ⟨hrest, hpost⟩ := hnext result middle hlearns (hmid result middle hrun)
      exact ⟨hlearns.trans hrest, hpost⟩

/-- To look records up is to learn nothing yet. -/
theorem learns_find {side : Side} {spec : TableSpec} {records : List Record}
    (hsound : before.InOrder) (hspec : spec ∈ TableSpec.all)
    (htakes : ∀ record ∈ records, spec.Takes record) :
    (find side spec records).Learns read (fun found after => after = before ∧
      ∀ record id, found.get? record = some id → (before.database side).Has spec id record)
      before := by
  have hrun : (find side spec records).run Databases.handler before =
      before.readOnly ((before.database side).find spec records) :=
    run_request Databases.handler (.find side spec records) before
  unfold Learns
  rw [hrun]
  cases hfind : (before.database side).find spec records with
  | error fault => exact ⟨.refl (hsound .primary), nofun⟩
  | ok found =>
      refine ⟨.refl (hsound .primary), fun result after heq => ?_⟩
      cases heq
      exact ⟨rfl, fun record id hget => (((hsound side).find_iff hspec htakes hfind).1 hget).2⟩

end Dialog

/-! ### Calls -/

namespace KindStore

variable {read : Side} {state : Databases}

/-- Entries that rows name are learned; also where the learning ends at a name of no kind. -/
theorem learns_learn {entries : List (Record × Int)} (hsound : state.primary.Sound)
    (h : ∀ kind id, (recordOf kind, id) ∈ entries → state.NamesKind read kind id) :
    (learn entries).Learns read (fun _ _ => True) state := by
  refine ⟨?_, fun _ _ _ => trivial⟩
  rw [run_learn_eq]
  refine ⟨⟨hsound, hsound.grows_refl, rfl⟩, hsound.addsAmong_self _, fun kind id hid => ?_,
    fun kind hkind => get?_learned_ne_none hkind⟩
  exact (get?_learned rfl hid).imp_right fun hmem => h kind id hmem

open Acquisition

theorem mem_of_assemble {spec : TableSpec} {found : RecordIds} {records : List Record}
    {ids : List (Record × Int)} (h : assemble spec found records = .ok ids) {record : Record}
    {id : Int} (hmem : (record, id) ∈ ids) : found.get? record = some id := by
  obtain ⟨other, -, hother⟩ := mem_of_mapM_eq_ok h hmem
  cases hget : found.get? other with
  | none =>
      rw [hget] at hother
      cases hother
  | some own =>
      rw [hget] at hother
      cases hother
      exact hget

theorem asks_acquireKinds (read : Side) (kinds : List TermKind) :
    (acquireIds (.replicaFirst read .primary) .kinds (kinds.map recordOf)).Asks
      Request.ProperCall :=
  asks_acquireIds (permits_properCall rfl _ TableSpec.mem_all_kinds) (takes_recordOf kinds)

/-- Names of kinds are added, if anything is; and nothing is remembered yet. -/
theorem learns_of_acquireIds (hsound : state.InOrder) {kinds : List TermKind}
    {outcome : Except Failure (List (Record × Int))} {after : Databases}
    (hrun : (acquireIds (.replicaFirst read .primary) .kinds (kinds.map recordOf)).run
      Databases.handler state = (outcome, after)) : state.Learns read after := by
  have hasks := asks_acquireKinds read kinds
  have hprimary : state.primary.Sound := hsound .primary
  have hkindIds := hasks.kindIds_of_run hrun
  have hadds := addsAmong_acquireIds rfl TableSpec.mem_all_kinds (takes_recordOf kinds) hprimary
    (Dialog.passes_end hrun)
  refine ⟨hasks.proper.onward_of_run hprimary hrun, hadds.mono ?_, fun _ _ hid => ?_,
    fun _ hkind => ?_⟩
  · rintro spec record ⟨rfl, hrecord⟩
    exact ⟨rfl, allNames_map kinds record hrecord⟩
  · exact Or.inl (hkindIds ▸ hid)
  · exact hkindIds.symm ▸ hkind

/-- The ids that are acquired for kinds are those of rows: of ones that the replica had, or of ones
that the primary has then. -/
theorem namesKind_of_acquireIds (hsound : state.InOrder) {kinds : List TermKind}
    {acquired : List (Record × Int)} {after : Databases}
    (hrun : (acquireIds (.replicaFirst read .primary) .kinds (kinds.map recordOf)).run
      Databases.handler state = (.ok acquired, after)) {kind : TermKind} {id : Int}
    (hmem : (recordOf kind, id) ∈ acquired) : after.NamesKind read kind id := by
  have hprimary : state.primary.Sound := hsound .primary
  have honward := (asks_acquireKinds read kinds).proper.onward_of_run hprimary hrun
  have hwanted := takes_eraseDups (takes_recordOf kinds)
  by_cases hempty : (kinds.map recordOf).eraseDups.isEmpty = true
  · rw [acquireIds_nil rfl hempty] at hrun
    cases hrun
    exact absurd hmem List.not_mem_nil
  rw [run_acquireIds .kinds rfl hempty] at hrun
  cases hfind : (state.database read).find .kinds (kinds.map recordOf).eraseDups with
  | error fault =>
      rw [hfind] at hrun
      cases hrun
  | ok found =>
      rw [hfind] at hrun
      obtain ⟨-, ⟨known, hsought, hassemble⟩, -⟩ := supplies_of_search rfl TableSpec.mem_all_kinds
        (takes_missing hwanted found) hprimary hrun
      have hget := hsought (recordOf kind)
      rw [mem_of_assemble hassemble hmem] at hget
      split at hget
      · have hhas := (honward.sound.lookUp_eq_some_iff TableSpec.mem_all_kinds
          (TableSpec.takes_kinds kind.name)).1 hget.symm
        exact Or.inr hhas.reads
      · have hhas := (((hsound read).find_iff TableSpec.mem_all_kinds hwanted hfind).1
          hget.symm).2
        exact honward.namesKind (Or.inl hhas.reads)

theorem learns_acquireIds (hsound : state.InOrder) (kinds : List TermKind) :
    (acquireIds (.replicaFirst read .primary) .kinds (kinds.map recordOf)).Learns read
      (fun acquired after => ∀ kind id, (recordOf kind, id) ∈ acquired →
        after.NamesKind read kind id) state :=
  ⟨learns_of_acquireIds hsound rfl, fun _ _ hrun _ _ => namesKind_of_acquireIds hsound hrun⟩

/-- Acquiring kinds learns ids of their rows: those that the replica has, those found on the primary
and those that were made there. -/
theorem learns_acquire (hsound : state.InOrder) (kinds : List TermKind) :
    ((inTable read .primary).acquire kinds).Learns read (fun _ _ => True) state := by
  by_cases hknow : state.kindIds.Know kinds
  · unfold Dialog.Learns
    rw [run_inTable_of_know hknow]
    exact ⟨.refl (hsound .primary), fun _ _ _ => trivial⟩
  · unfold Dialog.Learns
    rw [run_inTable_of_not_know hknow]
    refine (learns_acquireIds hsound _).bind fun acquired middle hmiddle hacquired => ?_
    exact (learns_learn hmiddle.onward.sound hacquired).bind fun ids after hafter _ =>
      Dialog.learns_done hafter.onward.sound trivial

/-- Looking kinds up learns ids of rows that are there. -/
theorem learns_lookup (hsound : state.InOrder) (kinds : List TermKind) :
    ((inTable read .primary).lookup kinds).Learns read (fun _ _ => True) state := by
  have hprimary : state.primary.Sound := hsound .primary
  have hkeep : ∀ found : RecordIds, (∀ kind id, found.get? (recordOf kind) = some id →
      state.NamesKind read kind id) →
      ((learn found.entries).bind fun ids => .done (ids.select kinds)).Learns read
        (fun _ _ => True) state := fun found hfound =>
    (learns_learn hprimary fun kind id hmem => hfound kind id (SortedMap.mem_entries_iff.1 hmem)
      ).bind fun ids after hafter _ => Dialog.learns_done hafter.onward.sound trivial
  have htakes := takes_recordOf (unknownKinds state.kindIds kinds)
  rw [inTable_lookup_eq]
  show Dialog.Learns _ _ (ite _ _ _) state
  split
  · exact Dialog.learns_done hprimary trivial
  · refine (Dialog.learns_find hsound TableSpec.mem_all_kinds htakes).bind
      fun found middle _ hfound => ?_
    obtain ⟨rfl, hfound⟩ := hfound
    show Dialog.Learns _ _ (ite _ _ _) middle
    split
    · exact hkeep found fun kind id hget => Or.inl (hfound _ id hget).reads
    · refine (Dialog.learns_find hsound TableSpec.mem_all_kinds
        (Acquisition.takes_missing htakes found)).bind fun rest last _ hrest => ?_
      obtain ⟨rfl, hrest⟩ := hrest
      refine hkeep (found.union rest) fun kind id hget => ?_
      rw [SortedMap.get?_union, Option.or_eq_some_iff] at hget
      rcases hget with hget | ⟨-, hget⟩
      · exact Or.inr (hrest _ id hget).reads
      · exact Or.inl (hfound _ id hget).reads

end KindStore

/-! ### Reading kinds by their ids -/

namespace Databases

variable {state : Databases} {read : Side} {id : Int} {record : Record}

/-- What a row of kinds is told to read as: that of the first store if it has one, or else that of
the primary. -/
def TellsRow (state : Databases) (read : Side) (id : Int) (record : Record) : Prop :=
  (state.database read).Reads .kinds id record ∨
    (∀ other, ¬ (state.database read).Reads .kinds id other) ∧ state.primary.Reads .kinds id record

theorem TellsRow.namesKind {kind : TermKind}
    (h : state.TellsRow read id (KindStore.recordOf kind)) : state.NamesKind read kind id :=
  h.imp_right And.right

/-- The rows of kinds of some ids as one look-up. -/
def lookKinds (state : Databases) (read : Side) (ids : List Int) :
    Except Fault (SortedMap Int Record) :=
  lookFurther ((state.database read).findIds .kinds) (state.primary.findIds .kinds) ids

/-- The row that is told of an id can be read, if there is one. -/
def CanTell (state : Databases) (read : Side) (id : Int) : Prop :=
  (state.database read).Readable .kinds id ∧
    ((∀ record, ¬ (state.database read).Reads .kinds id record) → state.primary.Readable .kinds id)

theorem readsEach_lookKinds (hsound : state.InOrder) (read : Side) :
    ReadsEach (state.lookKinds read) (state.CanTell read) (state.TellsRow read) :=
  ((hsound read).readsEach_findIds TableSpec.mem_all_kinds).further
    (Database.Sound.readsEach_findIds (hsound .primary) TableSpec.mem_all_kinds)

end Databases

namespace KindStore

variable {read : Side} {state : Databases} {ids ids' : KindIds} {kind : TermKind} {id : Int}

/-- What is learned of rows that were read by their ids. -/
def learnedRows (ids : KindIds) (found : SortedMap Int Record) : KindIds × Except Failure Unit :=
  learned ids (found.entries.map fun entry => (entry.2, entry.1))

/-- Rows that were read are learned if each of them names a kind. -/
theorem exists_learnedRows_iff {found : SortedMap Int Record} :
    (∃ ids', learnedRows ids found = (ids', .ok ())) ↔
      ∀ id record, found.get? id = some record → ∃ kind, record = recordOf kind := by
  constructor
  · rintro ⟨ids', hlearned⟩ id record hget
    exact exists_kind_of_learned hlearned _ (SortedMap.mem_map_swap_iff.2 hget)
  · exact fun h => exists_learned ids fun entry hentry =>
      h entry.2 entry.1 (SortedMap.mem_map_swap_iff.1 hentry)

/-- The rows of the ids that are not remembered are read, and remembered. -/
theorem run_inTable_resolve_eq (hsound : state.InOrder) (read : Side) (wanted : List Int) :
    ((inTable read .primary).resolve wanted).run Databases.handler state =
      match state.lookKinds read (unknownIds state.kindIds wanted) with
      | .error fault => (.error (.storage fault), state)
      | .ok found =>
        let (ids, outcome) := learnedRows state.kindIds found
        (outcome.map fun _ => ids.kindsOf wanted, { state with kindIds := ids }) := by
  have hlook : (Resolution.fallback (Dialog.findIds read .kinds) (Dialog.findIds .primary .kinds)
      (unknownIds state.kindIds wanted)).run Databases.handler state =
        state.readOnly (state.lookKinds read (unknownIds state.kindIds wanted)) := by
    have hfindIds : ∀ side ids, (Dialog.findIds side .kinds ids).run Databases.handler state =
        state.readOnly ((state.database side).findIds .kinds ids) := fun side ids =>
      Dialog.run_request Databases.handler (.findIds side .kinds ids) state
    exact Resolution.run_fallback_eq (hfindIds read) (hfindIds .primary) _
  rw [inTable_resolve_eq]
  show Dialog.run _ (ite _ _ _) state = _
  by_cases hempty : (unknownIds state.kindIds wanted).isEmpty = true
  · -- nothing is read of no ids, and nothing is learned
    rw [if_pos hempty, List.isEmpty_iff.1 hempty]
    have heach := Databases.readsEach_lookKinds hsound read
    obtain ⟨found, hfound⟩ := (heach.ok_iff []).2 fun _ hmem => absurd hmem List.not_mem_nil
    have hentries : found.entries = [] := List.eq_nil_iff_forall_not_mem.2 fun entry hentry =>
      absurd ((heach.get?_iff hfound _ _).1 (SortedMap.mem_entries_iff.1 hentry)).1 List.not_mem_nil
    have hlearned : learnedRows state.kindIds found = (state.kindIds, .ok ()) := by
      rw [learnedRows, hentries]
      rfl
    rw [hfound]
    simp only [hlearned]
    rfl
  · rw [if_neg hempty, Dialog.run_bind, hlook]
    cases state.lookKinds read (unknownIds state.kindIds wanted) with
    | error fault => rfl
    | ok found =>
        simp only [Databases.readOnly, Dialog.run_bind, run_learn_eq, learnedRows]
        cases (learned state.kindIds (found.entries.map fun entry => (entry.2, entry.1))).2 <;> rfl

/-- Asking for the kinds of ids learns these ids under the kinds that their rows name. -/
theorem learns_resolve (hsound : state.InOrder) (wanted : List Int) :
    ((inTable read .primary).resolve wanted).Learns read (fun _ _ => True) state := by
  refine ⟨?_, fun _ _ _ => trivial⟩
  rw [run_inTable_resolve_eq hsound]
  have hprimary : state.primary.Sound := hsound .primary
  cases hfound : state.lookKinds read (unknownIds state.kindIds wanted) with
  | error fault => exact .refl hprimary
  | ok found =>
      have hnames : ∀ kind id,
          (recordOf kind, id) ∈ found.entries.map (fun entry => (entry.2, entry.1)) →
          state.NamesKind read kind id := by
        intro kind id hmem
        exact (((Databases.readsEach_lookKinds hsound read).get?_iff hfound id _).1
          (SortedMap.mem_map_swap_iff.1 hmem)).2.namesKind
      have hlearns := (learns_learn hprimary hnames).1
      rw [run_learn_eq] at hlearns
      exact hlearns

end KindStore

/-! ### Many calls -/

/-- A call of a store of kinds. -/
def KindCall.on (store : KindStore) : KindCall → Dialog KindAnswer
  | .acquire kinds => (store.acquire kinds).bind fun ids => .done (.numbers ids)
  | .lookup kinds => (store.lookup kinds).bind fun ids => .done (.numbers ids)
  | .resolve wanted => (store.resolve wanted).bind fun kinds => .done (.names kinds)

namespace KindStore

variable {read : Side} {start state : Databases}

/-- What is there after some calls, one after the other, however each of them ended. -/
def after (store : KindStore) (start : Databases) (calls : List KindCall) : Databases :=
  calls.foldl (fun state call => ((call.on store).run Databases.handler state).2) start

/-- Whatever a store is called for, it remembers nothing that no row has told it. -/
theorem learns_call (hsound : state.InOrder) (call : KindCall) :
    (call.on (inTable read .primary)).Learns read (fun _ _ => True) state := by
  cases call with
  | acquire kinds =>
      exact (learns_acquire hsound kinds).bind fun _ _ h _ =>
        Dialog.learns_done h.onward.sound trivial
  | lookup kinds =>
      exact (learns_lookup hsound kinds).bind fun _ _ h _ =>
        Dialog.learns_done h.onward.sound trivial
  | resolve wanted =>
      exact (learns_resolve hsound wanted).bind fun _ _ h _ =>
        Dialog.learns_done h.onward.sound trivial

/-- And so for any number of calls, by induction on them. -/
theorem learns_after (read : Side) (hsound : start.InOrder) (calls : List KindCall) :
    start.Learns read ((inTable read .primary).after start calls) := by
  induction calls generalizing start with
  | nil => exact .refl (hsound .primary)
  | cons call rest ih =>
      have hcall : start.Learns read
          ((call.on (inTable read .primary)).run Databases.handler start).2 :=
        (learns_call hsound call).1
      exact hcall.trans (ih (hcall.onward.inOrder hsound))

end KindStore

namespace Databases

variable {before after : Databases} {read : Side} {kind : TermKind} {id : Int}

theorem Learns.namesKinds (h : before.Learns read after)
    (hnames : ∀ side, (before.database side).NamesKinds) (side : Side) :
    (after.database side).NamesKinds := by
  rcases before.database_onward side with haside | hon
  · rw [haside after h.onward]
    exact hnames side
  · rw [hon after h.onward.replica]
    exact h.adds.namesKinds (hnames .primary)

/-- A store that was new at first remembers only what rows name. -/
theorem Learns.namesKind (h : before.Learns read after) (hnew : before.kindIds = .none)
    (hid : after.kindIds.get? kind = some id) : after.NamesKind read kind id := by
  refine (h.named kind id hid).resolve_left fun hbefore => ?_
  rw [hnew] at hbefore
  cases kind <;> cases hbefore

end Databases

/-! ### What a store answers -/

namespace KindStore

variable {read : Side} {state after : Databases} {ids ids' : KindIds} {kind : TermKind} {id : Int}
  {wanted : List Int}

/-- Of names in ascending order of their ids the last one is learned, and where there is none the id
of a kind stays. -/
theorem get?_learned_iff {entries : List (Int × Record)}
    (hascending : entries.Pairwise fun a b => a.1 < b.1)
    (hlearned : learned ids (entries.map fun entry => (entry.2, entry.1)) = (ids', .ok ())) :
    ids'.get? kind = some id ↔
      ((id, recordOf kind) ∈ entries ∧ ∀ other, (other, recordOf kind) ∈ entries → other ≤ id) ∨
      (ids.get? kind = some id ∧ ∀ other, (other, recordOf kind) ∉ entries) := by
  induction entries generalizing ids with
  | nil =>
      cases hlearned
      simp
  | cons entry rest ih =>
      obtain ⟨first, record⟩ := entry
      obtain ⟨hfirst, hrest⟩ := List.pairwise_cons.1 hascending
      rw [List.map_cons, learned] at hlearned
      cases hnamed : kindOf record with
      | error failure =>
          simp only [hnamed] at hlearned
          cases hlearned
      | ok named =>
          simp only [hnamed] at hlearned
          obtain rfl := eq_recordOf_of_kindOf hnamed
          rw [ih hrest hlearned, KindIds.get?_put]
          by_cases hkind : kind = named
          · subst hkind
            have hlt : ∀ other, (other, recordOf kind) ∈ rest → first < other :=
              fun other hother => hfirst _ hother
            simp only [if_true, Option.some.injEq, List.mem_cons, Prod.mk.injEq, and_true]
            constructor
            · rintro (⟨hmem, hle⟩ | ⟨rfl, hnone⟩)
              · refine Or.inl ⟨Or.inr hmem, ?_⟩
                rintro other (rfl | hother)
                · exact (hlt id hmem).le
                · exact hle other hother
              · refine Or.inl ⟨Or.inl rfl, ?_⟩
                rintro other (rfl | hother)
                · exact le_rfl
                · exact absurd hother (hnone other)
            · rintro (⟨rfl | hmem, hle⟩ | ⟨-, hnone⟩)
              · exact Or.inr ⟨rfl, fun other hother =>
                  absurd (hle other (Or.inr hother)) (hlt other hother).not_ge⟩
              · exact Or.inl ⟨hmem, fun other hother => hle other (Or.inr hother)⟩
              · exact absurd (Or.inl rfl) (hnone first)
          · have hrecord : recordOf kind ≠ recordOf named := fun h => hkind (recordOf_injective h)
            simp only [if_neg hkind, List.mem_cons, Prod.mk.injEq, hrecord, and_false, false_or]

/-- An asked id that was not remembered is told a kind. -/
def NewlyTold (read : Side) (wanted : List Int) (state : Databases) (kind : TermKind) (id : Int) :
    Prop :=
  id ∈ unknownIds state.kindIds wanted ∧ state.TellsRow read id (recordOf kind)

/-- After the rows are read, a kind has the largest of the ids that are newly told it, and its own
where there are none. -/
theorem get?_of_lookKinds (hsound : state.InOrder) {found : SortedMap Int Record}
    (hfound : state.lookKinds read (unknownIds state.kindIds wanted) = .ok found)
    (hlearned : learnedRows state.kindIds found = (ids, .ok ())) :
    ids.get? kind = some id ↔
      (NewlyTold read wanted state kind id ∧ ∀ other, NewlyTold read wanted state kind other →
        other ≤ id) ∨
      (state.kindIds.get? kind = some id ∧ ∀ other, ¬ NewlyTold read wanted state kind other) := by
  have hentries : ∀ id, (id, recordOf kind) ∈ found.entries ↔
      NewlyTold read wanted state kind id := fun id => SortedMap.mem_entries_iff.trans
    ((Databases.readsEach_lookKinds hsound read).get?_iff hfound id _)
  rw [get?_learned_iff found.ascending hlearned]
  simp only [hentries]

/-- What a store in a table answers when it is asked for the kinds of ids. -/
structure Answers (read : Side) (wanted : List Int) (state : Databases)
    (kinds : SortedMap Int TermKind) (after : Databases) : Prop where
  /-- The answer comes from what is remembered in the end. -/
  remembered : kinds = after.kindIds.kindsOf wanted
  /-- A kind gets the largest of the ids that are newly told it, and keeps its own where there are
  none. -/
  learned : ∀ kind id, after.kindIds.get? kind = some id ↔
    (NewlyTold read wanted state kind id ∧ ∀ other, NewlyTold read wanted state kind other →
      other ≤ id) ∨
    (state.kindIds.get? kind = some id ∧ ∀ other, ¬ NewlyTold read wanted state kind other)
  /-- An id is mapped to the kind that it is told, if no row gives it another kind, and no other
  asked id is told the same kind. -/
  told : ∀ kind, ∀ id ∈ wanted, state.TellsRow read id (recordOf kind) →
    (∀ other, state.NamesKind read other id → other = kind) →
    (∀ other ∈ wanted, state.TellsRow read other (recordOf kind) → other = id) →
    kinds.get? id = some kind
  /-- No id is mapped to a kind that none of its rows names; an id without a row is omitted. -/
  named : ∀ kind id, kinds.get? id = some kind → id ∈ wanted ∧ state.NamesKind read kind id
  contents : after.primary = state.primary ∧ after.replica = state.replica

/-- Where all rows of kinds name one, a store that remembers what rows name answers. -/
theorem exists_answers (hsound : state.InOrder)
    (hnames : ∀ side, (state.database side).NamesKinds)
    (hremembered : ∀ kind id, state.kindIds.get? kind = some id → state.NamesKind read kind id)
    (wanted : List Int) :
    ∃ kinds after, ((inTable read .primary).resolve wanted).run Databases.handler state =
      (.ok kinds, after) ∧ Answers read wanted state kinds after := by
  have heach := Databases.readsEach_lookKinds hsound read
  obtain ⟨found, hfound⟩ := (heach.ok_iff (unknownIds state.kindIds wanted)).2 fun id _ =>
    ⟨(hnames read).readable id, fun _ => (hnames .primary).readable id⟩
  obtain ⟨ids, hlearned⟩ : ∃ ids, learnedRows state.kindIds found = (ids, .ok ()) := by
    refine exists_learnedRows_iff.2 fun id record hget => ?_
    rcases ((heach.get?_iff hfound id record).1 hget).2 with hread | ⟨-, hprimary⟩
    · exact (hnames read).exists_kind hread
    · exact (hnames .primary).exists_kind hprimary
  have hslots : ∀ kind id, ids.get? kind = some id ↔ _ := fun _ _ =>
    get?_of_lookKinds hsound hfound hlearned
  have hnamed : ∀ kind id, ids.get? kind = some id → state.NamesKind read kind id := by
    intro kind id hid
    rcases (hslots kind id).1 hid with ⟨hnew, -⟩ | ⟨hold, -⟩
    · exact hnew.2.namesKind
    · exact hremembered kind id hold
  refine ⟨ids.kindsOf wanted, { state with kindIds := ids }, ?_, rfl, hslots, ?_, ?_, rfl, rfl⟩
  · rw [run_inTable_resolve_eq hsound, hfound]
    simp only [hlearned]
    rfl
  · intro kind id hid htells honly hunique
    have hown : ids.get? kind = some id := by
      rw [hslots]
      by_cases hunknown : id ∈ unknownIds state.kindIds wanted
      · refine Or.inl ⟨⟨hunknown, htells⟩, fun other hother => ?_⟩
        exact (hunique other (mem_unknownIds.1 hother.1).1 hother.2).le
      · -- the id is remembered, and so under its only kind
        obtain ⟨own, hown⟩ := exists_get?_of_not_mem_unknownIds hid hunknown
        obtain rfl := honly own (hremembered own id hown)
        refine Or.inr ⟨hown, fun other hother => hunknown ?_⟩
        exact hunique other (mem_unknownIds.1 hother.1).1 hother.2 ▸ hother.1
    refine SortedMap.get?_ofList_of_forall (KindIds.mem_kindsOf_iff.2 ⟨hid, hown⟩)
      fun other hother => ?_
    exact honly other (hnamed other id (KindIds.mem_kindsOf_iff.1 hother).2)
  · intro kind id hkind
    obtain ⟨hid, hown⟩ := KindIds.of_get?_kindsOf hkind
    exact ⟨hid, hnamed kind id hown⟩

/-- What a store in a table answers when it is asked for the kinds of ids, after any calls, on any
two tables of kinds that hold names of kinds. -/
theorem resolve_answers (read : Side) {start : Databases} (hsound : start.InOrder)
    (hnames : ∀ side, (start.database side).NamesKinds) (hnew : start.kindIds = .none)
    (calls : List KindCall) (wanted : List Int) :
    ∃ kinds after, ((inTable read .primary).resolve wanted).run Databases.handler
        ((inTable read .primary).after start calls) = (.ok kinds, after) ∧
      Answers read wanted ((inTable read .primary).after start calls) kinds after := by
  have hlearns := learns_after read hsound calls
  exact exists_answers (hlearns.onward.inOrder hsound) (hlearns.namesKinds hnames)
    (fun kind id => hlearns.namesKind hnew) wanted

/-- A database with names of kinds, numbered from one. -/
def kindsStore (kinds : List TermKind) : Database := .stocked [(.kinds, kinds.map recordOf)]

theorem sound_kindsStore (kinds : List TermKind) :
    (kindsStore kinds).Sound ∧ (kindsStore kinds).NamesKinds := by
  refine ⟨(Database.sound_typed_stocked fun entry hentry => ?_).1, ?_⟩
  · obtain rfl := List.mem_singleton.1 hentry
    exact ⟨TableSpec.mem_all_kinds, takes_recordOf kinds⟩
  · have hfresh := Database.fresh_migrated
    rw [kindsStore, Database.stocked, List.foldl_cons, List.foldl_nil]
    split
    · next hinsert =>
      exact (hfresh.sound.gains TableSpec.mem_all_kinds (takes_recordOf kinds) hinsert).namesKinds
        (allNames_map kinds) hfresh.namesKinds
    · exact hfresh.namesKinds

/-- A primary with a replica that lags behind. -/
def lagging : Databases := ⟨kindsStore [.label, .aliases], some (kindsStore [.label]), .none⟩

theorem lagging_answers :
    ∃ after, ((inTable .replica .primary).resolve [3, 1, 9, 2]).run Databases.handler
        ((inTable .replica .primary).after lagging [.lookup [.aliases], .acquire [.description]]) =
          (.ok (.ofList [(1, .label), (2, .aliases), (3, .description)]), after) ∧
      Answers .replica [3, 1, 9, 2]
        ((inTable .replica .primary).after lagging [.lookup [.aliases], .acquire [.description]])
        (.ofList [(1, .label), (2, .aliases), (3, .description)]) after := by
  obtain ⟨hprimary, hprimaryNames⟩ := sound_kindsStore [.label, .aliases]
  obtain ⟨hreplica, hreplicaNames⟩ := sound_kindsStore [.label]
  have hsound : lagging.InOrder := Side.rec hreplica hprimary
  obtain ⟨kinds, after, hrun, hanswers⟩ := resolve_answers .replica hsound
    (Side.rec hreplicaNames hprimaryNames) rfl [.lookup [.aliases], .acquire [.description]]
    [3, 1, 9, 2]
  have hkinds : (((inTable .replica .primary).resolve [3, 1, 9, 2]).run Databases.handler
      ((inTable .replica .primary).after lagging [.lookup [.aliases],
        .acquire [.description]])).1 =
          .ok (.ofList [(1, .label), (2, .aliases), (3, .description)]) := by decide +kernel
  rw [hrun] at hkinds
  obtain rfl := Except.ok.inj hkinds
  exact ⟨after, hrun, hanswers⟩

/-- A replica where the first kind is that of labels, before a primary where the second one is. -/
def crossed : Databases := ⟨kindsStore [.aliases, .label], some (kindsStore [.label]), .none⟩

/-- Of two ids, one told to be the kind of labels by the replica and one by the primary, only the
larger one is answered. -/
theorem crossed_label_dropped :
    crossed.InOrder ∧ (∀ side, (crossed.database side).NamesKinds) ∧
    crossed.TellsRow .replica 1 (recordOf .label) ∧
    crossed.TellsRow .replica 2 (recordOf .label) ∧
    (((inTable .replica .primary).resolve [1, 2]).run Databases.handler crossed).1 =
      .ok (.ofList [(2, .label)]) := by
  obtain ⟨hprimary, hprimaryNames⟩ := sound_kindsStore [.aliases, .label]
  obtain ⟨hreplica, hreplicaNames⟩ := sound_kindsStore [.label]
  have hsound : crossed.InOrder := Side.rec hreplica hprimary
  have hfound : crossed.lookKinds .replica [1, 2] =
      .ok (.ofList [(1, recordOf .label), (2, recordOf .label)]) := by decide +kernel
  have htells : ∀ id record, _ := (Databases.readsEach_lookKinds hsound .replica).get?_iff hfound
  exact ⟨hsound, Side.rec hreplicaNames hprimaryNames, ((htells 1 _).1 rfl).2,
    ((htells 2 _).1 rfl).2, by decide +kernel⟩

end KindStore

end TermStore
