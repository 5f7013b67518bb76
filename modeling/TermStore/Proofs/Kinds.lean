import TermStore.Proofs.Following
import TermStore.Proofs.Restart

/-!
# Kinds that have their ids

What is remembered of the kinds is right if no two kinds have one id, and, where the ids are those
of a table, if each id is that of the kind's row (`KindStore.Faithful`). It stays right when ids are
acquired for further kinds. That touches no table but the one of the kinds (`KindStore.Acquired`);
and kinds whose ids are known are neither looked up nor inserted.
-/

namespace TermStore

open Storage (TableSpec Record Cell Database foldName)

/-! ### Ids that are remembered -/

namespace KindIds

variable {ids : KindIds} {kinds : List TermKind} {kind other : TermKind} {id : Int}

theorem get?_put (ids : KindIds) (kind other : TermKind) (id : Int) :
    (ids.put kind id).get? other = if other = kind then some id else ids.get? other := by
  by_cases h : other = kind
  · rw [if_pos h, h, get?_put_self]
  · rw [if_neg h, get?_put_of_ne ids h]

theorem mem_toList_iff : (kind, id) ∈ ids.toList ↔ ids.get? kind = some id := by
  unfold toList
  rw [List.mem_filterMap]
  constructor
  · rintro ⟨other, -, hother⟩
    obtain ⟨id', hid', heq⟩ := Option.map_eq_some_iff.1 hother
    cases heq
    exact hid'
  · intro hid
    exact ⟨kind, by cases kind <;> decide, by rw [hid]; rfl⟩

/-- The wanted kinds keep their ids, and no others do. -/
theorem get?_select : (ids.select kinds).get? kind =
    if kind ∈ kinds then ids.get? kind else Option.none := by
  -- each of the three kinds is wanted or not, and has an id or not
  obtain ⟨label, description, aliases⟩ := ids
  unfold select toList TermKind.all
  by_cases hlabel : TermKind.label ∈ kinds <;>
    by_cases hdescription : TermKind.description ∈ kinds <;>
    by_cases haliases : TermKind.aliases ∈ kinds <;>
    cases label <;> cases description <;> cases aliases <;> cases kind <;>
    simp [hlabel, hdescription, haliases, get?, put, none]

/-- No two kinds have one id. -/
def Distinct (ids : KindIds) : Prop :=
  ∀ kind other id, ids.get? kind = some id → ids.get? other = some id → kind = other

theorem distinct_none : none.Distinct := by
  intro kind other id h
  cases kind <;> cases h

theorem Distinct.put (h : ids.Distinct) (hnew : ∀ other, ids.get? other ≠ some id) :
    (ids.put kind id).Distinct := by
  intro first second value hfirst hsecond
  rw [get?_put] at hfirst hsecond
  split at hfirst <;> split at hsecond
  · next hsame hsame' => rw [hsame, hsame']
  · cases hfirst
    exact absurd hsecond (hnew second)
  · cases hsecond
    exact absurd hfirst (hnew first)
  · exact h first second value hfirst hsecond

/-- A number after the largest one is new. -/
theorem get?_ne_next (ids : KindIds) (other : TermKind) :
    ids.get? other ≠ some (((ids.toList.map Prod.snd).max?).getD 0 + 1) := by
  intro hother
  have hmem : ((ids.toList.map Prod.snd).max?).getD 0 + 1 ∈ ids.toList.map Prod.snd :=
    List.mem_map.2 ⟨_, mem_toList_iff.2 hother, rfl⟩
  cases hmax : (ids.toList.map Prod.snd).max? with
  | none =>
      rw [List.max?_eq_none_iff.1 hmax] at hmem
      cases hmem
  | some largest =>
      rw [hmax] at hmem
      have hle := (List.max?_eq_some_iff.1 hmax).2 _ hmem
      rw [Option.getD_some] at hle
      omega

theorem Distinct.number (h : ids.Distinct) : (ids.number kinds).Distinct := by
  unfold KindIds.number
  induction kinds generalizing ids with
  | nil => exact h
  | cons kind rest ih =>
      rw [List.foldl_cons]
      cases hget : ids.get? kind with
      | some id => exact ih h
      | none => exact ih (h.put (get?_ne_next ids))

/-- Numbers that are taken stay with the kinds that have them. -/
theorem get?_number_iff (htaken : ∃ other, ids.get? other = some id) :
    (ids.number kinds).get? kind = some id ↔ ids.get? kind = some id := by
  unfold KindIds.number
  induction kinds generalizing ids with
  | nil => rfl
  | cons next rest ih =>
      rw [List.foldl_cons]
      cases hget : ids.get? next with
      | some own => exact ih htaken
      | none =>
          -- the new number is not the one that is taken, and the kind that gets it had none
          have hput : ∀ other : TermKind,
              (ids.put next (((ids.toList.map Prod.snd).max?).getD 0 + 1)).get? other = some id ↔
                ids.get? other = some id := by
            intro other
            rw [get?_put]
            split
            · next hother =>
              obtain ⟨own, hown⟩ := htaken
              rw [hother, hget]
              refine iff_of_false (fun hnumber => ?_) nofun
              exact get?_ne_next ids own (hown.trans hnumber.symm)
            · rfl
          obtain ⟨own, hown⟩ := htaken
          exact (ih ⟨own, (hput own).2 hown⟩).trans (hput kind)

theorem mem_kindsOf_iff {wanted : List Int} :
    (id, kind) ∈ (ids.toList.filter fun entry => wanted.contains entry.2).map
      (fun entry => (entry.2, entry.1)) ↔ id ∈ wanted ∧ ids.get? kind = some id := by
  rw [List.mem_map]
  constructor
  · rintro ⟨entry, hentry, heq⟩
    cases heq
    obtain ⟨hlisted, hwanted⟩ := List.mem_filter.1 hentry
    exact ⟨List.contains_iff_mem.1 hwanted, mem_toList_iff.1 hlisted⟩
  · rintro ⟨hwanted, hid⟩
    exact ⟨(kind, id), List.mem_filter.2 ⟨mem_toList_iff.2 hid, List.contains_iff_mem.2 hwanted⟩,
      rfl⟩

/-- The kinds that a wanted id could be answered with. -/
theorem filter_kindsOf {wanted : List Int} (hid : id ∈ wanted) :
    ((ids.toList.filter fun entry => wanted.contains entry.2).map fun entry =>
      (entry.2, entry.1)).filter (fun entry => entry.1 = id) =
      TermKind.all.filterMap fun kind =>
        if ids.get? kind = some id then some (id, kind) else Option.none := by
  unfold toList
  rw [List.filter_map, List.filter_filter, List.filter_filterMap, List.map_filterMap]
  refine List.filterMap_congr fun kind _ => ?_
  cases ids.get? kind with
  | none => rfl
  | some own =>
      by_cases hown : own = id
      · simp [hown, hid, Option.filter]
      · simp [hown, Option.filter]

/-- The kind that an id is answered with depends on the kinds that have it, and on nothing else. -/
theorem get?_kindsOf_congr {ids' : KindIds} {wanted wanted' : List Int}
    (hid : id ∈ wanted) (hid' : id ∈ wanted')
    (hsame : ∀ kind, ids.get? kind = some id ↔ ids'.get? kind = some id) :
    (ids.kindsOf wanted).get? id = (ids'.kindsOf wanted').get? id := by
  refine SortedMap.get?_ofList_congr ?_
  rw [filter_kindsOf hid, filter_kindsOf hid']
  simp only [hsame]

/-- The kind of a wanted id has that id. -/
theorem of_get?_kindsOf {wanted : List Int} (h : (ids.kindsOf wanted).get? id = some kind) :
    id ∈ wanted ∧ ids.get? kind = some id :=
  mem_kindsOf_iff.1 (SortedMap.mem_of_get?_ofList h)

/-- Of distinct ids, each wanted one belongs to the kind that has it. -/
theorem Distinct.get?_kindsOf (h : ids.Distinct) {wanted : List Int} :
    (ids.kindsOf wanted).get? id = some kind ↔ id ∈ wanted ∧ ids.get? kind = some id :=
  SortedMap.get?_ofList_iff mem_kindsOf_iff fun hid hother => h _ _ id hid.2 hother.2

end KindIds

namespace KindStore

variable {store : KindStore} {read : Side} {ids ids' : KindIds} {kinds : List TermKind}
  {kind other : TermKind} {id : Int} {before after later : Databases} {result : KindIds}

/-- The only record of a kind's name is that of the kind. -/
theorem eq_recordOf_of_kindOf {record : Record} (h : kindOf record = .ok kind) :
    record = recordOf kind := by
  unfold kindOf at h
  split at h
  · next name =>
    unfold TermKind.ofName at h
    split at h
    · next found hfound =>
      cases h
      have hname := List.find?_some hfound
      rw [recordOf, beq_iff_eq.1 hname]
    · cases h
  · cases h

/-- What is known after learning was known before, or it was learned; also where the learning ended
at a name of no kind. -/
theorem get?_learned {entries : List (Record × Int)} {outcome : Except Failure Unit}
    (h : learned ids entries = (ids', outcome)) (hid : ids'.get? kind = some id) :
    ids.get? kind = some id ∨ (recordOf kind, id) ∈ entries := by
  induction entries generalizing ids with
  | nil =>
      cases h
      exact Or.inl hid
  | cons entry rest ih =>
      obtain ⟨record, value⟩ := entry
      rw [learned] at h
      cases hrecord : kindOf record with
      | error failure =>
          simp only [hrecord, Prod.mk.injEq] at h
          obtain ⟨rfl, -⟩ := h
          exact Or.inl hid
      | ok named =>
          simp only [hrecord] at h
          rcases ih h with hbefore | hmem
          · rw [KindIds.get?_put] at hbefore
            split at hbefore
            · next hkind =>
              cases hbefore
              rw [hkind, eq_recordOf_of_kindOf hrecord]
              exact Or.inr List.mem_cons_self
            · exact Or.inl hbefore
          · exact Or.inr (List.mem_cons_of_mem _ hmem)

theorem recordOf_injective (h : recordOf kind = recordOf other) : kind = other := by
  have hkind := kindOf_recordOf kind
  rw [h, kindOf_recordOf] at hkind
  exact (Except.ok.inj hkind).symm

/-- The ids of kinds are those of their rows. -/
def Recorded (ids : KindIds) (db : Database) : Prop :=
  ∀ kind id, ids.get? kind = some id → db.Has .kinds id (recordOf kind)

/-- A row names one kind only. -/
theorem Recorded.distinct {db : Database} (h : Recorded ids db) : ids.Distinct :=
  fun kind other id hkind hother =>
    recordOf_injective ((h kind id hkind).functional (h other id hother))

theorem Recorded.grows {db db' : Database} (h : Recorded ids db) (hgrows : db.Grows db') :
    Recorded ids db' :=
  fun kind id hid => hgrows.has TableSpec.mem_all_kinds (h kind id hid)

/-- What is learned of rows is that of rows. -/
theorem Recorded.learned {db : Database} (h : Recorded ids db) {entries : List (Record × Int)}
    {outcome : Except Failure Unit} (hlearned : KindStore.learned ids entries = (ids', outcome))
    (hentries : ∀ entry ∈ entries, db.Has .kinds entry.2 entry.1) : Recorded ids' db := by
  intro kind id hid
  rcases get?_learned hlearned hid with hbefore | hmem
  · exact h kind id hbefore
  · exact hentries _ hmem

/-- What is remembered of the kinds is right: numbers differ, and ids in a table are those of the
rows of the kinds. -/
inductive Faithful (databases : Databases) : KindStore → Prop
  | inMemory (h : databases.kindIds.Distinct) : Faithful databases .inMemory
  | inTable (read : Side) (h : Recorded databases.kindIds databases.primary) :
      Faithful databases (.inTable read .primary)

theorem Faithful.standard (h : store.Faithful before) : store.Standard := by
  cases h with
  | inMemory h => exact .inMemory
  | inTable read h => exact .inTable read

/-- Kinds that are numbered by the process are not in a table: nothing is asked of the stores for
them. -/
theorem inTable_ne_inMemory : inTable read .primary ≠ inMemory := by
  intro h
  have hlookup := congrFun (congrArg KindStore.lookup h) [.label]
  replace hlookup := congrFun (eq_of_heq (Dialog.ask.inj hlookup).2) KindIds.none
  cases hlookup

theorem Faithful.recorded (h : (KindStore.inTable read .primary).Faithful before) :
    Recorded before.kindIds before.primary := by
  generalize hstore : KindStore.inTable read .primary = store at h
  cases h with
  | inMemory h => exact absurd hstore inTable_ne_inMemory
  | inTable read h => exact h

/-- What is remembered stays right while the primary grows. -/
theorem Faithful.onward (h : store.Faithful before) (honward : before.Onward after)
    (hkindIds : after.kindIds = before.kindIds) : store.Faithful after := by
  cases h with
  | inMemory h => exact .inMemory (hkindIds ▸ h)
  | inTable read h => exact .inTable read (hkindIds ▸ h.grows honward.grows)

/-- Nothing is remembered at first. -/
theorem faithful_of_none (h : store.Standard) (hnone : before.kindIds = .none) :
    store.Faithful before := by
  cases h with
  | inMemory => exact .inMemory (hnone ▸ KindIds.distinct_none)
  | inTable read =>
      refine .inTable read fun kind id hid => ?_
      rw [hnone] at hid
      cases kind <;> cases hid

/-- What it comes to that ids are acquired for some kinds. -/
structure Acquired (kinds : List TermKind) (before after : Databases) (result : KindIds) :
    Prop where
  onward : before.Onward after
  known : after.kindIds.Know kinds
  result : result = after.kindIds.select kinds
  /-- No other table is touched. -/
  tables : ∀ name, foldName name ≠ foldName TableSpec.kinds.name →
    after.primary.table name = before.primary.table name

/-- Known kinds are acquired without any request to the stores. -/
theorem Standard.run_acquire_of_know (h : store.Standard) (hknow : before.kindIds.Know kinds) :
    (store.acquire kinds).run Databases.handler before =
      (.ok (before.kindIds.select kinds), before) := by
  cases h with
  | inMemory =>
      rw [run_inMemory, KindIds.number_of_know hknow]
  | inTable read => exact run_inTable_of_know hknow

open Acquisition

/-- Ids that are not known are those of rows that are there or have been supplied. -/
theorem exists_supplies_of_inTable (hlags : before.Lags) (hsound : before.primary.Sound)
    (hknow : ¬ before.kindIds.Know kinds)
    (hrun : ((inTable read .primary).acquire kinds).run Databases.handler before =
      (.ok result, after)) :
    ∃ middle, Supplies .kinds ((unknownKinds before.kindIds kinds).map recordOf).eraseDups before
        middle ∧
      learned before.kindIds (numbered middle.primary .kinds
        ((unknownKinds before.kindIds kinds).map recordOf)) = (after.kindIds, .ok ()) ∧
      after = { middle with kindIds := after.kindIds } ∧ result = after.kindIds.select kinds := by
  rw [run_inTable_of_not_know hknow] at hrun
  obtain ⟨acquired, middle, hacquired, hrest⟩ := Dialog.run_bind_eq_ok_iff.1 hrun
  obtain ⟨ids, last, hlearn, hlast⟩ := Dialog.run_bind_eq_ok_iff.1 hrest
  obtain ⟨hresult, rfl⟩ := Prod.mk.inj hlast
  obtain rfl := Except.ok.inj hresult
  have htakes := takes_recordOf (unknownKinds before.kindIds kinds)
  have hasks : (acquireIds (.replicaFirst read .primary) .kinds
      ((unknownKinds before.kindIds kinds).map recordOf)).Asks Request.ProperCall :=
    asks_acquireIds (permits_properCall rfl _ TableSpec.mem_all_kinds) htakes
  have hkindIds := hasks.kindIds_of_run hacquired
  obtain ⟨hsupplies, rfl⟩ := (run_acquireIds_iff (fun read _ => hlags.follows hsound read) rfl
    TableSpec.mem_all_kinds htakes hsound (show 1 ≤ Seeker.defaultAttempts by decide)).1 hacquired
  obtain ⟨hlearned, hlast, -⟩ := run_learn hlearn
  have hids : last.kindIds = ids := by rw [hlast]
  rw [hkindIds] at hlearned
  rw [hids]
  exact ⟨middle, hsupplies, hlearned, hlast, rfl⟩

theorem Standard.acquired_of_run (h : store.Standard) (hlags : before.Lags)
    (hsound : before.primary.Sound)
    (hrun : (store.acquire kinds).run Databases.handler before = (.ok result, after)) :
    Acquired kinds before after result := by
  have honward := (h.asks_acquire kinds).onward_of_run hsound hrun
  cases h with
  | inMemory =>
      rw [run_inMemory] at hrun
      cases hrun
      exact ⟨honward, KindIds.know_number _ _, rfl, fun _ _ => rfl⟩
  | inTable read =>
      by_cases hknow : before.kindIds.Know kinds
      · rw [run_inTable_of_know hknow] at hrun
        cases hrun
        exact ⟨honward, hknow, rfl, fun _ _ => rfl⟩
      · obtain ⟨middle, hsupplies, hlearned, hafter, hresult⟩ :=
          exists_supplies_of_inTable hlags hsound hknow hrun
        refine ⟨honward, know_learned ?_ hlearned, hresult, fun name hname => ?_⟩
        · unfold numbered
          rw [List.map_map]
          exact List.map_id _
        · rw [hafter]
          exact hsupplies.others TableSpec.mem_all_kinds (takes_eraseDups (takes_recordOf _))
            hsound name hname

/-- What is remembered stays right. -/
theorem Faithful.acquire (h : store.Faithful before) (hlags : before.Lags)
    (hsound : before.primary.Sound)
    (hrun : (store.acquire kinds).run Databases.handler before = (.ok result, after)) :
    store.Faithful after := by
  have honward := (h.standard.asks_acquire kinds).onward_of_run hsound hrun
  cases h with
  | inMemory h =>
      rw [run_inMemory] at hrun
      cases hrun
      exact .inMemory h.number
  | inTable read h =>
      by_cases hknow : before.kindIds.Know kinds
      · rw [run_inTable_of_know hknow] at hrun
        cases hrun
        exact .inTable read h
      · obtain ⟨middle, hsupplies, hlearned, hafter, -⟩ :=
          exists_supplies_of_inTable hlags hsound hknow hrun
        refine .inTable read ((h.grows honward.grows).learned hlearned fun entry hentry => ?_)
        obtain ⟨record, hrecord, rfl⟩ := List.mem_map.1 hentry
        have htakes := takes_recordOf (unknownKinds before.kindIds kinds)
        obtain ⟨id, hid⟩ := hsupplies.has record (List.mem_eraseDups.2 hrecord)
        have hlookUp := ((hsupplies.onward TableSpec.mem_all_kinds (takes_eraseDups htakes)
          hsound).sound.lookUp_eq_some_iff TableSpec.mem_all_kinds (htakes record hrecord)).2 hid
        rw [hafter, hlookUp]
        exact hid

end KindStore

end TermStore
