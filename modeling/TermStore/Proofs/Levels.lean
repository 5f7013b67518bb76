import TermStore.Proofs.Lagging
import TermStore.Proofs.Search

/-!
# Levels that repeat

The ids of some records are looked up on the replica, where there is one, and searched for on the
primary. Taken up again anywhere, that comes to the same (`repeats_acquireIds`), and so do the three
levels together. With a replica that has nothing but rows of the primary, or without one, what the
three levels make of the primary is told by what is to be supplied on each of them (`Climbs`).

Everything rests on one observation. A level looks on the replica first, and what it does on the
primary depends on what it found there. A replica that is a database of its own answers the second
time as it did the first; one that is the primary under another name answers with more, namely with
the rows that were inserted meanwhile. In both cases the records are supplied by then, under the ids
that they were given, so nothing is inserted and the same ids come back.
-/

namespace TermStore

open Storage (TableSpec Record RecordIds Database Cell)

namespace Acquisition

variable {spec : TableSpec} {needed records : List Record} {found after : RecordIds}
  {before middle later : Databases}

/-! ### Ids of records -/

/-- The ids that are put together depend only on what was found for the records asked for; what else
is among the found ids plays no part. -/
theorem assemble_congr {found found' : RecordIds}
    (h : ∀ record ∈ records, found.get? record = found'.get? record) :
    assemble spec found records = assemble spec found' records := by
  induction records with
  | nil => rfl
  | cons record rest ih =>
      have hrest := ih fun other hother => h other (List.mem_cons_of_mem record hother)
      unfold assemble at hrest ⊢
      rw [List.mapM_cons, List.mapM_cons, h record List.mem_cons_self, hrest]

/-- The search on the primary, and the ids of all records after it. -/
def search (s : Seeker) (spec : TableSpec) (records needed : List Record) (found : RecordIds) :
    Dialog (List (Record × Int)) :=
  (seekOnPrimary s.primary spec s.attempts 0 needed found).bind fun found =>
    .ofExcept (assemble spec found records)

section Level

variable {s : Seeker} {ids : List (Record × Int)} (hprimary : s.primary = .primary)
  (hattempts : 1 ≤ s.attempts) (hspec : spec ∈ TableSpec.all)

include hprimary hspec

/-- A search that goes through has supplied the records, and passes through its beginning and its
end only. -/
theorem supplies_of_search (htakes : ∀ record ∈ needed, spec.Takes record)
    (hsound : before.primary.Sound)
    (hrun : (search s spec records needed found).run Databases.handler before =
      (.ok ids, middle)) :
    Supplies spec needed before middle ∧
      (∃ after, Sought spec needed found middle.primary after ∧
        assemble spec after records = .ok ids) ∧
      ∀ met, (search s spec records needed found).Passes before met →
        met = before ∨ met = middle := by
  unfold search at hrun ⊢
  rw [hprimary] at hrun ⊢
  obtain ⟨after, state, hseek, hassemble⟩ := Dialog.run_bind_eq_ok_iff.1 hrun
  obtain ⟨hsupplies, hsought, hpasses⟩ := supplies_of_run hspec htakes hsound hseek
  cases hids : assemble spec after records with
  | error failure =>
      rw [hids] at hassemble
      cases hassemble
  | ok ids' =>
      rw [hids] at hassemble
      cases hassemble
      refine ⟨hsupplies, ⟨after, hsought, hids⟩, fun met hmet => ?_⟩
      rcases hmet.of_bind_of_run hseek with hseeking | hassembling
      · exact hpasses met hseeking
      · rw [hids] at hassembling
        exact Or.inr hassembling

include hattempts

/-- Where the records can be supplied, and all ids are among what is found then. -/
theorem run_search (htakes : ∀ record ∈ needed, spec.Takes record) (hsound : before.primary.Sound)
    (hsupplies : Supplies spec needed before middle)
    (hassemble : ∀ after, Sought spec needed found middle.primary after →
      assemble spec after records = .ok ids) :
    (search s spec records needed found).run Databases.handler before = (.ok ids, middle) := by
  obtain ⟨attempts, hcount⟩ : ∃ attempts, s.attempts = attempts + 1 :=
    Nat.exists_eq_add_of_le' hattempts
  obtain ⟨after, hrun⟩ := exists_run_of_supplies hspec htakes hsound hsupplies attempts 0 found
  obtain ⟨-, hsought, -⟩ := supplies_of_run hspec htakes hsound hrun
  unfold search
  rw [hprimary, hcount, Dialog.run_bind, hrun]
  simp only [hassemble after hsought]
  rfl

/-- Once the records are supplied, a search finds the same ids and changes nothing. -/
theorem settled_search (htakes : ∀ record ∈ needed, spec.Takes record)
    (hsound : before.primary.Sound) (hsupplies : Supplies spec needed before middle)
    (hsought : Sought spec needed found middle.primary after)
    (hassemble : assemble spec after records = .ok ids) (hlater : middle.Onward later) :
    (search s spec records needed found).run Databases.handler later = (.ok ids, later) := by
  have hmiddle := (hsupplies.onward hspec htakes hsound).sound
  refine run_search hprimary hattempts hspec htakes hlater.sound
    (hsupplies.settled hspec htakes hlater) fun after' hsought' => ?_
  rw [← hassemble]
  refine assemble_congr fun record _ => ?_
  -- a record that was supplied is found under the id that it was given then
  rw [hsought record, hsought' record]
  by_cases hrecord : record ∈ needed
  · obtain ⟨id, hid⟩ := hsupplies.has record hrecord
    have hlookUp := (hmiddle.lookUp_eq_some_iff hspec (htakes record hrecord)).2 hid
    rw [if_pos hrecord, if_pos hrecord, hlookUp]
    exact hmiddle.lookUp_grows hspec (htakes record hrecord) hlater.sound hlater.grows hlookUp
  · rw [if_neg hrecord, if_neg hrecord]

/-- Once the records are supplied, a look-up on the primary finds all of them, and the search after
it the same ids as before. -/
theorem settled_find {wanted : List Record} (htakes : ∀ record ∈ wanted, spec.Takes record)
    (hrecords : ∀ record ∈ records, record ∈ wanted) (hsound : before.primary.Sound)
    (hfind : before.primary.find spec wanted = .ok found)
    (hsupplies : Supplies spec (missing wanted found) before middle)
    (hsought : Sought spec (missing wanted found) found middle.primary after)
    (hassemble : assemble spec after records = .ok ids) (hlater : middle.Onward later) :
    ∃ found', later.primary.find spec wanted = .ok found' ∧
      (search s spec records (missing wanted found') found').run Databases.handler later =
        (.ok ids, later) := by
  have honward := hsupplies.onward hspec (takes_missing htakes found) hsound
  have hmissing := hsound.missing_of_find hspec htakes hfind
  -- what was found before and what was supplied since is found in the middle already
  have hlookUp : ∀ record ∈ wanted, ∃ id, middle.primary.lookUp spec record = some id ∧
      after.get? record = some id := by
    intro record hrecord
    have htake := htakes record hrecord
    by_cases hneeded : record ∈ missing wanted found
    · obtain ⟨id, hid⟩ := hsupplies.has record hneeded
      have hget := (honward.sound.lookUp_eq_some_iff hspec htake).2 hid
      exact ⟨id, hget, by rw [hsought record, if_pos hneeded, hget]⟩
    · obtain ⟨id, hid⟩ := hsound.exists_has_of_not_mem_absent hspec htake hrecord
        (hmissing ▸ hneeded)
      have hget := (hsound.lookUp_eq_some_iff hspec htake).2 hid
      refine ⟨id, hsound.lookUp_grows hspec htake honward.sound honward.grows hget, ?_⟩
      rw [hsought record, if_neg hneeded, hsound.get?_of_find hspec htakes hfind, if_pos hrecord,
        hget]
  have hlater' : ∀ record ∈ wanted, later.primary.lookUp spec record = after.get? record := by
    intro record hrecord
    obtain ⟨id, hget, hafter⟩ := hlookUp record hrecord
    rw [hafter]
    exact honward.sound.lookUp_grows hspec (htakes record hrecord) hlater.sound hlater.grows hget
  have hhas : ∀ record ∈ wanted, ∃ id, later.primary.Has spec id record := by
    intro record hrecord
    obtain ⟨id, -, hafter⟩ := hlookUp record hrecord
    refine ⟨id, (hlater.sound.lookUp_eq_some_iff hspec (htakes record hrecord)).1 ?_⟩
    rw [hlater' record hrecord, hafter]
  have hself : Supplies spec wanted later later := supplies_self hspec htakes hlater.sound hhas
  obtain ⟨found', hfind'⟩ := (hlater.sound.find_ok_iff hspec htakes).2 hself.exact
  have hnone : missing wanted found' = [] := by
    rw [hlater.sound.missing_of_find hspec htakes hfind']
    exact (hlater.sound.absent_eq_nil_iff hspec htakes).2 hhas
  have hnothing : ∀ {P : Record → Prop}, ∀ record ∈ ([] : List Record), P record :=
    fun _ hmem => absurd hmem List.not_mem_nil
  refine ⟨found', hfind', ?_⟩
  rw [hnone]
  refine run_search hprimary hattempts hspec hnothing hlater.sound
    (supplies_self hspec hnothing hlater.sound hnothing) fun after' hsought' => ?_
  rw [← hassemble]
  refine assemble_congr fun record hrecord => ?_
  rw [hsought' record, if_neg List.not_mem_nil, hlater.sound.get?_of_find hspec htakes hfind',
    if_pos (hrecords record hrecord), hlater' record (hrecords record hrecord)]

end Level

/-! ### The two kinds of search -/

section Acquired

variable {s : Seeker} {ids : List (Record × Int)}

/-- Without a replica the ids are searched for on the primary right away. -/
theorem acquireIds_eq_search (hreplica : s.replica = none) (records : List Record) :
    acquireIds s spec records = search s spec records records.eraseDups .empty := by
  unfold acquireIds
  rw [hreplica]
  rfl

/-- With a replica, and no records, nothing is asked of either store. -/
theorem acquireIds_nil {read : Side} (hreplica : s.replica = some read)
    (hempty : records.eraseDups.isEmpty = true) : acquireIds s spec records = .done [] := by
  unfold acquireIds
  rw [hreplica]
  exact if_pos hempty

/-- With a replica there is one look-up there, of all records at once, and only the records that it
does not find are searched for on the primary. -/
theorem acquireIds_eq_find {read : Side} (hreplica : s.replica = some read)
    (hwanted : ¬ records.eraseDups.isEmpty = true) :
    acquireIds s spec records =
      (Dialog.find read spec records.eraseDups).bind fun found =>
        .note (.replicaRead spec.name records.eraseDups.length found.entries.length)
          (search s spec records (missing records.eraseDups found) found) := by
  unfold acquireIds
  rw [hreplica]
  exact if_neg hwanted

/-- What the look-up on the replica comes to: a search for the rest, in the same databases, or a
failure that changes nothing. -/
theorem run_acquireIds (spec : TableSpec) {read : Side} (hreplica : s.replica = some read)
    (hwanted : ¬ records.eraseDups.isEmpty = true) (state : Databases) :
    (acquireIds s spec records).run Databases.handler state =
      match (state.database read).find spec records.eraseDups with
      | .ok found => (search s spec records (missing records.eraseDups found) found).run
          Databases.handler state
      | .error fault => (.error (.storage fault), state) := by
  rw [acquireIds_eq_find hreplica hwanted]
  show Dialog.run _ (Dialog.ask _ _) _ = _
  simp only [Dialog.run, Databases.handler, Databases.reply]
  cases (state.database read).find spec records.eraseDups <;> rfl

/-- The search for the ids of some records repeats. -/
theorem repeats_acquireIds (hprimary : s.primary = .primary) (hattempts : 1 ≤ s.attempts)
    (hspec : spec ∈ TableSpec.all) (htakes : ∀ record ∈ records, spec.Takes record)
    (hsound : before.primary.Sound)
    (hrun : (acquireIds s spec records).run Databases.handler before = (.ok ids, middle)) :
    (acquireIds s spec records).Repeats before ids middle := by
  have hwanted := takes_eraseDups htakes
  cases hreplica : s.replica with
  | none =>
      rw [acquireIds_eq_search hreplica] at hrun ⊢
      obtain ⟨hsupplies, ⟨after, hsought, hassemble⟩, hpasses⟩ :=
        supplies_of_search hprimary hspec hwanted hsound hrun
      -- nothing is asked before the search, so the states it passes through are those of the
      -- search: its beginning and its end
      exact Dialog.repeats_of_settled hrun (hsupplies.onward hspec hwanted hsound).sound hpasses
        fun later hlater _ => settled_search hprimary hattempts hspec hwanted hsound hsupplies
          hsought hassemble hlater
  | some read =>
      -- with no records at all there is no look-up, and hence nothing to take up again
      by_cases hempty : records.eraseDups.isEmpty = true
      · rw [acquireIds_nil hreplica hempty] at hrun ⊢
        cases hrun
        exact Dialog.repeats_done [] before
      · have hread := run_acquireIds spec hreplica hempty
        cases hfind : (before.database read).find spec records.eraseDups with
        | error fault =>
            rw [hread, hfind] at hrun
            cases hrun
        | ok found =>
            have hneeded := takes_missing hwanted found
            have hsearch := hrun
            simp only [hread, hfind] at hsearch
            obtain ⟨hsupplies, ⟨after, hsought, hassemble⟩, hpasses⟩ :=
              supplies_of_search hprimary hspec hneeded hsound hsearch
            have honward := hsupplies.onward hspec hneeded hsound
            refine Dialog.repeats_of_settled hrun honward.sound (fun met hmet => ?_)
              fun later hlater _ => ?_
            · rw [acquireIds_eq_find hreplica hempty] at hmet
              rcases hmet.of_find with hsame | ⟨found', hfind', hrest⟩
              · exact Or.inl hsame
              · obtain rfl := Except.ok.inj (hfind.symm.trans hfind')
                exact hpasses met hrest
            · rcases before.database_onward read with haside | hon
              · -- a replica of its own finds what it found before
                rw [hread, haside later (honward.trans hlater), hfind]
                exact settled_search hprimary hattempts hspec hneeded hsound hsupplies hsought
                  hassemble hlater
              -- where replica and primary are one database the look-up finds what was inserted
              -- since, and the search has nothing left to do
              · rw [hon before rfl] at hfind
                obtain ⟨found', hfind', hrun'⟩ := settled_find hprimary hattempts hspec hwanted
                  (fun record hrecord => List.mem_eraseDups.2 hrecord) hsound hfind hsupplies
                  hsought hassemble hlater
                rw [hread, hon later (honward.trans hlater).replica, hfind']
                exact hrun'

/-! ### Levels with a replica that follows the primary -/

/-- What is found on such a replica has a row on the primary. -/
theorem has_of_found {read : Side} (hread : before.Follows read) (hspec : spec ∈ TableSpec.all)
    (htakes : ∀ record ∈ records, spec.Takes record)
    (hfind : (before.database read).find spec records = .ok found) {record : Record} {id : Int}
    (hget : found.get? record = some id) : before.primary.Has spec id record :=
  hread.within.has hspec ((hread.sound.find_iff hspec htakes hfind).1 hget).2

/-- A record that was asked for and is not missing was found. -/
theorem exists_get?_of_not_missing {record : Record} (hrecord : record ∈ records)
    (hfound : record ∉ missing records found) : ∃ id, found.get? record = some id := by
  refine SortedMap.contains_iff.1 (Bool.not_eq_false _ ▸ fun hmissing => hfound ?_)
  exact List.mem_filter.2 ⟨hrecord, by rw [hmissing]; rfl⟩

section Found

variable (hspec : spec ∈ TableSpec.all) (htakes : ∀ record ∈ records, spec.Takes record)
  (hsound : before.primary.Sound)
  (hfound : ∀ record id, found.get? record = some id → before.primary.Has spec id record)

include hspec htakes hsound hfound

/-- Found records are not absent from the primary. -/
theorem absent_missing :
    before.primary.absent spec (missing records found) = before.primary.absent spec records := by
  unfold Database.absent missing
  rw [List.filter_filter]
  refine List.filter_congr fun record hrecord => ?_
  cases hcontains : found.contains record with
  | false => exact Bool.and_true _
  | true =>
      obtain ⟨id, hget⟩ := SortedMap.contains_iff.1 hcontains
      rw [(hsound.lookUp_eq_some_iff hspec (htakes record hrecord)).2 (hfound record id hget)]
      rfl

/-- Together with what is found, all records are supplied. -/
theorem Supplies.of_missing (h : Supplies spec (missing records found) before middle) :
    Supplies spec records before middle := by
  have honward := h.onward hspec (takes_missing htakes found) hsound
  refine ⟨fun record hrecord => ?_, ?_, fun record hrecord => ?_⟩
  · by_cases hmissing : record ∈ missing records found
    · exact h.exact record hmissing
    · obtain ⟨id, hget⟩ := exists_get?_of_not_missing hrecord hmissing
      exact hsound.exact_of_has hspec (htakes record hrecord) (hfound record id hget)
  · rw [← absent_missing hspec htakes hsound hfound]
    exact h.change
  · by_cases hmissing : record ∈ missing records found
    · exact h.has record hmissing
    · obtain ⟨id, hget⟩ := exists_get?_of_not_missing hrecord hmissing
      exact ⟨id, honward.grows.has hspec (hfound record id hget)⟩

omit hsound in
/-- After the search, each record is found under the id that it has on the primary. -/
theorem get?_of_sought {known : RecordIds} (hmiddle : before.Onward middle)
    (hsought : Sought spec (missing records found) found middle.primary known) {record : Record}
    (hrecord : record ∈ records) : known.get? record = middle.primary.lookUp spec record := by
  rw [hsought record]
  by_cases hmissing : record ∈ missing records found
  · rw [if_pos hmissing]
  · obtain ⟨id, hget⟩ := exists_get?_of_not_missing hrecord hmissing
    rw [if_neg hmissing, hget]
    exact ((hmiddle.sound.lookUp_eq_some_iff hspec (htakes record hrecord)).2
      (hmiddle.grows.has hspec (hfound record id hget))).symm

end Found

/-- The ids of some records, as look-ups of each of them find them. -/
def numbered (db : Database) (spec : TableSpec) (records : List Record) : List (Record × Int) :=
  records.map fun record => (record, (db.lookUp spec record).getD 0)

/-- Ids that were found as look-ups find them are put together to what look-ups of the records tell,
one after the other. -/
theorem assemble_eq_numbered {db : Database} (hsound : db.Sound) (hspec : spec ∈ TableSpec.all)
    (htakes : ∀ record ∈ records, spec.Takes record)
    (hhas : ∀ record ∈ records, ∃ id, db.Has spec id record)
    (hfound : ∀ record ∈ records, found.get? record = db.lookUp spec record) :
    assemble spec found records = .ok (numbered db spec records) := by
  refine mapM_eq_ok_iff.2 ?_
  unfold numbered
  rw [List.forall₂_map_right_iff, List.forall₂_same]
  intro record hrecord
  obtain ⟨id, hid⟩ := hhas record hrecord
  have hlookUp := (hsound.lookUp_eq_some_iff hspec (htakes record hrecord)).2 hid
  rw [hfound record hrecord, hlookUp]
  rfl

/-- Without a replica there is nothing that could lag or go its own way. -/
theorem follows_of_none (h : s.replica = none) : ∀ read ∈ s.replica, before.Follows read := by
  intro read hread
  rw [h] at hread
  cases hread

section Follows

variable (hreplica : ∀ read ∈ s.replica, before.Follows read) (hprimary : s.primary = .primary)
  (hspec : spec ∈ TableSpec.all) (htakes : ∀ record ∈ records, spec.Takes record)
  (hsound : before.primary.Sound)

include hreplica hspec htakes hsound

/-- A level comes to a search on the primary for what is not found on the replica, or a row of the
primary gets in the way. -/
theorem run_acquireIds_cases :
    (∃ found, (∀ record id, found.get? record = some id → before.primary.Has spec id record) ∧
      (acquireIds s spec records).run Databases.handler before =
        (search s spec records (missing records.eraseDups found) found).run Databases.handler
          before ∧
      ∀ met, (acquireIds s spec records).Passes before met → met = before ∨
        (search s spec records (missing records.eraseDups found) found).Passes before met) ∨
    (∃ record ∈ records, ¬ before.primary.Exact spec record) ∧
      ∃ failure, (acquireIds s spec records).run Databases.handler before =
        (.error failure, before) := by
  have hwanted := takes_eraseDups htakes
  have hnothing : ∀ (record : Record) (id : Int),
      (SortedMap.empty : RecordIds).get? record = some id →
        before.primary.Has spec id record := by
    intro record id hget
    cases hget
  cases hread : s.replica with
  | none =>
      refine Or.inl ⟨.empty, hnothing, ?_⟩
      -- what an empty look-up leaves missing is all of the records
      have hall : missing records.eraseDups .empty = records.eraseDups :=
        List.filter_eq_self.2 fun _ _ => rfl
      rw [acquireIds_eq_search hread, hall]
      exact ⟨rfl, fun met hmet => Or.inr hmet⟩
  | some read =>
      by_cases hempty : records.eraseDups.isEmpty = true
      · refine Or.inl ⟨.empty, hnothing, ?_⟩
        rw [acquireIds_nil hread hempty, eq_nil_of_isEmpty_eraseDups hempty]
        unfold search seekOnPrimary
        exact ⟨rfl, fun met hmet => Or.inl hmet⟩
      · have hfollows := hreplica read (by rw [hread]; rfl)
        have hrun := run_acquireIds spec hread hempty before
        cases hfind : (before.database read).find spec records.eraseDups with
        | ok found =>
            rw [hfind] at hrun
            refine Or.inl ⟨found, fun record id => has_of_found hfollows hspec hwanted hfind, hrun,
              fun met hmet => ?_⟩
            rw [acquireIds_eq_find hread hempty] at hmet
            rcases hmet.of_find with hsame | ⟨found', hfind', hrest⟩
            · exact Or.inl hsame
            · obtain rfl := Except.ok.inj (hfind.symm.trans hfind')
              exact Or.inr hrest
        | error fault =>
            rw [hfind] at hrun
            refine Or.inr ⟨?_, _, hrun⟩
            -- a replica that follows fails only on a row that the primary has as well, so if every
            -- record were exact there the look-up would have gone through
            by_contra hnone
            simp only [not_exists, not_and, not_not] at hnone
            obtain ⟨found, hfound⟩ := (hfollows.sound.find_ok_iff hspec hwanted).2
              fun record hrecord => hfollows.within.exact hfollows.sound hsound hspec
                (hwanted record hrecord) (hnone record (List.mem_eraseDups.1 hrecord))
            rw [hfind] at hfound
            cases hfound

include hprimary

/-- With a replica that follows the primary, a level goes through exactly when its records can be
supplied. -/
theorem run_acquireIds_iff (hattempts : 1 ≤ s.attempts) :
    (acquireIds s spec records).run Databases.handler before = (.ok ids, middle) ↔
      Supplies spec records.eraseDups before middle ∧
        ids = numbered middle.primary spec records := by
  have hwanted := takes_eraseDups htakes
  rcases run_acquireIds_cases hreplica hspec htakes hsound with
    ⟨found, hfound, hrun, -⟩ | ⟨⟨record, hrecord, hinexact⟩, failure, hrun⟩
  · have hneeded := takes_missing hwanted found
    -- whichever way the ids were found, they are put together to the same list
    have hassemble : ∀ {known : RecordIds}, Supplies spec records.eraseDups before middle →
        Sought spec (missing records.eraseDups found) found middle.primary known →
        assemble spec known records = .ok (numbered middle.primary spec records) := by
      intro known hsupplies hsought
      have honward := hsupplies.onward hspec hwanted hsound
      exact assemble_eq_numbered honward.sound hspec htakes
        (fun record hrecord => hsupplies.has record (List.mem_eraseDups.2 hrecord))
        fun record hrecord => get?_of_sought hspec hwanted hfound honward hsought
          (List.mem_eraseDups.2 hrecord)
    rw [hrun]
    constructor
    · intro hsearch
      obtain ⟨hmissing, ⟨known, hsought, hids⟩, -⟩ :=
        supplies_of_search hprimary hspec hneeded hsound hsearch
      have hsupplies := hmissing.of_missing hspec hwanted hsound hfound
      exact ⟨hsupplies, Except.ok.inj (hids.symm.trans (hassemble hsupplies hsought))⟩
    · rintro ⟨hsupplies, rfl⟩
      have hmissing : Supplies spec (missing records.eraseDups found) before middle :=
        hsupplies.of_subset (fun record hrecord => (List.mem_filter.1 hrecord).1)
          (absent_missing hspec hwanted hsound hfound)
      exact run_search hprimary hattempts hspec hneeded hsound hmissing
        fun known hsought => hassemble hsupplies hsought
  · rw [hrun]
    constructor
    · intro h
      cases h
    · rintro ⟨hsupplies, -⟩
      exact absurd (hsupplies.exact record (List.mem_eraseDups.2 hrecord)) hinexact

/-- A level passes through nothing between its beginning and its end: what it inserts it inserts in
one call, so a client that is broken off has done all of it or nothing. -/
theorem passes_acquireIds
    (hrun : (acquireIds s spec records).run Databases.handler before = (.ok ids, middle))
    {met : Databases} (h : (acquireIds s spec records).Passes before met) :
    met = before ∨ met = middle := by
  rcases run_acquireIds_cases hreplica hspec htakes hsound with
    ⟨found, -, hsearch, hpasses⟩ | ⟨-, failure, hfailed⟩
  · obtain ⟨-, -, hsearching⟩ := supplies_of_search hprimary hspec
      (takes_missing (takes_eraseDups htakes) found) hsound (hsearch.symm.trans hrun)
    rcases hpasses met h with hsame | hmet
    · exact Or.inl hsame
    · exact hsearching met hmet
  · cases hrun.symm.trans hfailed

end Follows

end Acquired

/-! ### Three levels -/

/-- The record of a term's text in its language. -/
def languageRecord (db : Database) (t : Term × Int) : Record :=
  [.integer ((db.lookUp .texts [.text t.1.text]).getD 0), .text t.1.language]

/-- The record of a term. -/
def termRecord (db db' : Database) (t : Term × Int) : Record :=
  [.integer ((db'.lookUp .textsInLanguage (languageRecord db t)).getD 0), .integer t.2]

/-- Once the texts have their ids, the records of the next level are those that look-ups of the
texts lead to. Which ids the level before was given does not matter any more. -/
theorem languageRecords_numbered (db : Database) (terms : List (Term × Int)) :
    languageRecords terms (numbered db .texts (textRecords terms)) =
      terms.map (languageRecord db) := by
  unfold languageRecords numbered textRecords
  rw [List.map_map, ← List.map_prod_left_eq_zip, List.map_map]
  rfl

/-- The same for the records of the terms, above the texts in their languages. -/
theorem termRecords_numbered (db db' : Database) (terms : List (Term × Int)) :
    termRecords terms (numbered db' .textsInLanguage (terms.map (languageRecord db))) =
      terms.map (termRecord db db') := by
  unfold termRecords numbered
  rw [List.map_map, ← List.map_prod_left_eq_zip, List.map_map]
  rfl

/-- A text's row tells the record of the text in its language. -/
theorem languageRecord_of_has {db : Database} (hsound : db.Sound) {t : Term × Int} {textId : Int}
    (htext : db.Has .texts textId [.text t.1.text]) :
    languageRecord db t = [.integer textId, .text t.1.language] := by
  have hlookUp := (hsound.lookUp_eq_some_iff TableSpec.mem_all_texts
    (TableSpec.takes_texts t.1.text)).2 htext
  unfold languageRecord
  rw [hlookUp]
  rfl

/-- The row of a text in its language tells the record of the term. -/
theorem termRecord_of_has {db db' : Database} (hsound : db'.Sound) {t : Term × Int}
    {middleId : Int} (hmiddle : db'.Has .textsInLanguage middleId (languageRecord db t)) :
    termRecord db db' t = [.integer middleId, .integer t.2] := by
  have hlookUp := (hsound.lookUp_eq_some_iff TableSpec.mem_all_textsInLanguage
    (TableSpec.takes_textsInLanguage _ _)).2 hmiddle
  unfold termRecord
  rw [show db'.lookUp .textsInLanguage (languageRecord db t) = some middleId from hlookUp]
  rfl

/-- What three levels make of the primary, one after the other. -/
structure Climbs (terms : List (Term × Int)) (start first second last : Databases) : Prop where
  texts : Supplies .texts (textRecords terms).eraseDups start first
  inLanguage : Supplies .textsInLanguage (terms.map (languageRecord first.primary)).eraseDups
    first second
  terms : Supplies .termsInLanguage
    (terms.map (termRecord first.primary second.primary)).eraseDups second last

/-- These are records that the table takes, whatever the look-ups found: an id that was not found
stands as a zero, which is an integer all the same. -/
theorem takes_map_languageRecord (db : Database) (terms : List (Term × Int)) :
    ∀ record ∈ terms.map (languageRecord db), TableSpec.textsInLanguage.Takes record := by
  rw [← languageRecords_numbered]
  exact takes_languageRecords _ _

theorem takes_map_termRecord (db db' : Database) (terms : List (Term × Int)) :
    ∀ record ∈ terms.map (termRecord db db'), TableSpec.termsInLanguage.Takes record := by
  rw [← termRecords_numbered]
  exact takes_termRecords _ _

/-- Records left out that have rows are not among the ones without. -/
theorem absent_filter {α : Type} {db : Database} (hsound : db.Sound) (hspec : spec ∈ TableSpec.all)
    {items : List α} {recordOf : α → Record} {keep : α → Bool}
    (htakes : ∀ record ∈ items.map recordOf, spec.Takes record)
    (hdropped : ∀ item ∈ items, keep item = false → ∃ id, db.Has spec id (recordOf item)) :
    db.absent spec ((items.filter keep).map recordOf).eraseDups =
      db.absent spec (items.map recordOf).eraseDups := by
  unfold Database.absent
  rw [filter_eraseDups, filter_eraseDups, List.filter_map, List.filter_map, List.filter_filter]
  congr 2
  refine List.filter_congr fun item hitem => ?_
  cases hkeep : keep item with
  | true => exact Bool.and_true _
  | false =>
      obtain ⟨id, hid⟩ := hdropped item hitem hkeep
      have hsome : ¬ (db.lookUp spec (recordOf item)).isNone = true := fun hnone =>
        (hsound.isNone_lookUp_iff hspec (htakes _ (List.mem_map_of_mem hitem))).1 hnone id hid
      rw [Bool.and_false]
      exact (Bool.eq_false_iff.2 hsome).symm

section Levels

variable {s : Seeker} {terms : List (Term × Int)} {start first second last met : Databases}

/-- For fewer items the same is to be supplied, if the items left out have their rows; stated for
records that are read off items, since the levels read theirs off terms. -/
theorem Supplies.fewer {α : Type} {items : List α} {recordOf : α → Record} {keep : α → Bool}
    (h : Supplies spec (items.map recordOf).eraseDups before middle) (hsound : before.primary.Sound)
    (hspec : spec ∈ TableSpec.all) (htakes : ∀ record ∈ items.map recordOf, spec.Takes record)
    (hdropped : ∀ item ∈ items, keep item = false →
      ∃ id, before.primary.Has spec id (recordOf item)) :
    Supplies spec ((items.filter keep).map recordOf).eraseDups before middle := by
  refine h.of_subset (fun record hmem => ?_) (absent_filter hsound hspec htakes hdropped)
  obtain ⟨item, hitem, rfl⟩ := List.mem_map.1 (List.mem_eraseDups.1 hmem)
  exact List.mem_eraseDups.2 (List.mem_map_of_mem (List.mem_filter.1 hitem).1)

/-- Texts that are supplied have their rows. -/
theorem Supplies.exists_text (h : Supplies .texts (textRecords terms).eraseDups start first)
    (hsound : first.primary.Sound) {t : Term × Int} (ht : t ∈ terms) :
    ∃ textId, first.primary.Has .texts textId [.text t.1.text] ∧
      languageRecord first.primary t = [.integer textId, .text t.1.language] := by
  have hrecord : [Cell.text t.1.text] ∈ (textRecords terms).eraseDups :=
    List.mem_eraseDups.2 (List.mem_map_of_mem ht)
  obtain ⟨textId, htext⟩ := h.has _ hrecord
  exact ⟨textId, htext, languageRecord_of_has hsound htext⟩

/-- Texts in their languages that are supplied have their rows. -/
theorem Supplies.exists_middle
    (h : Supplies .textsInLanguage (terms.map (languageRecord first.primary)).eraseDups first
      second) (hsound : second.primary.Sound) {t : Term × Int} (ht : t ∈ terms) :
    ∃ middleId, second.primary.Has .textsInLanguage middleId (languageRecord first.primary t) ∧
      termRecord first.primary second.primary t = [.integer middleId, .integer t.2] := by
  have hrecord : languageRecord first.primary t ∈
      (terms.map (languageRecord first.primary)).eraseDups :=
    List.mem_eraseDups.2 (List.mem_map_of_mem ht)
  obtain ⟨middleId, hmiddle⟩ := h.has _ hrecord
  exact ⟨middleId, hmiddle, termRecord_of_has hsound hmiddle⟩

namespace Climbs

variable (h : Climbs terms start first second last)

include h

/-- Each level keeps the primary sound and its rows in place, and leaves the replica alone. -/
theorem onward (hsound : start.primary.Sound) :
    start.Onward first ∧ first.Onward second ∧ second.Onward last := by
  have hfirst := h.texts.onward TableSpec.mem_all_texts
    (takes_eraseDups (takes_textRecords terms)) hsound
  have hsecond := h.inLanguage.onward TableSpec.mem_all_textsInLanguage
    (takes_eraseDups (takes_map_languageRecord _ terms)) hfirst.sound
  have hlast := h.terms.onward TableSpec.mem_all_termsInLanguage
    (takes_eraseDups (takes_map_termRecord _ _ terms)) hsecond.sound
  exact ⟨hfirst, hsecond, hlast⟩

theorem exists_text (hsound : start.primary.Sound) {t : Term × Int} (ht : t ∈ terms) :
    ∃ textId, first.primary.Has .texts textId [.text t.1.text] ∧
      languageRecord first.primary t = [.integer textId, .text t.1.language] :=
  h.texts.exists_text (h.onward hsound).1.sound ht

theorem exists_middle (hsound : start.primary.Sound) {t : Term × Int} (ht : t ∈ terms) :
    ∃ middleId, second.primary.Has .textsInLanguage middleId (languageRecord first.primary t) ∧
      termRecord first.primary second.primary t = [.integer middleId, .integer t.2] :=
  h.inLanguage.exists_middle (h.onward hsound).2.1.sound ht

end Climbs

/-- For fewer terms the three levels make the same of the primary, if the terms left out have their
rows. -/
theorem Climbs.fewer {α : Type} {items : List α} {typed : α → Term × Int}
    (h : Climbs (items.map typed) start first second last) (hsound : start.primary.Sound)
    {keep : α → Bool} (hdropped : ∀ item ∈ items, keep item = false →
      ∃ id, start.primary.LeadsTo id (typed item).2 (typed item).1.language (typed item).1.text) :
    Climbs ((items.filter keep).map typed) start first second last := by
  obtain ⟨hfirst, hsecond, -⟩ := h.onward hsound
  have honward := hfirst.trans hsecond
  have htexts := h.texts
  have hinLanguage := h.inLanguage
  have hterms := h.terms
  have htakesTexts := takes_textRecords (items.map typed)
  have htakesLanguage := takes_map_languageRecord first.primary (items.map typed)
  have htakesTerms := takes_map_termRecord first.primary second.primary (items.map typed)
  unfold textRecords at htexts htakesTexts
  rw [List.map_map] at htexts hinLanguage hterms htakesTexts htakesLanguage htakesTerms
  -- the rows of a term left out are found on each level
  have hmiddle : ∀ item ∈ items, keep item = false → ∃ middleId id,
      start.primary.Has .textsInLanguage middleId (languageRecord first.primary (typed item)) ∧
      start.primary.Has .termsInLanguage id [.integer middleId, .integer (typed item).2] := by
    intro item hitem hkeep
    obtain ⟨id, middleId, textId, hterm, hmiddle, htext⟩ := hdropped item hitem hkeep
    obtain ⟨textId', htext', heq⟩ := h.exists_text hsound (List.mem_map_of_mem hitem)
    obtain rfl := hfirst.sound.has_unique TableSpec.mem_all_texts htext'
      (hfirst.grows.has TableSpec.mem_all_texts htext)
    rw [heq]
    exact ⟨middleId, id, hmiddle, hterm⟩
  refine ⟨?_, ?_, ?_⟩
  · unfold textRecords
    rw [List.map_map]
    refine htexts.fewer hsound TableSpec.mem_all_texts htakesTexts fun item hitem hkeep => ?_
    obtain ⟨_, _, textId, -, -, htext⟩ := hdropped item hitem hkeep
    exact ⟨textId, htext⟩
  · rw [List.map_map]
    refine hinLanguage.fewer hfirst.sound TableSpec.mem_all_textsInLanguage htakesLanguage
      fun item hitem hkeep => ?_
    obtain ⟨middleId, _, hhas, -⟩ := hmiddle item hitem hkeep
    exact ⟨middleId, hfirst.grows.has TableSpec.mem_all_textsInLanguage hhas⟩
  · rw [List.map_map]
    refine hterms.fewer hsecond.sound TableSpec.mem_all_termsInLanguage htakesTerms
      fun item hitem hkeep => ?_
    obtain ⟨middleId, id, hhas, hterm⟩ := hmiddle item hitem hkeep
    obtain ⟨middleId', hhas', heq⟩ := h.exists_middle hsound (List.mem_map_of_mem hitem)
    obtain rfl := hsecond.sound.has_unique TableSpec.mem_all_textsInLanguage hhas'
      (honward.grows.has TableSpec.mem_all_textsInLanguage hhas)
    refine ⟨id, ?_⟩
    show second.primary.Has _ id (termRecord first.primary second.primary (typed item))
    rw [heq]
    exact honward.grows.has TableSpec.mem_all_termsInLanguage hterm

/-- After the three levels the row found for a term leads through the texts in their languages to
its text: the links that were made one level at a time are still there at the end. -/
theorem Climbs.leadsTo (h : Climbs terms start first second last) (hsound : start.primary.Sound)
    {t : Term × Int} (ht : t ∈ terms) :
    last.primary.LeadsTo ((last.primary.lookUp .termsInLanguage
      (termRecord first.primary second.primary t)).getD 0) t.2 t.1.language t.1.text := by
  obtain ⟨-, hsecond, hlast⟩ := h.onward hsound
  obtain ⟨textId, htext, hlanguageRecord⟩ := h.exists_text hsound ht
  obtain ⟨middleId, hmiddle, htermRecord⟩ := h.exists_middle hsound ht
  obtain ⟨id, hid⟩ := h.terms.has _ (List.mem_eraseDups.2 (List.mem_map_of_mem ht))
  rw [(hlast.sound.lookUp_eq_some_iff TableSpec.mem_all_termsInLanguage
    (takes_map_termRecord _ _ terms _ (List.mem_map_of_mem ht))).2 hid]
  rw [htermRecord] at hid
  rw [hlanguageRecord] at hmiddle
  exact ⟨middleId, textId, hid, hlast.grows.has TableSpec.mem_all_textsInLanguage hmiddle,
    (hsecond.trans hlast).grows.has TableSpec.mem_all_texts htext⟩

section Run

variable (hreplica : ∀ read ∈ s.replica, start.Follows read) (hprimary : s.primary = .primary)
  (hattempts : 1 ≤ s.attempts) (hsound : start.primary.Sound)

include hreplica hprimary hattempts hsound

/-- What is supplied on three levels, the levels go through with. -/
theorem Climbs.exists_run (h : Climbs terms start first second last) :
    ∃ ids, (acquireTermIds s terms).run Databases.handler start = (.ok ids, last) := by
  obtain ⟨hfirst, hsecond, -⟩ := h.onward hsound
  have htexts := (run_acquireIds_iff hreplica hprimary TableSpec.mem_all_texts
    (takes_textRecords terms) hsound hattempts).2 ⟨h.texts, rfl⟩
  have hinLanguage := (run_acquireIds_iff (fun read hread => (hreplica read hread).onward hfirst)
    hprimary TableSpec.mem_all_textsInLanguage (takes_map_languageRecord _ terms) hfirst.sound
    hattempts).2 ⟨h.inLanguage, rfl⟩
  have hfound := (run_acquireIds_iff
    (fun read hread => (hreplica read hread).onward (hfirst.trans hsecond)) hprimary
    TableSpec.mem_all_termsInLanguage (takes_map_termRecord _ _ terms) hsecond.sound
    hattempts).2 ⟨h.terms, rfl⟩
  -- each level reads its records off the ids of the level before; rewritten this way round, the
  -- records are the ones that the levels ask for
  rw [← languageRecords_numbered] at hinLanguage
  rw [← termRecords_numbered, ← languageRecords_numbered] at hfound
  rw [acquireTermIds_eq]
  exact ⟨_, Dialog.run_bind_eq_ok_iff.2 ⟨_, _, htexts, Dialog.run_bind_eq_ok_iff.2
    ⟨_, _, hinLanguage, Dialog.run_bind_eq_ok_iff.2 ⟨_, _, hfound, rfl⟩⟩⟩⟩

/-- Three levels that go through supply their records one level after the other, give the ids of
the rows of the last one, and pass through the states between the levels only. -/
theorem climbs_of_run {ids : List Int}
    (hrun : (acquireTermIds s terms).run Databases.handler start = (.ok ids, last)) :
    ∃ first second, Climbs terms start first second last ∧
      ids = (terms.map fun t => (last.primary.lookUp .termsInLanguage
        (termRecord first.primary second.primary t)).getD 0) ∧
      ∀ met, (acquireTermIds s terms).Passes start met →
        met = start ∨ met = first ∨ met = second ∨ met = last := by
  rw [acquireTermIds_eq] at hrun ⊢
  obtain ⟨texts, first, htexts, hrun⟩ := Dialog.run_bind_eq_ok_iff.1 hrun
  obtain ⟨inLanguage, second, hinLanguage, hrun⟩ := Dialog.run_bind_eq_ok_iff.1 hrun
  obtain ⟨found, last', hfound, hrun⟩ := Dialog.run_bind_eq_ok_iff.1 hrun
  obtain ⟨hids, rfl⟩ := Prod.mk.inj hrun
  have htakes := takes_textRecords terms
  obtain ⟨hfirst, rfl⟩ := (run_acquireIds_iff hreplica hprimary TableSpec.mem_all_texts htakes
    hsound hattempts).1 htexts
  have honward₁ := hfirst.onward TableSpec.mem_all_texts (takes_eraseDups htakes) hsound
  have hreplica₁ := fun read hread => (hreplica read hread).onward honward₁
  rw [languageRecords_numbered] at hinLanguage
  have htakes₁ := takes_map_languageRecord first.primary terms
  obtain ⟨hsecond, rfl⟩ := (run_acquireIds_iff hreplica₁ hprimary
    TableSpec.mem_all_textsInLanguage htakes₁ honward₁.sound hattempts).1 hinLanguage
  have honward₂ := hsecond.onward TableSpec.mem_all_textsInLanguage (takes_eraseDups htakes₁)
    honward₁.sound
  have hreplica₂ := fun read hread => (hreplica₁ read hread).onward honward₂
  rw [termRecords_numbered] at hfound
  have htakes₂ := takes_map_termRecord first.primary second.primary terms
  obtain ⟨hlast, rfl⟩ := (run_acquireIds_iff hreplica₂ hprimary
    TableSpec.mem_all_termsInLanguage htakes₂ honward₂.sound hattempts).1 hfound
  refine ⟨first, second, ⟨hfirst, hsecond, hlast⟩, ?_, fun met hmet => ?_⟩
  · obtain rfl := Except.ok.inj hids
    unfold numbered
    rw [List.map_map, List.map_map]
    rfl
  -- each level passes through what the one before leaves, and through what it leaves itself
  rcases hmet.of_bind_of_run htexts with hmet | hmet
  · rcases passes_acquireIds hreplica hprimary TableSpec.mem_all_texts htakes hsound htexts hmet
      with rfl | rfl
    · exact Or.inl rfl
    · exact Or.inr (Or.inl rfl)
  rw [languageRecords_numbered] at hmet
  rcases hmet.of_bind_of_run hinLanguage with hmet | hmet
  · rcases passes_acquireIds hreplica₁ hprimary TableSpec.mem_all_textsInLanguage htakes₁
      honward₁.sound hinLanguage hmet with rfl | rfl
    · exact Or.inr (Or.inl rfl)
    · exact Or.inr (Or.inr (Or.inl rfl))
  rw [termRecords_numbered] at hmet
  rcases hmet.of_bind_of_run hfound with hmet | hmet
  · rcases passes_acquireIds hreplica₂ hprimary TableSpec.mem_all_termsInLanguage htakes₂
      honward₂.sound hfound hmet with rfl | rfl
    · exact Or.inr (Or.inr (Or.inl rfl))
    · exact Or.inr (Or.inr (Or.inr rfl))
  · exact Or.inr (Or.inr (Or.inr hmet))

end Run

/-- Three levels repeat. -/
theorem repeats_acquireTermIds (hprimary : s.primary = .primary) (hattempts : 1 ≤ s.attempts)
    (hsound : start.primary.Sound) {ids : List Int}
    (hrun : (acquireTermIds s terms).run Databases.handler start = (.ok ids, last)) :
    (acquireTermIds s terms).Repeats start ids last := by
  rw [acquireTermIds_eq] at hrun ⊢
  obtain ⟨texts, first, htexts, hrun⟩ := Dialog.run_bind_eq_ok_iff.1 hrun
  obtain ⟨inLanguage, second, hinLanguage, hrun⟩ := Dialog.run_bind_eq_ok_iff.1 hrun
  obtain ⟨found, last', hfound, hrun⟩ := Dialog.run_bind_eq_ok_iff.1 hrun
  obtain ⟨hids, rfl⟩ := Prod.mk.inj hrun
  obtain rfl := Except.ok.inj hids
  have hpermits := permits_properCall hprimary
  have hasksTexts := asks_acquireIds (hpermits _ TableSpec.mem_all_texts) (takes_textRecords terms)
  have hasksInLanguage := asks_acquireIds (hpermits _ TableSpec.mem_all_textsInLanguage)
    (takes_languageRecords terms texts)
  have hasksFound := fun inLanguage => asks_acquireIds
    (hpermits _ TableSpec.mem_all_termsInLanguage) (takes_termRecords terms inLanguage)
  have hfirst := hasksTexts.proper.onward_of_run hsound htexts
  have hsecond := hasksInLanguage.proper.onward_of_run hfirst.sound hinLanguage
  have hlast := (hasksFound inLanguage).proper.onward_of_run hsecond.sound hfound
  -- broken off on a level, the levels before it repeat and lead back to where it was broken off
  refine (repeats_acquireIds hprimary hattempts TableSpec.mem_all_texts (takes_textRecords terms)
    hsound htexts).bind (hasksInLanguage.bind fun inLanguage => (hasksFound inLanguage).bind
      fun _ => trivial) hfirst.sound ?_
  refine (repeats_acquireIds hprimary hattempts TableSpec.mem_all_textsInLanguage
    (takes_languageRecords terms texts) hfirst.sound hinLanguage).bind
    ((hasksFound inLanguage).bind fun _ => trivial) hsecond.sound ?_
  exact (repeats_acquireIds hprimary hattempts TableSpec.mem_all_termsInLanguage
    (takes_termRecords terms inLanguage) hsecond.sound hfound).bind trivial hlast.sound
    (Dialog.repeats_done _ last')

end Levels

end Acquisition

end TermStore
