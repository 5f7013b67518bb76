import TermStore.Proofs.Faults

/-!
# The search on the primary

What a search for ids makes of the primary depends on the records that no row holds yet, and on
nothing else: these are inserted, together and in their order (`Supplies`). A search that goes
through has found the rows of its records (`Sought`), and passes through its beginning and its end
only. Once the records are supplied nothing is to be done any more; and for fewer records the same
is to be done, as long as the ones left out have rows.

The search itself is a loop of look-ups and inserts with a limit on its attempts. In a sound primary
that nobody else writes to it never needs a second attempt: an insert that goes through leaves a
matching row for each record, and a row that matches a record there is found. The loop is opened one
turn at a time (`run_seekOnPrimary`, `passes_seekOnPrimary`), and all that comes after this module
speaks of what it supplies.
-/

namespace TermStore

open Storage (TableSpec Record RecordIds Database)

/-! ### Looking up one record -/

namespace Storage.Database

variable {db db' : Database} {spec : TableSpec} {record : Record} {records : List Record}

/-- The id of the row that holds a record. -/
def lookUp (db : Database) (spec : TableSpec) (record : Record) : Option Int :=
  (db.find spec [record]).toOption.bind fun found => found.get? record

/-- Those of some records that no row holds. -/
def absent (db : Database) (spec : TableSpec) (records : List Record) : List Record :=
  records.filter fun record => (db.lookUp spec record).isNone

namespace Sound

variable (h : db.Sound) (hspec : spec ∈ TableSpec.all)

include h hspec

/-- A look-up of one record finds an id exactly when the row with that id holds the record. All that
follows is said of rows, and read off look-ups here. -/
theorem lookUp_eq_some_iff (htakes : spec.Takes record) {id : Int} :
    db.lookUp spec record = some id ↔ db.Has spec id record := by
  have hsingle : ∀ other ∈ [record], spec.Takes other := by
    intro other hother
    rw [List.mem_singleton.1 hother]
    exact htakes
  unfold lookUp
  constructor
  · intro hget
    cases hfind : db.find spec [record] with
    | error fault =>
        rw [hfind] at hget
        cases hget
    | ok found =>
        rw [hfind] at hget
        exact ((h.find_iff hspec hsingle hfind).1 hget).2
  · intro hhas
    obtain ⟨found, hfind⟩ := (h.find_ok_iff hspec hsingle).2 fun other hother => by
      rw [List.mem_singleton.1 hother]
      exact h.exact_of_has hspec htakes hhas
    rw [hfind]
    exact (h.find_iff hspec hsingle hfind).2 ⟨List.mem_singleton_self record, hhas⟩

/-- It finds nothing exactly when no row holds the record. That covers a look-up that fails: the row
it fails on matches the record and does not hold it. -/
theorem isNone_lookUp_iff (htakes : spec.Takes record) :
    (db.lookUp spec record).isNone = true ↔ ∀ id, ¬ db.Has spec id record := by
  rw [Option.isNone_iff_eq_none, Option.eq_none_iff_forall_ne_some]
  exact forall_congr' fun id => not_congr (h.lookUp_eq_some_iff hspec htakes)

/-- A look-up of several records finds of each what a look-up of it alone does. -/
theorem get?_of_find (htakes : ∀ record ∈ records, spec.Takes record) {found : RecordIds}
    (hfind : db.find spec records = .ok found) :
    found.get? record = if record ∈ records then db.lookUp spec record else none := by
  ext id
  rw [h.find_iff hspec htakes hfind]
  by_cases hrecord : record ∈ records
  · rw [if_pos hrecord, h.lookUp_eq_some_iff hspec (htakes record hrecord)]
    exact and_iff_right hrecord
  · rw [if_neg hrecord]
    simp [hrecord]

/-- What a look-up of several records leaves missing are those that no row holds, in the order in
which they were asked for. -/
theorem missing_of_find (htakes : ∀ record ∈ records, spec.Takes record) {found : RecordIds}
    (hfind : db.find spec records = .ok found) :
    Acquisition.missing records found = db.absent spec records := by
  refine List.filter_congr fun record hrecord => ?_
  unfold SortedMap.contains
  rw [h.get?_of_find hspec htakes hfind, if_pos hrecord]
  cases db.lookUp spec record <;> rfl

/-- A record that is asked for and not absent has a row. -/
theorem exists_has_of_not_mem_absent (htakes : spec.Takes record) (hrecord : record ∈ records)
    (hpresent : record ∉ db.absent spec records) : ∃ id, db.Has spec id record := by
  have hsome : ¬ (db.lookUp spec record).isNone = true :=
    fun hnone => hpresent (List.mem_filter.2 ⟨hrecord, hnone⟩)
  rw [h.isNone_lookUp_iff hspec htakes, not_forall_not] at hsome
  exact hsome

/-- None of the records is absent exactly when each of them has a row. -/
theorem absent_eq_nil_iff (htakes : ∀ record ∈ records, spec.Takes record) :
    db.absent spec records = [] ↔ ∀ record ∈ records, ∃ id, db.Has spec id record := by
  unfold absent
  rw [List.filter_eq_nil_iff]
  refine forall₂_congr fun record hrecord => ?_
  rw [h.isNone_lookUp_iff hspec (htakes record hrecord)]
  simp only [not_forall, not_not]

/-- What is found stays found as rows are added, and under the same id. -/
theorem lookUp_grows (htakes : spec.Takes record) (h' : db'.Sound) (hgrows : db.Grows db')
    {id : Int} (hlookUp : db.lookUp spec record = some id) : db'.lookUp spec record = some id := by
  rw [h.lookUp_eq_some_iff hspec htakes] at hlookUp
  exact (h'.lookUp_eq_some_iff hspec htakes).2 (hgrows.has hspec hlookUp)

end Sound

end Storage.Database

/-! ### What a search makes of the primary -/

namespace Acquisition

variable {spec : TableSpec} {needed records : List Record} {found after : RecordIds}
  {before middle later : Databases} {left made : Nat}

/-- The records that are needed and have no row get one. -/
structure Supplies (spec : TableSpec) (needed : List Record) (before after : Databases) : Prop where
  exact : ∀ record ∈ needed, before.primary.Exact spec record
  change : (before.primary.absent spec needed = [] ∧ after = before) ∨
    (before.primary.absent spec needed ≠ [] ∧ ∃ count db,
      before.primary.insertIgnoring spec (before.primary.absent spec needed) = .ok (count, db) ∧
      after = { before with primary := db })
  has : ∀ record ∈ needed, ∃ id, after.primary.Has spec id record

/-- What is found when a search is through: the rows of the needed records, and what was found
before. -/
def Sought (spec : TableSpec) (needed : List Record) (found : RecordIds) (db : Database)
    (after : RecordIds) : Prop :=
  ∀ record, after.get? record =
    if record ∈ needed then db.lookUp spec record else found.get? record

/-- The absent ones are among the records, so the table takes them. -/
theorem takes_absent (db : Database) (htakes : ∀ record ∈ needed, spec.Takes record) :
    ∀ record ∈ db.absent spec needed, spec.Takes record :=
  fun record hmem => htakes record (List.mem_filter.1 hmem).1

/-- An insert that goes through keeps the primary sound and its rows in place, and leaves the
replica alone. -/
theorem onward_insert (hspec : spec ∈ TableSpec.all) (htakes : ∀ record ∈ needed, spec.Takes record)
    (hsound : before.primary.Sound) {count : Nat} {db : Database}
    (hinsert : before.primary.insertIgnoring spec needed = .ok (count, db)) :
    before.Onward { before with primary := db } := by
  have hgains := hsound.gains hspec htakes hinsert
  exact ⟨hgains.sound hsound hspec, hgains.grows hsound hspec, rfl⟩

/-- So does supplying records, which is one insert or none. -/
theorem Supplies.onward (h : Supplies spec needed before middle) (hspec : spec ∈ TableSpec.all)
    (htakes : ∀ record ∈ needed, spec.Takes record) (hsound : before.primary.Sound) :
    before.Onward middle := by
  rcases h.change with ⟨-, rfl⟩ | ⟨-, count, db, hinsert, rfl⟩
  · exact .refl hsound
  · exact onward_insert hspec (takes_absent _ htakes) hsound hinsert

/-- Where all records have rows nothing is to be supplied. -/
theorem supplies_self (hspec : spec ∈ TableSpec.all)
    (htakes : ∀ record ∈ needed, spec.Takes record) (hsound : before.primary.Sound)
    (hhas : ∀ record ∈ needed, ∃ id, before.primary.Has spec id record) :
    Supplies spec needed before before where
  exact record hrecord := by
    obtain ⟨id, hid⟩ := hhas record hrecord
    exact hsound.exact_of_has hspec (htakes record hrecord) hid
  change := Or.inl ⟨(hsound.absent_eq_nil_iff hspec htakes).2 hhas, rfl⟩
  has := hhas

/-- Once supplied, always supplied. -/
theorem Supplies.settled (h : Supplies spec needed before middle) (hspec : spec ∈ TableSpec.all)
    (htakes : ∀ record ∈ needed, spec.Takes record) (hlater : middle.Onward later) :
    Supplies spec needed later later := by
  refine supplies_self hspec htakes hlater.sound fun record hrecord => ?_
  obtain ⟨id, hid⟩ := h.has record hrecord
  exact ⟨id, hlater.grows.has hspec hid⟩

/-- For fewer records the same is to be done, if the ones left out have rows. -/
theorem Supplies.of_subset (h : Supplies spec needed before middle) {fewer : List Record}
    (hsubset : ∀ record ∈ fewer, record ∈ needed)
    (habsent : before.primary.absent spec fewer = before.primary.absent spec needed) :
    Supplies spec fewer before middle where
  exact record hrecord := h.exact record (hsubset record hrecord)
  change := by
    rw [habsent]
    exact h.change
  has record hrecord := h.has record (hsubset record hrecord)

/-! ### The search on the primary -/

/-- One turn of the search: a look-up, and for what it does not find, an insert and the next turn.
The attempts count the inserts that are left; a search that has none left still looks up once. -/
theorem run_seekOnPrimary (hneeded : needed.isEmpty = false) (left made : Nat) (found : RecordIds)
    (before : Databases) :
    (seekOnPrimary .primary spec left made needed found).run Databases.handler before =
      match before.primary.find spec needed with
      | .error fault => (.error (.storage fault), before)
      | .ok present =>
        if (missing needed present).isEmpty then (.ok (found.union present), before)
        else
          match left with
          | 0 => (.error (.exhausted spec.name (missing needed present).length made), before)
          | left + 1 =>
            match before.primary.insertIgnoring spec (missing needed present) with
            | .error fault => (.error (.storage fault), before)
            | .ok (_, db) =>
              (seekOnPrimary .primary spec left (made + 1) (missing needed present)
                (found.union present)).run Databases.handler { before with primary := db } := by
  conv_lhs => unfold seekOnPrimary
  rw [hneeded]
  show Dialog.run _ (Dialog.ask _ _) _ = _
  simp only [Dialog.run, Databases.handler, Databases.reply, Databases.database]
  cases before.primary.find spec needed with
  | error fault => rfl
  | ok present =>
      show Dialog.run _ (ite _ _ _) _ = _
      simp only
      by_cases hmissing : (missing needed present).isEmpty = true
      · rw [if_pos hmissing, if_pos hmissing]
        rfl
      · rw [if_neg hmissing, if_neg hmissing]
        cases left with
        | zero => rfl
        | succ left =>
            show Dialog.run _ (Dialog.ask _ _) _ = _
            simp only [Dialog.run, Databases.reply, Databases.database]
            cases before.primary.insertIgnoring spec (missing needed present) with
            | error fault => rfl
            | ok result =>
                simp only [Databases.setDatabase]
                rfl

/-- A search passes through its beginning, and through what follows an insert. -/
theorem passes_seekOnPrimary {met : Databases}
    (h : (seekOnPrimary .primary spec left made needed found).Passes before met) :
    met = before ∨ ∃ present count db further,
      before.primary.find spec needed = .ok present ∧
      (missing needed present).isEmpty = false ∧ left = further + 1 ∧
      before.primary.insertIgnoring spec (missing needed present) = .ok (count, db) ∧
      (seekOnPrimary .primary spec further (made + 1) (missing needed present)
        (found.union present)).Passes { before with primary := db } met := by
  unfold seekOnPrimary at h
  split at h
  · exact Or.inl h
  · rcases Dialog.Passes.of_find h with hsame | ⟨present, hfind, hlater⟩
    · exact Or.inl hsame
    · replace hlater : Dialog.Passes (ite _ _ _) before met := hlater
      split at hlater
      · exact Or.inl hlater
      · next hmissing =>
        -- without an attempt left the search ends where it began
        cases left with
        | zero => exact Or.inl hlater
        | succ left =>
            rcases Dialog.Passes.of_insert hlater with hsame | ⟨count, db, hinsert, hrest⟩
            · exact Or.inl hsame
            · exact Or.inr ⟨present, count, db, left, hfind, by simpa using hmissing, rfl, hinsert,
                hrest⟩

/-- A search for nothing finds what was found before. -/
theorem sought_nil (db : Database) : Sought spec [] found db found :=
  fun _ => (if_neg List.not_mem_nil).symm

section Search

variable (hspec : spec ∈ TableSpec.all)

include hspec

/-- What a look-up on the primary finds, and what was found before. -/
theorem get?_union_of_find {db : Database} (hsound : db.Sound)
    (htakes : ∀ record ∈ needed, spec.Takes record) {present : RecordIds}
    (hfind : db.find spec needed = .ok present) (found : RecordIds) (record : Record) :
    (found.union present).get? record =
      if record ∈ needed ∧ record ∉ db.absent spec needed then db.lookUp spec record
      else found.get? record := by
  rw [SortedMap.get?_union, hsound.get?_of_find hspec htakes hfind]
  by_cases hrecord : record ∈ needed
  · rw [if_pos hrecord]
    -- a needed record is absent exactly when its look-up finds nothing
    cases hlookUp : db.lookUp spec record with
    | none =>
        have habsent : record ∈ db.absent spec needed :=
          List.mem_filter.2 ⟨hrecord, by rw [hlookUp]; rfl⟩
        rw [if_neg fun h => h.2 habsent]
        rfl
    | some id =>
        have hpresent : record ∉ db.absent spec needed := by
          intro hmem
          have hnone := (List.mem_filter.1 hmem).2
          rw [hlookUp] at hnone
          cases hnone
        rw [if_pos ⟨hrecord, hpresent⟩]
        rfl
  · rw [if_neg hrecord, if_neg fun h => hrecord h.1]
    rfl

/-- If no record is absent the look-up has found them all, and what was found before stays as it
was. -/
theorem sought_union {db : Database} (hsound : db.Sound)
    (htakes : ∀ record ∈ needed, spec.Takes record) {present : RecordIds}
    (hfind : db.find spec needed = .ok present) (hnone : db.absent spec needed = []) :
    Sought spec needed found db (found.union present) := by
  intro record
  rw [get?_union_of_find hspec hsound htakes hfind found, hnone]
  simp

/-- A row that matches a record in a sound table is its row, and is found. -/
theorem missing_eq_nil_of_matches {db : Database} (hsound : db.Sound)
    (htakes : ∀ record ∈ needed, spec.Takes record)
    (hmatches : ∀ record ∈ needed, db.Matches spec record) {present : RecordIds}
    (hfind : db.find spec needed = .ok present) : missing needed present = [] := by
  refine List.filter_eq_nil_iff.2 fun record hrecord => ?_
  obtain ⟨id, hget⟩ := hsound.exists_of_matches hspec htakes hfind hrecord
    (hmatches record hrecord)
  simpa using SortedMap.contains_iff.2 ⟨id, hget⟩

/-- Where some row matches each record, a search finds all of them at once. -/
theorem sought_of_matches (htakes : ∀ record ∈ needed, spec.Takes record)
    (hsound : before.primary.Sound)
    (hmatches : ∀ record ∈ needed, before.primary.Matches spec record)
    (hrun : (seekOnPrimary .primary spec left made needed found).run Databases.handler before =
      (.ok after, middle)) :
    middle = before ∧ (∀ record ∈ needed, ∃ id, before.primary.Has spec id record) ∧
      Sought spec needed found before.primary after ∧
      ∀ met, (seekOnPrimary .primary spec left made needed found).Passes before met →
        met = before := by
  by_cases hneeded : needed.isEmpty = true
  · obtain rfl := List.isEmpty_iff.1 hneeded
    unfold seekOnPrimary at hrun ⊢
    obtain ⟨hafter, rfl⟩ := Prod.mk.inj hrun
    obtain rfl := Except.ok.inj hafter
    exact ⟨rfl, fun _ hmem => absurd hmem List.not_mem_nil, sought_nil _, fun met hmet => hmet⟩
  · have hall : ∀ {present}, before.primary.find spec needed = .ok present →
        missing needed present = [] := missing_eq_nil_of_matches hspec hsound htakes hmatches
    rw [run_seekOnPrimary (by simpa using hneeded)] at hrun
    cases hfind : before.primary.find spec needed with
    | error fault =>
        rw [hfind] at hrun
        cases hrun
    | ok present =>
        have hnone := hall hfind
        simp only [hfind, hnone, List.isEmpty_nil, if_true, Prod.mk.injEq,
          Except.ok.injEq] at hrun
        obtain ⟨rfl, rfl⟩ := hrun
        have habsent := (hsound.missing_of_find hspec htakes hfind).symm.trans hnone
        refine ⟨rfl, (hsound.absent_eq_nil_iff hspec htakes).1 habsent,
          sought_union hspec hsound htakes hfind habsent, fun met hmet => ?_⟩
        rcases passes_seekOnPrimary hmet with hsame | ⟨present', _, _, _, hfind', hsome, -⟩
        · exact hsame
        · rw [hall hfind'] at hsome
          cases hsome

section Inserted

variable {db : Database} {count : Nat} (htakes : ∀ record ∈ needed, spec.Takes record)
  (hsound : before.primary.Sound)
  (hinsert : before.primary.insertIgnoring spec (before.primary.absent spec needed) =
    .ok (count, db))

include htakes hsound hinsert

/-- Needed records without rows that have got theirs, and the others, which had one. -/
theorem supplies_of_insert (hexact : ∀ record ∈ needed, before.primary.Exact spec record)
    (hsome : before.primary.absent spec needed ≠ [])
    (hhas : ∀ record ∈ before.primary.absent spec needed, ∃ id, db.Has spec id record) :
    Supplies spec needed before { before with primary := db } where
  exact := hexact
  change := Or.inr ⟨hsome, count, db, hinsert, rfl⟩
  has record hrecord := by
    by_cases habsent : record ∈ before.primary.absent spec needed
    · exact hhas record habsent
    · obtain ⟨id, hid⟩ := hsound.exists_has_of_not_mem_absent hspec (htakes record hrecord) hrecord
        habsent
      have honward := onward_insert hspec (takes_absent _ htakes) hsound hinsert
      exact ⟨id, honward.grows.has hspec hid⟩

/-- What was found before an insert is found in the same way after it. -/
theorem sought_of_insert {present : RecordIds}
    (hfind : before.primary.find spec needed = .ok present)
    (h : Sought spec (before.primary.absent spec needed) (found.union present) db after) :
    Sought spec needed found db after := by
  intro record
  rw [h record]
  by_cases habsent : record ∈ before.primary.absent spec needed
  · rw [if_pos habsent, if_pos (List.mem_filter.1 habsent).1]
  rw [if_neg habsent, get?_union_of_find hspec hsound htakes hfind found record]
  by_cases hrecord : record ∈ needed
  · have htake := htakes record hrecord
    obtain ⟨id, hid⟩ := hsound.exists_has_of_not_mem_absent hspec htake hrecord habsent
    have hlookUp := (hsound.lookUp_eq_some_iff hspec htake).2 hid
    have honward := onward_insert hspec (takes_absent _ htakes) hsound hinsert
    rw [if_pos ⟨hrecord, habsent⟩, if_pos hrecord, hlookUp]
    exact (hsound.lookUp_grows hspec htake honward.sound honward.grows hlookUp).symm
  · rw [if_neg fun h => hrecord h.1, if_neg hrecord]

end Inserted

/-- A search that goes through has supplied the records, and passes through its beginning and its
end only. -/
theorem supplies_of_run (htakes : ∀ record ∈ needed, spec.Takes record)
    (hsound : before.primary.Sound)
    (hrun : (seekOnPrimary .primary spec left made needed found).run Databases.handler before =
      (.ok after, middle)) :
    Supplies spec needed before middle ∧ Sought spec needed found middle.primary after ∧
      ∀ met, (seekOnPrimary .primary spec left made needed found).Passes before met →
        met = before ∨ met = middle := by
  -- some records may match a row that does not hold them, so the split is on matching: where all
  -- match, one look-up ends the search, and otherwise there is something to insert
  by_cases hall : ∀ record ∈ needed, before.primary.Matches spec record
  · obtain ⟨rfl, hhas, hsought, hpasses⟩ := sought_of_matches hspec htakes hsound hall hrun
    exact ⟨supplies_self hspec htakes hsound hhas, hsought,
      fun met hmet => Or.inl (hpasses met hmet)⟩
  have hneeded : needed.isEmpty = false := by
    cases needed with
    | nil => exact absurd (fun _ hmem => absurd hmem List.not_mem_nil) hall
    | cons => rfl
  rw [run_seekOnPrimary hneeded] at hrun
  cases hfind : before.primary.find spec needed with
  | error fault =>
      rw [hfind] at hrun
      cases hrun
  | ok present =>
      have hmissing := hsound.missing_of_find hspec htakes hfind
      have hexact := (hsound.find_ok_iff hspec htakes).1 ⟨present, hfind⟩
      have hsome : ¬ (before.primary.absent spec needed).isEmpty = true := fun hnone =>
        hall fun record hrecord => by
          obtain ⟨id, hid⟩ := (hsound.absent_eq_nil_iff hspec htakes).1 (List.isEmpty_iff.1 hnone)
            record hrecord
          exact hsound.matches_of_has hspec (htakes record hrecord) hid
      simp only [hfind, hmissing, if_neg hsome] at hrun
      cases left with
      | zero => cases hrun
      | succ left =>
          cases hinsert : before.primary.insertIgnoring spec
            (before.primary.absent spec needed) with
          | error fault =>
              rw [hinsert] at hrun
              cases hrun
          | ok result =>
              obtain ⟨count, db⟩ := result
              simp only [hinsert] at hrun
              have htakes' := takes_absent before.primary htakes
              have hgains := hsound.gains hspec htakes' hinsert
              -- after the insert a row matches each record, so the next look-up is the last
              obtain ⟨rfl, hhas, hsought, hpasses⟩ := sought_of_matches hspec htakes'
                (onward_insert hspec htakes' hsound hinsert).sound
                (fun record => hgains.matched) hrun
              refine ⟨supplies_of_insert hspec htakes hsound hinsert hexact
                (by simpa using hsome) hhas,
                sought_of_insert hspec htakes hsound hinsert hfind hsought, fun met hmet => ?_⟩
              rcases passes_seekOnPrimary hmet with
                hsame | ⟨present', count', db', further, hfind', -, hleft, hinsert', hrest⟩
              · exact Or.inl hsame
              · obtain rfl := Except.ok.inj (hfind.symm.trans hfind')
                rw [hmissing] at hinsert' hrest
                obtain ⟨rfl, rfl⟩ := Prod.mk.inj (Except.ok.inj (hinsert.symm.trans hinsert'))
                obtain rfl := Nat.succ.inj hleft
                exact Or.inr (hpasses met hrest)

/-- Where all records have rows a search finds them, however many attempts it has. -/
theorem exists_run_of_has (htakes : ∀ record ∈ needed, spec.Takes record)
    (hsound : before.primary.Sound)
    (hhas : ∀ record ∈ needed, ∃ id, before.primary.Has spec id record) (left made : Nat)
    (found : RecordIds) :
    ∃ after, (seekOnPrimary .primary spec left made needed found).run Databases.handler before =
      (.ok after, before) := by
  by_cases hneeded : needed.isEmpty = true
  · unfold seekOnPrimary
    rw [hneeded]
    exact ⟨found, rfl⟩
  · have hsupplies := supplies_self hspec htakes hsound hhas
    obtain ⟨present, hfind⟩ := (hsound.find_ok_iff hspec htakes).2 hsupplies.exact
    have hnone : missing needed present = [] := by
      rw [hsound.missing_of_find hspec htakes hfind]
      exact (hsound.absent_eq_nil_iff hspec htakes).2 hhas
    rw [run_seekOnPrimary (by simpa using hneeded)]
    simp only [hfind, hnone, List.isEmpty_nil, if_true]
    exact ⟨_, rfl⟩

/-- A search goes through where the records can be supplied. -/
theorem exists_run_of_supplies (htakes : ∀ record ∈ needed, spec.Takes record)
    (hsound : before.primary.Sound) (h : Supplies spec needed before middle)
    (left made : Nat) (found : RecordIds) :
    ∃ after, (seekOnPrimary .primary spec (left + 1) made needed found).run Databases.handler
      before = (.ok after, middle) := by
  -- with nothing to supply the first look-up is the last; otherwise one insert is enough
  rcases h.change with ⟨hnone, rfl⟩ | ⟨hsome, count, db, hinsert, rfl⟩
  · exact exists_run_of_has hspec htakes hsound h.has _ _ _
  · obtain ⟨present, hfind⟩ := (hsound.find_ok_iff hspec htakes).2 h.exact
    have hneeded : needed.isEmpty = false := by
      cases needed with
      | nil => exact absurd rfl hsome
      | cons => rfl
    rw [run_seekOnPrimary hneeded]
    simp only [hfind, hsound.missing_of_find hspec htakes hfind, hinsert, List.isEmpty_iff, hsome,
      if_false]
    exact exists_run_of_has hspec (takes_absent _ htakes)
      (h.onward hspec htakes hsound).sound
      (fun record hmem => h.has record (List.mem_filter.1 hmem).1) _ _ _

end Search

end Acquisition

end TermStore
