import TermStore.Proofs.Levels

/-!
# What is left of a search that breaks off

A search on the primary inserts once, if at all, and wherever it ends the rows that it has added
hold records that it was looking for and that no row held before (`Database.AddsAmong`). This is so
whether it goes through or not, and of several searches one after the other as well.
-/

namespace TermStore

open Storage (TableSpec Table Record RecordIds Database)

/-! ### Rows that were wanted -/

namespace Storage

/-- A table keeps its rows, and each new row holds a wanted record that no row held. -/
structure Table.AddsAmong (spec : TableSpec) (wanted : Record → Prop) (t t' : Table) : Prop where
  kept : t.Extends t'
  new : ∀ id values, t'.rows.get? id = some values → t.rows.get? id = none →
    ∃ record, wanted record ∧ (∀ other, ¬ t.Has spec other record) ∧ t'.Has spec id record

theorem Table.AddsAmong.trans {spec : TableSpec} {wanted : Record → Prop} {t t' t'' : Table}
    (h : t.AddsAmong spec wanted t') (h' : t'.AddsAmong spec wanted t'') :
    t.AddsAmong spec wanted t'' where
  kept := h.kept.trans h'.kept
  new id values hget hnone := by
    cases hmiddle : t'.rows.get? id with
    | some held =>
        obtain ⟨record, hwanted, habsent, hhas⟩ := h.new id held hmiddle hnone
        exact ⟨record, hwanted, habsent, h'.kept.has hhas⟩
    | none =>
        obtain ⟨record, hwanted, habsent, hhas⟩ := h'.new id values hget hmiddle
        exact ⟨record, hwanted, fun other hother => habsent other (h.kept.has hother), hhas⟩

namespace Database

variable {db db' db'' : Database} {spec : TableSpec} {records : List Record}
  {wanted wanted' : TableSpec → Record → Prop}

/-- The four tables keep their rows, and each new row holds a record that was wanted in its table
and that no row held. -/
def AddsAmong (wanted : TableSpec → Record → Prop) (db db' : Database) : Prop :=
  ∀ spec ∈ TableSpec.all, ∃ t t', db.table spec.name = .ok t ∧ db'.table spec.name = .ok t' ∧
    t.AddsAmong spec (wanted spec) t'

theorem Sound.addsAmong_self (h : db.Sound) (wanted : TableSpec → Record → Prop) :
    db.AddsAmong wanted db := by
  intro spec hspec
  obtain ⟨t, htable, -⟩ := h spec hspec
  refine ⟨t, t, htable, htable, Table.Extends.refl t, fun id values hget hnone => ?_⟩
  rw [hnone] at hget
  cases hget

theorem AddsAmong.trans (h : db.AddsAmong wanted db') (h' : db'.AddsAmong wanted db'') :
    db.AddsAmong wanted db'' := by
  intro spec hspec
  obtain ⟨t, middle, htable, hmiddle, hfirst⟩ := h spec hspec
  obtain ⟨middle', t', hmiddle', htable', hsecond⟩ := h' spec hspec
  obtain rfl := Except.ok.inj (hmiddle.symm.trans hmiddle')
  exact ⟨t, t', htable, htable', hfirst.trans hsecond⟩

theorem AddsAmong.mono (h : db.AddsAmong wanted db')
    (hwanted : ∀ spec record, wanted spec record → wanted' spec record) :
    db.AddsAmong wanted' db' := by
  intro spec hspec
  obtain ⟨t, t', htable, htable', hkept, hnew⟩ := h spec hspec
  refine ⟨t, t', htable, htable', hkept, fun id values hget hnone => ?_⟩
  obtain ⟨record, hrecord, hrest⟩ := hnew id values hget hnone
  exact ⟨record, hwanted spec record hrecord, hrest⟩

/-- To insert records that no row holds is to add rows among them. -/
theorem Gains.addsAmong (h : db.Gains spec records db') (hsound : db.Sound)
    (hspec : spec ∈ TableSpec.all)
    (habsent : ∀ record ∈ records, ∀ other, ¬ db.Has spec other record) :
    db.AddsAmong (fun other record => other = spec ∧ record ∈ records) db' := by
  intro other hother
  obtain ⟨t, t', htable, htable', hgains⟩ := h.table
  by_cases hname : foldName other.name = foldName spec.name
  · obtain rfl := TableSpec.eq_of_foldName_eq hother hspec hname
    refine ⟨t, t', htable, htable', hgains.kept, fun id values hget hnone => ?_⟩
    rcases hgains.gained id values hget with hold | ⟨record, hrecord, hcells⟩
    · rw [hnone] at hold
      cases hold
    · exact ⟨record, ⟨rfl, hrecord⟩, fun own hown => habsent record hrecord own ⟨t, htable, hown⟩,
        values, hget, hcells⟩
  · obtain ⟨t₀, htable₀, -⟩ := hsound other hother
    refine ⟨t₀, t₀, htable₀, (h.others _ hname).trans htable₀, Table.Extends.refl t₀,
      fun id values hget hnone => ?_⟩
    rw [hnone] at hget
    cases hget

end Database

end Storage

/-! ### Searches -/

namespace Acquisition

variable {spec : TableSpec} {needed records : List Record} {found : RecordIds} {left made : Nat}
  {before met : Databases}

/-- Wherever a search on the primary ends, it has inserted the records that no row held, or
nothing. -/
theorem inserted_of_passes_seekOnPrimary (hspec : spec ∈ TableSpec.all)
    (htakes : ∀ record ∈ needed, spec.Takes record) (hsound : before.primary.Sound)
    (h : (seekOnPrimary .primary spec left made needed found).Passes before met) :
    met = before ∨ ∃ count db,
      before.primary.insertIgnoring spec (before.primary.absent spec needed) = .ok (count, db) ∧
      met = { before with primary := db } := by
  rcases passes_seekOnPrimary h with
    hsame | ⟨present, count, db, further, hfind, -, -, hinsert, hrest⟩
  · exact Or.inl hsame
  rw [hsound.missing_of_find hspec htakes hfind] at hinsert hrest
  have htakes' := takes_absent before.primary htakes
  have hgains := hsound.gains hspec htakes' hinsert
  rcases passes_seekOnPrimary hrest with hsame | ⟨present', _, _, _, hfind', hsome, -⟩
  · exact Or.inr ⟨count, db, hinsert, hsame⟩
  · -- a row matches each record now, so the second look-up is the last
    rw [missing_eq_nil_of_matches hspec (hgains.sound hsound hspec) htakes'
      (fun record => hgains.matched) hfind'] at hsome
    cases hsome

/-- Inserting the records that no row holds adds rows among them. -/
theorem addsAmong_insert (hspec : spec ∈ TableSpec.all)
    (htakes : ∀ record ∈ needed, spec.Takes record) (hsound : before.primary.Sound) {count : Nat}
    {db : Database} (hinsert : before.primary.insertIgnoring spec
      (before.primary.absent spec needed) = .ok (count, db)) :
    before.primary.AddsAmong (fun other record => other = spec ∧ record ∈ needed) db := by
  have hgains := hsound.gains hspec (takes_absent before.primary htakes) hinsert
  refine (hgains.addsAmong hsound hspec fun record hrecord => ?_).mono ?_
  · obtain ⟨hneeded, hnone⟩ := List.mem_filter.1 hrecord
    exact (hsound.isNone_lookUp_iff hspec (htakes record hneeded)).1 hnone
  · rintro other record ⟨hother, hrecord⟩
    exact ⟨hother, (List.mem_filter.1 hrecord).1⟩

/-- To supply records is to add rows among them. -/
theorem Supplies.addsAmong {middle : Databases} (h : Supplies spec needed before middle)
    (hspec : spec ∈ TableSpec.all) (htakes : ∀ record ∈ needed, spec.Takes record)
    (hsound : before.primary.Sound) :
    before.primary.AddsAmong (fun other record => other = spec ∧ record ∈ needed)
      middle.primary := by
  rcases h.change with ⟨-, rfl⟩ | ⟨-, count, db, hinsert, rfl⟩
  · exact hsound.addsAmong_self _
  · exact addsAmong_insert hspec htakes hsound hinsert

/-- The rows that a search has added hold records that were searched for. -/
theorem addsAmong_seekOnPrimary (hspec : spec ∈ TableSpec.all)
    (htakes : ∀ record ∈ needed, spec.Takes record) (hsound : before.primary.Sound)
    (h : (seekOnPrimary .primary spec left made needed found).Passes before met) :
    before.primary.AddsAmong (fun other record => other = spec ∧ record ∈ needed) met.primary := by
  rcases inserted_of_passes_seekOnPrimary hspec htakes hsound h with
    rfl | ⟨count, db, hinsert, rfl⟩
  · exact hsound.addsAmong_self _
  · exact addsAmong_insert hspec htakes hsound hinsert

section Ids

variable {s : Seeker}

theorem passes_ofExcept {α : Type} {outcome : Except Failure α}
    (h : (Dialog.ofExcept outcome).Passes before met) : met = before := by
  cases outcome <;> exact h

theorem passes_search (h : (search s spec records needed found).Passes before met) :
    (seekOnPrimary s.primary spec s.attempts 0 needed found).Passes before met := by
  rcases Dialog.Passes.of_bind h with hseeking | ⟨known, after, hrun, hassembling⟩
  · exact hseeking
  · obtain rfl := passes_ofExcept hassembling
    exact Dialog.passes_end hrun

/-- Wherever the search for the ids of some records ends, on the replica or on the primary, the rows
that it has added hold such records. -/
theorem addsAmong_acquireIds (hprimary : s.primary = .primary) (hspec : spec ∈ TableSpec.all)
    (htakes : ∀ record ∈ records, spec.Takes record) (hsound : before.primary.Sound)
    (h : (acquireIds s spec records).Passes before met) :
    before.primary.AddsAmong (fun other record => other = spec ∧ record ∈ records) met.primary := by
  have hsearch : ∀ {needed found}, (∀ record ∈ needed, record ∈ records) →
      (search s spec records needed found).Passes before met →
      before.primary.AddsAmong (fun other record => other = spec ∧ record ∈ records)
        met.primary := by
    intro needed found hneeded hsearching
    have hseeking := passes_search hsearching
    rw [hprimary] at hseeking
    refine (addsAmong_seekOnPrimary hspec (fun record hrecord => htakes record
      (hneeded record hrecord)) hsound hseeking).mono ?_
    exact fun other record hwanted => ⟨hwanted.1, hneeded record hwanted.2⟩
  cases hreplica : s.replica with
  | none =>
      rw [acquireIds_eq_search hreplica] at h
      exact hsearch (fun record => List.mem_eraseDups.1) h
  | some read =>
      by_cases hempty : records.eraseDups.isEmpty = true
      · rw [acquireIds_nil hreplica hempty] at h
        obtain rfl : met = before := h
        exact hsound.addsAmong_self _
      · rw [acquireIds_eq_find hreplica hempty] at h
        rcases h.of_find with rfl | ⟨known, -, hsearching⟩
        · exact hsound.addsAmong_self _
        · exact hsearch (fun record hrecord =>
            List.mem_eraseDups.1 (List.mem_filter.1 hrecord).1) hsearching

end Ids

end Acquisition

end TermStore
