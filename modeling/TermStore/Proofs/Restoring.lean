import TermStore.Proofs.Addition
import TermStore.Proofs.Resolving
import TermStore.Proofs.Retry

/-!
# What the second phase restores

The second phase reads the chains of a batch level by level, from three sets of ids; the resolver
reads them with one join. On a primary whose rows hold records the two agree: lost are exactly the
occurrences for whose ids the join finds nothing, or another term. Only these are restored
(`Restores`): the others keep their ids, and whatever becomes of the second phase, each row that it
has added is one of the three rows of a lost occurrence, and was missing.
-/

namespace TermStore

open Storage (TableSpec Record RecordIds Cell Database)

namespace Acquisition

variable {s : Seeker} {terms : List (Term × Int)} {batch : Batch} {limits : Limits}
  {start first second met before after : Databases}

/-! ### Rows of three levels -/

/-- The records that some terms have in the four tables of a database. -/
inductive IsRecordOf (terms : List (Term × Int)) (db : Database) : TableSpec → Record → Prop
  | text {record : Record} : IsText terms record → IsRecordOf terms db .texts record
  | inLanguage {record : Record} :
      IsInLanguage terms db record → IsRecordOf terms db .textsInLanguage record
  | term {record : Record} : IsTerm terms db record → IsRecordOf terms db .termsInLanguage record

theorem IsRecordOf.grows {db db' : Database} {spec : TableSpec} {record : Record}
    (h : IsRecordOf terms db spec record) (hgrows : db.Grows db') :
    IsRecordOf terms db' spec record := by
  cases h with
  | text h => exact .text h
  | inLanguage h =>
      obtain ⟨t, ht, textId, htext, hrecord⟩ := h
      exact .inLanguage ⟨t, ht, textId, hgrows.has TableSpec.mem_all_texts htext, hrecord⟩
  | term h =>
      obtain ⟨t, ht, textId, middleId, htext, hmiddle, hrecord⟩ := h
      exact .term ⟨t, ht, textId, middleId, hgrows.has TableSpec.mem_all_texts htext,
        hgrows.has TableSpec.mem_all_textsInLanguage hmiddle, hrecord⟩

theorem isText_of_mem {record : Record} (h : record ∈ textRecords terms) : IsText terms record := by
  obtain ⟨t, ht, rfl⟩ := List.mem_map.1 h
  exact ⟨t, ht, rfl⟩

theorem isInLanguage_of_mem (h : Supplies .texts (textRecords terms).eraseDups start first)
    (hsound : first.primary.Sound) {record : Record}
    (hrecord : record ∈ terms.map (languageRecord first.primary)) :
    IsInLanguage terms first.primary record := by
  obtain ⟨t, ht, rfl⟩ := List.mem_map.1 hrecord
  obtain ⟨textId, htext, heq⟩ := h.exists_text hsound ht
  exact ⟨t, ht, textId, htext, heq⟩

theorem isTerm_of_mem (htexts : Supplies .texts (textRecords terms).eraseDups start first)
    (h : Supplies .textsInLanguage (terms.map (languageRecord first.primary)).eraseDups first
      second) (hfirst : first.primary.Sound) (hsecond : first.Onward second) {record : Record}
    (hrecord : record ∈ terms.map (termRecord first.primary second.primary)) :
    IsTerm terms second.primary record := by
  obtain ⟨t, ht, rfl⟩ := List.mem_map.1 hrecord
  obtain ⟨textId, htext, hlanguage⟩ := htexts.exists_text hfirst ht
  obtain ⟨middleId, hmiddle, heq⟩ := h.exists_middle hsecond.sound ht
  exact ⟨t, ht, textId, middleId, hsecond.grows.has TableSpec.mem_all_texts htext,
    hlanguage ▸ hmiddle, heq⟩

section Levels

variable (hreplica : s.replica = none) (hprimary : s.primary = .primary)
  (hattempts : 1 ≤ s.attempts)

include hprimary

/-- Wherever the last level ends, the rows that it has added hold records of the terms. -/
theorem addsAmong_third (htexts : Supplies .texts (textRecords terms).eraseDups start first)
    (hmiddle : Supplies .textsInLanguage (terms.map (languageRecord first.primary)).eraseDups first
      second) (hfirst : first.primary.Sound)
    (h : ((acquireIds s .termsInLanguage
      (terms.map (termRecord first.primary second.primary))).bind fun found =>
        .done (found.map Prod.snd)).Passes second met) :
    second.primary.AddsAmong (IsRecordOf terms met.primary) met.primary := by
  have hsecond := hmiddle.onward TableSpec.mem_all_textsInLanguage
    (takes_eraseDups (takes_map_languageRecord first.primary terms)) hfirst
  have htakes := takes_map_termRecord first.primary second.primary terms
  have hasks := asks_acquireIds (permits_proper hprimary _ TableSpec.mem_all_termsInLanguage) htakes
  have hlast : (acquireIds s .termsInLanguage
      (terms.map (termRecord first.primary second.primary))).Passes second met := by
    rcases h.of_bind with hterms | ⟨found, last, hrun, hend⟩
    · exact hterms
    · obtain rfl : met = last := hend
      exact Dialog.passes_end hrun
  refine (addsAmong_acquireIds hprimary TableSpec.mem_all_termsInLanguage htakes hsecond.sound
    hlast).mono ?_
  rintro _ record ⟨rfl, hrecord⟩
  exact (IsRecordOf.term (isTerm_of_mem htexts hmiddle hfirst hsecond hrecord)).grows
    (hlast.onward hasks hsecond.sound).1.grows

include hreplica hattempts

/-- Wherever the two other levels end, the rows that they have added hold records of the terms. -/
theorem addsAmong_second (htexts : Supplies .texts (textRecords terms).eraseDups start first)
    (hfirst : first.primary.Sound)
    (h : ((acquireIds s .textsInLanguage (terms.map (languageRecord first.primary))).bind
      fun inLanguage => (acquireIds s .termsInLanguage (termRecords terms inLanguage)).bind
        fun found => .done (found.map Prod.snd)).Passes first met) :
    first.primary.AddsAmong (IsRecordOf terms met.primary) met.primary := by
  have htakes := takes_map_languageRecord first.primary terms
  have hpermits := permits_proper hprimary
  have hasks := asks_acquireIds (hpermits _ TableSpec.mem_all_textsInLanguage) htakes
  have hasksTerms := fun inLanguage => asks_acquireIds
    (hpermits _ TableSpec.mem_all_termsInLanguage) (takes_termRecords terms inLanguage)
  have hlater := (h.onward (hasks.bind fun inLanguage => (hasksTerms inLanguage).bind
    fun found => show Dialog.Asks _ (.done _) from trivial) hfirst).1
  have hwanted : ∀ spec record, (spec = .textsInLanguage ∧
      record ∈ terms.map (languageRecord first.primary)) → IsRecordOf terms met.primary spec
        record := by
    rintro _ record ⟨rfl, hrecord⟩
    exact (IsRecordOf.inLanguage (isInLanguage_of_mem htexts hfirst hrecord)).grows hlater.grows
  rcases h.of_bind with hsearching | ⟨inLanguage, second, hrun, h⟩
  · exact (addsAmong_acquireIds hprimary TableSpec.mem_all_textsInLanguage htakes hfirst
      hsearching).mono hwanted
  · have hadds := addsAmong_acquireIds hprimary TableSpec.mem_all_textsInLanguage htakes hfirst
      (Dialog.passes_end hrun)
    obtain ⟨hmiddle, rfl⟩ := (run_acquireIds_iff (follows_of_none hreplica) hprimary
      TableSpec.mem_all_textsInLanguage htakes hfirst hattempts).1 hrun
    rw [termRecords_numbered] at h
    exact (hadds.mono hwanted).trans (addsAmong_third hprimary htexts hmiddle hfirst h)

/-- Wherever three levels end, the rows that they have added hold records of the terms. -/
theorem addsAmong_acquireTermIds (hsound : start.primary.Sound)
    (h : (acquireTermIds s terms).Passes start met) :
    start.primary.AddsAmong (IsRecordOf terms met.primary) met.primary := by
  have htakes := takes_textRecords terms
  have hwanted : ∀ spec record, (spec = .texts ∧ record ∈ textRecords terms) →
      IsRecordOf terms met.primary spec record := by
    rintro _ record ⟨rfl, hrecord⟩
    exact .text (isText_of_mem hrecord)
  rw [acquireTermIds_eq] at h
  rcases h.of_bind with hsearching | ⟨texts, first, hrun, h⟩
  · exact (addsAmong_acquireIds hprimary TableSpec.mem_all_texts htakes hsound hsearching).mono
      hwanted
  · have hadds := addsAmong_acquireIds hprimary TableSpec.mem_all_texts htakes hsound
      (Dialog.passes_end hrun)
    obtain ⟨htexts, rfl⟩ := (run_acquireIds_iff (follows_of_none hreplica) hprimary
      TableSpec.mem_all_texts htakes hsound hattempts).1 hrun
    have hfirst := htexts.onward TableSpec.mem_all_texts (takes_eraseDups htakes) hsound
    rw [languageRecords_numbered] at h
    exact (hadds.mono hwanted).trans
      (addsAmong_second hreplica hprimary hattempts htexts hfirst.sound h)

end Levels

/-! ### The second phase -/

/-- Wherever the second phase ends, the rows that it has added hold records of what was lost. -/
theorem addsAmong_finalize (hsound : before.primary.Sound) {rows : ChainRows}
    (hrows : (readChains .primary batch).run Databases.handler before = (.ok rows, before))
    (h : (finalize .primary limits batch).Passes before met) :
    before.primary.AddsAmong (IsRecordOf (typedTerms (rows.lost batch)) met.primary)
      met.primary := by
  rw [finalize_eq] at h
  split at h
  · obtain rfl : met = before := h
    exact hsound.addsAmong_self _
  rcases h.of_bind_of_run hrows with hreading | h
  · obtain rfl := passes_readChains hreading
    exact hsound.addsAmong_self _
  unfold restore at h
  split at h
  · obtain rfl : met = before := h
    exact hsound.addsAmong_self _
  replace h : ((acquireTermIds _ _).bind _).Passes before met := h
  rcases h.of_bind with hrestoring | ⟨ids, after, hrun, hend⟩
  · exact addsAmong_acquireTermIds rfl rfl (Nat.le_max_left 1 _) hsound hrestoring
  · obtain rfl : met = after := hend
    exact addsAmong_acquireTermIds rfl rfl (Nat.le_max_left 1 _) hsound (Dialog.passes_end hrun)

/-- What the second phase comes to, when it has read some rows. -/
structure Restores (batch : Batch) (rows : ChainRows) (before : Databases)
    (outcome : Except Failure (List Int)) (after : Databases) : Prop where
  read : (readChains .primary batch).run Databases.handler before = (.ok rows, before)
  /-- Lost are the occurrences for whose ids the join finds nothing, or another term. -/
  lost : ∀ ids, ∃ found, before.primary.chains ids = .ok found ∧
    ∀ acquired ∈ batch, acquired.id ∈ ids →
      (rows.leadTo acquired = false ↔ found.get? acquired.id ≠ some acquired.chain)
  /-- The others keep their ids. -/
  kept : ∀ ids, outcome = .ok ids → ∀ (i : Nat) (a : AcquiredTerm) (x : Int), batch[i]? = some a →
    ids[i]? = some x → rows.leadTo a = true → x = a.id
  /-- All ids lead to their terms in the end. -/
  restored : ∀ ids, outcome = .ok ids → Restored after.primary batch ids
  /-- Old rows stay, and new ones hold records of lost occurrences that no row held. -/
  adds : before.primary.AddsAmong (IsRecordOf (typedTerms (rows.lost batch)) after.primary)
    after.primary
  replica : after.replica = before.replica
  nothing : rows.lost batch = [] → outcome = .ok batch.ids ∧ after = before

/-- Where every row holds a record, the rows that a batch leads to can be read. -/
theorem exists_readRows_of_typed {db : Database} (hsound : db.Sound) (htyped : db.Typed)
    (batch : Batch) : ∃ rows, readRows db batch = .ok rows := by
  have hlookUp : ∀ {spec} (ids : List Int), spec ∈ TableSpec.all →
      ∃ found, db.findIds spec ids = .ok found := fun ids hspec =>
    (hsound.findIds_ok_iff hspec).2 fun id _ => htyped.readable hspec id
  obtain ⟨terms, hterms⟩ := hlookUp (idSet batch.ids) TableSpec.mem_all_termsInLanguage
  obtain ⟨inLanguage, hinLanguage⟩ := hlookUp (firstIds terms) TableSpec.mem_all_textsInLanguage
  obtain ⟨texts, htexts⟩ := hlookUp (firstIds inLanguage) TableSpec.mem_all_texts
  exact ⟨⟨terms, inLanguage, texts⟩, readRows_eq_ok_iff.2 ⟨hterms, hinLanguage, htexts⟩⟩

/-- The second phase restores exactly the chains that are broken on the primary. -/
theorem finalize_restores_lost (limits : Limits) (batch : Batch) {before after : Databases}
    {outcome : Except Failure (List Int)} (hsound : before.primary.Sound)
    (htyped : before.primary.Typed)
    (hrun : (finalize .primary limits batch).run Databases.handler before = (outcome, after)) :
    ∃ rows, Restores batch rows before outcome after := by
  obtain ⟨rows, hrows⟩ := exists_readRows_of_typed hsound htyped batch
  have hread : (readChains .primary batch).run Databases.handler before = (.ok rows, before) := by
    rw [run_readChains, hrows]
    rfl
  have hleads : ∀ acquired ∈ batch, rows.leadTo acquired = true ↔ before.primary.LeadsTo
      acquired.id acquired.kindId acquired.term.language acquired.term.text := fun _ hmem =>
    (readRows_eq_ok_iff.1 hrows).leadTo_iff hsound htyped.textual hmem
  have honward := (asks_finalize_proper limits batch).onward_of_run hsound hrun
  have hrestored : ∀ ids, outcome = .ok ids → Restored after.primary batch ids := by
    rintro ids rfl
    have hrecovers : Recovers batch ((finalize .primary limits batch).run Databases.handler
      before) := recovers_finalize hsound htyped.textual
    rw [hrun] at hrecovers
    exact hrecovers.2
  refine ⟨rows, hread, fun ids => ?_, ?_, hrestored, addsAmong_finalize hsound hread
    (Dialog.passes_end hrun), honward.replica, ?_⟩
  · obtain ⟨found, hfound, hiff⟩ := Database.exists_chains hsound htyped ids
    refine ⟨found, hfound, fun acquired hmem hid => ?_⟩
    rw [ne_eq, hiff, ← Bool.not_eq_true, hleads acquired hmem, and_iff_right hid]
    rfl
  · intro ids hids i a x ha hx hwhole
    have hlead := (List.forall₂_iff_zip.1 (hrestored ids hids)).2
      (List.mem_of_getElem? (i := i) (List.getElem?_zip_eq_some.2 ⟨ha, hx⟩))
    exact honward.sound.leadsTo_unique hlead
      (honward.grows.leadsTo ((hleads a (List.mem_of_getElem? ha)).1 hwhole))
  · intro hnone
    have hall : batch.Leads before.primary := fun acquired hmem => by
      refine (hleads acquired hmem).1 ?_
      simpa using List.filter_eq_nil_iff.1 hnone acquired hmem
    rw [run_finalize_of_leads hsound hall] at hrun
    exact ⟨(Prod.mk.inj hrun).1.symm, (Prod.mk.inj hrun).2.symm⟩

/-- A whole chain, and one over a text that is missing. -/
def textMissing : Database := .stocked [
  (.texts, [[.text "Hamburg"]]),
  (.textsInLanguage, [[.integer 1, .text "de"], [.integer 5, .text "en"]]),
  (.termsInLanguage, [[.integer 1, .integer 1], [.integer 2, .integer 1]])]

/-- The occurrences of both chains. -/
def textMissingBatch : Batch :=
  [⟨⟨.label, "de", "Hamburg"⟩, 1, 1⟩, ⟨⟨.label, "en", "Berlin"⟩, 1, 2⟩]

theorem textMissing_restored :
    ∃ (after : Databases) (rows : ChainRows),
      (finalize .primary .default textMissingBatch).run Databases.handler
        ⟨textMissing, none, .none⟩ = (.ok [1, 3], after) ∧
      Restores textMissingBatch rows ⟨textMissing, none, .none⟩ (.ok [1, 3]) after := by
  obtain ⟨hsound, htyped⟩ : textMissing.Sound ∧ textMissing.Typed :=
    Database.sound_typed_stocked (by decide)
  have hids : ((finalize .primary .default textMissingBatch).run Databases.handler
      ⟨textMissing, none, .none⟩).1 = .ok [1, 3] := by decide +kernel
  obtain ⟨rows, hrestores⟩ :=
    finalize_restores_lost .default textMissingBatch hsound htyped (Prod.fst_eq_iff.1 hids)
  exact ⟨_, rows, Prod.fst_eq_iff.1 hids, hrestores⟩

end Acquisition

end TermStore
