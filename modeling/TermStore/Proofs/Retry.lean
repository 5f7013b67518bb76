import TermStore.Proofs.Following
import TermStore.Proofs.Recovery
import TermStore.Proofs.Restart

/-!
# Failure and retry

One call of either phase fails, before its effect or after it, and the phase is carried on again
from what it has left. Nothing is lost by the failure, and what is there too early is what an
undisturbed run would have made; the second attempt gives the ids of an undisturbed run, and leaves
the very same databases.

The first phase repeats as it stands. The second one does not: a text or a middle row that was
restored before the failure may have made some chains whole, so that fewer of them are lost when the
chains are read again. But then the rows of these chains are found on each level, and the inserts
for the others are the same as before.
-/

namespace TermStore

open Storage (TableSpec Record Cell Database)

namespace Acquisition

variable {batch : Batch} {limits : Limits} {start met last : Databases} {ids : List Int}

/-! ### The second phase taken up again -/

theorem passes_readChains (h : (readChains .primary batch).Passes start met) : met = start := by
  rcases Dialog.Passes.of_findIds h with hsame | ⟨terms, -, h⟩
  · exact hsame
  rcases Dialog.Passes.of_findIds h with hsame | ⟨inLanguage, -, h⟩
  · exact hsame
  rcases Dialog.Passes.of_findIds h with hsame | ⟨texts, -, h⟩
  · exact hsame
  · exact h

/-- In a sound database there is one list of ids at most that restores a batch. -/
theorem Restored.unique {db : Database} {ids' : List Int} (h : Restored db batch ids)
    (h' : Restored db batch ids') (hsound : db.Sound) : ids = ids' := by
  unfold Restored at h h'
  induction h generalizing ids' with
  | nil =>
      cases h'
      rfl
  | cons hid _ ih =>
      obtain ⟨id', rest', hid', hrest', rfl⟩ := List.forall₂_cons_left_iff.1 h'
      rw [hsound.leadsTo_unique hid hid', ih hrest']

/-- For no terms there is nothing to do on three levels. -/
theorem acquireTermIds_nil (attempts : Nat) :
    acquireTermIds ((Seeker.primaryOnly .primary).withAttempts attempts) [] = .done [] := by
  have hlevel : ∀ spec, acquireIds ((Seeker.primaryOnly .primary).withAttempts attempts) spec [] =
      .done [] := by
    intro spec
    rw [acquireIds_eq_search rfl]
    unfold search seekOnPrimary
    rfl
  rw [acquireTermIds_eq]
  simp only [textRecords, languageRecords, termRecords, List.map_nil, List.zip_nil_left, hlevel,
    Dialog.done_bind]

/-- The second phase where the lost terms' records can be supplied. -/
theorem run_finalize (hbatch : ¬ batch.isEmpty = true) {rows : ChainRows} {databases : Databases}
    (hrows : readRows databases.primary batch = .ok rows) {restored : List Int}
    (hrestored : (acquireTermIds ((Seeker.primaryOnly .primary).withAttempts limits.attempts)
      (typedTerms (rows.lost batch))).run Databases.handler databases = (.ok restored, last)) :
    ∃ ids, (finalize .primary limits batch).run Databases.handler databases = (.ok ids, last) := by
  rw [finalize_eq, if_neg hbatch]
  have hread : (readChains .primary batch).run Databases.handler databases =
      (.ok rows, databases) := by
    rw [run_readChains, hrows]
    rfl
  by_cases hnone : (rows.lost batch).isEmpty = true
  · -- all chains are whole by now, and three levels without terms do nothing either
    rw [List.isEmpty_iff.1 hnone, show typedTerms [] = [] from rfl, acquireTermIds_nil] at hrestored
    obtain ⟨-, rfl⟩ := Prod.mk.inj hrestored
    refine ⟨batch.ids, Dialog.run_bind_eq_ok_iff.2 ⟨rows, databases, hread, ?_⟩⟩
    unfold restore
    rw [if_pos hnone]
    rfl
  · refine ⟨replaced rows.leadTo batch restored,
      Dialog.run_bind_eq_ok_iff.2 ⟨rows, databases, hread, ?_⟩⟩
    unfold restore
    rw [if_neg hnone]
    exact Dialog.run_bind_eq_ok_iff.2 ⟨restored, last, hrestored, rfl⟩

/-- From each state that the restoring of the lost terms passes through, the chains that are still
lost then are restored with the same inserts. -/
theorem exists_run_restored {rows : ChainRows} {restored : List Int}
    (hsound : start.primary.Sound) (htextual : start.primary.Textual)
    (hrows : readRows start.primary batch = .ok rows)
    (hrestored : (acquireTermIds ((Seeker.primaryOnly .primary).withAttempts limits.attempts)
      (typedTerms (rows.lost batch))).run Databases.handler start = (.ok restored, last))
    (hmet : (acquireTermIds ((Seeker.primaryOnly .primary).withAttempts limits.attempts)
      (typedTerms (rows.lost batch))).Passes start met) :
    met.primary.Textual ∧ ∃ rows', readRows met.primary batch = .ok rows' ∧
      ∃ restored', (acquireTermIds ((Seeker.primaryOnly .primary).withAttempts limits.attempts)
        (typedTerms (rows'.lost batch))).run Databases.handler met = (.ok restored', last) := by
  have hasks : (acquireTermIds ((Seeker.primaryOnly .primary).withAttempts limits.attempts)
      (typedTerms (rows.lost batch))).Asks Request.Proper :=
    asks_acquireTermIds (permits_proper rfl) _
  have honward := (hmet.onward hasks hsound).1
  obtain ⟨first, second, hclimbs, -, hpasses⟩ := climbs_of_run (follows_of_none rfl) rfl
    (Nat.le_max_left 1 _) hsound hrestored
  obtain ⟨htextual', hfollowed⟩ := hclimbs.followed hsound htextual (hpasses met hmet)
  obtain ⟨rows', hrows'⟩ := (exists_readRows_iff honward.sound).2 fun acquired hmem =>
    hfollowed _ _ ((exists_readRows_iff hsound).1 ⟨rows, hrows⟩ acquired hmem)
  refine ⟨htextual', rows', hrows', ?_⟩
  have hwhole : ∀ acquired ∈ batch, rows'.leadTo acquired = true ↔ met.primary.LeadsTo acquired.id
      acquired.kindId acquired.term.language acquired.term.text := fun acquired hmem =>
    (readRows_eq_ok_iff.1 hrows').leadTo_iff honward.sound htextual' hmem
  -- the chains that are still lost are among those that were lost before
  have hlost : rows'.lost batch = (rows.lost batch).filter fun acquired =>
      !rows'.leadTo acquired := by
    unfold ChainRows.lost
    rw [List.filter_filter]
    refine List.filter_congr fun acquired hmem => ?_
    cases hleads : rows.leadTo acquired with
    | false => exact (Bool.and_true _).symm
    | true =>
        have hbefore := ((readRows_eq_ok_iff.1 hrows).leadTo_iff hsound htextual hmem).1 hleads
        rw [(hwhole acquired hmem).2 (honward.grows.leadsTo hbefore)]
        rfl
  have hagain := (repeats_acquireTermIds rfl (Nat.le_max_left 1 _) hsound hrestored).resumed met
    hmet
  obtain ⟨first', second', hclimbs', -⟩ := climbs_of_run (follows_of_none rfl) rfl
    (Nat.le_max_left 1 _) honward.sound hagain
  rw [hlost]
  refine (hclimbs'.fewer honward.sound fun acquired hmem hkeep => ?_).exists_run
    (follows_of_none rfl) rfl (Nat.le_max_left 1 _) honward.sound
  refine ⟨acquired.id, (hwhole acquired (List.mem_filter.1 hmem).1).1 ?_⟩
  simpa using hkeep

/-- From each state that it passes through, the second phase gives the same ids again and leaves the
same databases. -/
theorem resumed_finalize (hsound : start.primary.Sound) (htextual : start.primary.Textual)
    (hrun : (finalize .primary limits batch).run Databases.handler start = (.ok ids, last))
    (hmet : (finalize .primary limits batch).Passes start met) :
    (finalize .primary limits batch).run Databases.handler met = (.ok ids, last) := by
  have honward := (hmet.onward (asks_finalize_proper limits batch) hsound).1
  have hagain : met.primary.Textual ∧
      ∃ ids', (finalize .primary limits batch).run Databases.handler met = (.ok ids', last) := by
    by_cases hbatch : batch.isEmpty = true
    · rw [finalize_eq, if_pos hbatch] at hmet
      rw [show met = start from hmet]
      exact ⟨htextual, ids, hrun⟩
    have hstart := hrun
    rw [finalize_eq, if_neg hbatch] at hstart hmet
    obtain ⟨rows, state, hread, hrestore⟩ := Dialog.run_bind_eq_ok_iff.1 hstart
    rcases hmet.of_bind_of_run hread with hreading | hrestoring
    · rw [passes_readChains hreading]
      exact ⟨htextual, ids, hrun⟩
    rw [run_readChains] at hread
    cases hrows : readRows start.primary batch with
    | error fault =>
        rw [hrows] at hread
        cases hread
    | ok rows' =>
        rw [hrows] at hread
        cases hread
        unfold restore at hrestore hrestoring
        by_cases hnone : (rows.lost batch).isEmpty = true
        · rw [if_pos hnone] at hrestoring
          rw [show met = start from hrestoring]
          exact ⟨htextual, ids, hrun⟩
        rw [if_neg hnone] at hrestore hrestoring
        obtain ⟨restored, last', hrestored, hlast⟩ := Dialog.run_bind_eq_ok_iff.1 hrestore
        cases hlast
        rw [Databases.handler_note] at hrestored
        have hpassed : (acquireTermIds ((Seeker.primaryOnly .primary).withAttempts limits.attempts)
            (typedTerms (rows.lost batch))).Passes start met := by
          rcases Dialog.Passes.of_bind_of_run hrestoring hrestored with hfirst | hdone
          · exact hfirst
          · rw [show met = last from hdone]
            exact Dialog.passes_end hrestored
        obtain ⟨htextual', rows', hrows', restored', hrestored'⟩ :=
          exists_run_restored hsound htextual hrows hrestored hpassed
        exact ⟨htextual', run_finalize hbatch hrows' hrestored'⟩
  obtain ⟨htextual', ids', hrun'⟩ := hagain
  -- both lists of ids lead to the terms of the batch on one database
  have hrestored : Recovers batch ((finalize .primary limits batch).run Databases.handler start) :=
    recovers_finalize hsound htextual
  have hrestored' : Recovers batch ((finalize .primary limits batch).run Databases.handler met) :=
    recovers_finalize honward.sound htextual'
  rw [hrun] at hrestored
  rw [hrun'] at hrestored'
  rw [hrun', hrestored'.2.unique hrestored.2 hrestored.1]

end Acquisition

/-! ### One call fails -/

/-- Whichever call of a dialog fails, before its effect or after it: the old rows are still there
and the replica is as it was; the primary has gained nothing but what an undisturbed run gains; and
if that has a result, the dialog has the same result when it is carried on again from there, and
leaves the same databases. -/
structure Dialog.Survives {α : Type} (d : Dialog α) (start : Databases) : Prop where
  kept : ∀ effect failure count,
    start.Onward (d.run (Databases.failing effect failure) (start, count)).2.1
  within : ∀ effect failure count,
    (d.run (Databases.failing effect failure) (start, count)).2.1.Onward
      (d.run Databases.handler start).2
  again : ∀ effect failure count result after, d.run Databases.handler start = (.ok result, after) →
    d.run Databases.handler (d.run (Databases.failing effect failure) (start, count)).2.1 =
      (.ok result, after)

/-- What is passed through lies within an undisturbed run, so only the second attempt is left to be
looked at. -/
theorem Dialog.survives_of_passes {α : Type} {d : Dialog α} {start : Databases}
    (hd : d.Asks Request.Proper) (hsound : start.primary.Sound)
    (hagain : ∀ met, d.Passes start met → ∀ result after,
      d.run Databases.handler start = (.ok result, after) →
      d.run Databases.handler met = (.ok result, after)) : d.Survives start where
  kept effect failure count :=
    ((passes_failing effect failure d start count).onward hd hsound).1
  within effect failure count :=
    ((passes_failing effect failure d start count).onward hd hsound).2
  again effect failure count := hagain _ (passes_failing effect failure d start count)

namespace Acquisition

theorem survives_acquire {kinds : KindStore} (hkinds : kinds.Standard) (read : Side)
    (limits : Limits) (document : Document) {start : Databases} (hsound : start.primary.Sound) :
    (acquire read .primary kinds limits document).Survives start :=
  Dialog.survives_of_passes (asks_acquire hkinds read limits document) hsound
    fun met hmet _ _ hrun =>
      (repeats_acquire hkinds read limits document hsound hrun).resumed met hmet

theorem survives_finalize (limits : Limits) (batch : Batch) {start : Databases}
    (hsound : start.primary.Sound) (htextual : start.primary.Textual) :
    (finalize .primary limits batch).Survives start :=
  Dialog.survives_of_passes (asks_finalize_proper limits batch) hsound
    fun _ hmet _ _ hrun => resumed_finalize hsound htextual hrun hmet

/-- Proper requests keep texts in the text columns. -/
theorem textual_run {α : Type} {d : Dialog α} (hd : d.Asks Request.Proper) {start : Databases}
    (hsound : start.primary.Sound) (htextual : start.primary.Textual) :
    (d.run Databases.handler start).2.primary.Textual := by
  refine (Dialog.Asks.run_induction (I := fun now : Databases =>
    now.primary.Sound ∧ now.primary.Textual) (fun _ _ h => h) (fun r now hr hnow => ?_) hd
    ⟨hsound, htextual⟩).2
  refine ⟨(Databases.onward_reply hr hnow.1).sound, ?_⟩
  obtain ⟨-, hsame | ⟨spec, hspec, records, htakes, hgains⟩⟩ := Databases.reply_cases hr hnow.1
  · exact hsame ▸ hnow.2
  · exact hgains.textual hspec htakes hnow.2

/-- A failed call comes to nothing in the end. On contents whose text columns hold texts, whichever
call of the first phase fails, and of the second phase after it, each phase can be carried on again:
no old row and nothing of the replica is lost, the primary has only gained what an undisturbed run
gains, and the second attempt has the result of an undisturbed run and leaves the very same
databases; so have both phases together when the first one has failed. -/
theorem retry_equals_no_failure {kinds : KindStore} (hkinds : kinds.Standard) (read : Side)
    (limits : Limits) (document : Document) {start : Databases} (hsound : start.primary.Sound)
    (htextual : start.primary.Textual) :
    (acquire read .primary kinds limits document).Survives start ∧
    ∀ batch acquired, (acquire read .primary kinds limits document).run Databases.handler start =
        (.ok batch, acquired) →
      (finalize .primary limits batch).Survives acquired ∧
      ∀ ids final, (finalize .primary limits batch).run Databases.handler acquired =
          (.ok ids, final) →
        ∀ effect failure count,
          ((acquire read .primary kinds limits document).bind (finalize .primary limits)).run
            Databases.handler ((acquire read .primary kinds limits document).run
              (Databases.failing effect failure) (start, count)).2.1 = (.ok ids, final) := by
  have hacquires := survives_acquire hkinds read limits document hsound
  have hasks := asks_acquire hkinds read limits document
  refine ⟨hacquires, fun batch acquired hacquire => ?_⟩
  have hacquired := hasks.onward_of_run hsound hacquire
  have htextual' := textual_run hasks hsound htextual
  rw [hacquire] at htextual'
  refine ⟨survives_finalize limits batch hacquired.sound htextual', ?_⟩
  intro ids final hfinalize effect failure count
  have hagain := hacquires.again effect failure count batch acquired hacquire
  exact Dialog.run_bind_eq_ok_iff.2 ⟨batch, acquired, hagain, hfinalize⟩

/-- A document with one label. -/
def berlin : Document := Document.empty.withLabel "en" "Berlin"

/-- Empty tables, and a replica with a label that they do not have. -/
def strayReplica : Databases :=
  ⟨emptyTables.primary, some ((acquire .replica .primary .inMemory .default berlin).run
    Databases.handler emptyTables).2.primary, .none⟩

/-- What the first phase makes of them: nothing but a number for the kind. -/
def strayAcquired : Databases :=
  ((acquire .replica .primary .inMemory .default berlin).run Databases.handler strayReplica).2

/-- The label with its id on the replica. -/
def strayBatch : Batch := [⟨⟨.label, "en", "Berlin"⟩, 1, 1⟩]

/-- What is left when the last insert of the second phase fails after its effect. -/
def strayBroken : Except Failure (List Int) × Databases × Nat :=
  (finalize .primary .default strayBatch).run (Databases.failing true (.storage .noRows))
    (strayAcquired, 10)

/-- The second attempt finds the chain whole that the first one has still made. -/
theorem retry_after_last_insert :
    strayBroken.1 = .error (.storage .noRows) ∧
    ((finalize .primary .default strayBatch).run Databases.handler strayBroken.2.1).1 =
      .ok [1] := by
  have hstore : strayReplica = ⟨.migrated, some ((acquire .replica .primary .inMemory .default
      berlin).run Databases.handler ⟨.migrated, none, .none⟩).2.primary, .none⟩ := by
    unfold strayReplica
    rw [emptyTables_eq]
  have hfresh : strayReplica.primary.Fresh := by
    rw [hstore]
    exact Database.fresh_migrated
  have hacquire : (acquire .replica .primary .inMemory .default berlin).run Databases.handler
      strayReplica = (.ok strayBatch, strayAcquired) :=
    Prod.fst_eq_iff.1 (by simp only [hstore]; decide +kernel)
  have hids : ((finalize .primary .default strayBatch).run Databases.handler strayAcquired).1 =
      .ok [1] := by
    simp only [strayAcquired, hstore]
    decide +kernel
  have hbroken : strayBroken.1 = .error (.storage .noRows) := by
    simp only [strayBroken, strayAcquired, hstore]
    decide +kernel
  have hretry := (retry_equals_no_failure .inMemory .replica .default berlin hfresh.sound
    hfresh.typed.textual).2 strayBatch strayAcquired hacquire
  have hagain := hretry.1.again true (.storage .noRows) 10 [1]
    ((finalize .primary .default strayBatch).run Databases.handler strayAcquired).2
    (Prod.fst_eq_iff.1 hids)
  refine ⟨hbroken, ?_⟩
  unfold strayBroken
  exact congrArg Prod.fst hagain

end Acquisition

/-! ### Bytes in text columns -/

/-- A table with one row, and with no others. -/
def Storage.Table.only (t : Table) (spec : TableSpec) (id : Int) (given : Storage.Values) : Table :=
  { t with
    rows := SortedMap.empty.put id
      (t.arrange (spec.idColumn :: spec.columns) (.integer id :: given))
    counter := some id }

/-- A database with one row in a table of it, and with no others there. -/
def Storage.Database.only (db : Database) (spec : TableSpec) (id : Int) (given : Storage.Values) :
    Database :=
  match db.table spec.name with
  | .ok t => db.setTable (t.only spec id given)
  | .error _ => db

theorem Storage.Database.Sound.only {db : Database} (h : db.Sound) {spec : TableSpec}
    (hspec : spec ∈ TableSpec.all) (id : Int) (given : Storage.Values) :
    (db.only spec id given).Sound := by
  obtain ⟨t, htable, hsound⟩ := h spec hspec
  have hchanges : db.Changes (fun t t' => t.Alike t' ∧ ∀ x ∈ t'.rows.entries, x.1 = id) spec
      (db.setTable (t.only spec id given)) := by
    refine Database.changes_setTable htable hsound.named ⟨rfl, fun x hx => ?_⟩
    have hget := SortedMap.mem_entries_iff.1 hx
    unfold Storage.Table.only at hget
    rw [SortedMap.get?_put] at hget
    by_cases hid : x.1 = id
    · exact hid
    · rw [if_neg hid] at hget
      cases hget
  unfold Database.only
  rw [htable]
  refine hchanges.each hspec h ?_
  rintro t t' ⟨hnamed, hkeeps, -⟩ ⟨halike, hone⟩
  refine ⟨by rw [halike]; exact hnamed, halike.keeps hkeeps, ?_⟩
  -- a single row agrees with no other
  intro index _ _ x hx y hy _
  rw [hone x hx, hone y hy]

namespace Acquisition

/-- Bytes in place of a language, over a text that is missing. -/
def bytesPrimary : Database :=
  ((Database.empty.migrate.database.only .texts 6 [.text "bar"]).only
    .textsInLanguage 9 [.integer 7, .blob [0x65, 0x6e]]).only
    .termsInLanguage 50 [.integer 9, .integer 1]

/-- A whole chain over rows of the same numbers. -/
def wholeReplica : Database :=
  ((Database.empty.migrate.database.only .texts 7 [.text "foo"]).only
    .textsInLanguage 9 [.integer 7, .text "en"]).only
    .termsInLanguage 50 [.integer 9, .integer 1]

/-- Both of them after the first phase for the label that the replica has. -/
def bytesAcquired : Except Failure Batch × Databases :=
  (acquire .replica .primary .inMemory .default (Document.empty.withLabel "en" "foo")).run
    Databases.handler ⟨bytesPrimary, some wholeReplica, .none⟩

/-- The batch of the first phase. -/
def bytesBatch : Batch := [⟨⟨.label, "en", "foo"⟩, 1, 50⟩]

/-- Bytes are read as the language that they spell, but a look-up of the language does not find
them. So the undisturbed second phase makes new rows; but if it fails right after it has made the
missing text, the chain over the bytes is whole, and the second attempt keeps it. -/
theorem retry_differs_on_bytes :
    bytesPrimary.Sound ∧ wholeReplica.Sound ∧ bytesAcquired.1 = .ok bytesBatch ∧
    ((finalize .primary .default bytesBatch).run Databases.handler bytesAcquired.2).1 =
      .ok [51] ∧
    ((finalize .primary .default bytesBatch).run Databases.handler
      ((finalize .primary .default bytesBatch).run (Databases.failing true (.storage .noRows))
        (bytesAcquired.2, 4)).2.1).1 = .ok [50] ∧
    ¬ (finalize .primary .default bytesBatch).Survives bytesAcquired.2 := by
  have hsound : ∀ (text language term : Int) (texts inLanguage terms : Storage.Values),
      (((Database.migrated.only .texts text texts).only .textsInLanguage language inLanguage).only
        .termsInLanguage term terms).Sound := fun _ _ _ _ _ _ =>
    ((Database.fresh_migrated.sound.only TableSpec.mem_all_texts _ _).only
      TableSpec.mem_all_textsInLanguage _ _).only TableSpec.mem_all_termsInLanguage _ _
  have hundisturbed : ((finalize .primary .default bytesBatch).run Databases.handler
      bytesAcquired.2).1 = .ok [51] := by
    unfold bytesAcquired bytesPrimary wholeReplica
    rw [Database.migrate_empty]
    decide +kernel
  have hretried : ((finalize .primary .default bytesBatch).run Databases.handler
      ((finalize .primary .default bytesBatch).run (Databases.failing true (.storage .noRows))
        (bytesAcquired.2, 4)).2.1).1 = .ok [50] := by
    unfold bytesAcquired bytesPrimary wholeReplica
    rw [Database.migrate_empty]
    decide +kernel
  refine ⟨?_, ?_, ?_, hundisturbed, hretried, fun hsurvives => ?_⟩
  · unfold bytesPrimary
    rw [Database.migrate_empty]
    exact hsound _ _ _ _ _ _
  · unfold wholeReplica
    rw [Database.migrate_empty]
    exact hsound _ _ _ _ _ _
  · unfold bytesAcquired bytesPrimary wholeReplica
    rw [Database.migrate_empty]
    decide +kernel
  · have hagain := hsurvives.again true (.storage .noRows) 4 [51]
      ((finalize .primary .default bytesBatch).run Databases.handler bytesAcquired.2).2
      (Prod.fst_eq_iff.1 hundisturbed)
    have hids := hretried.symm.trans (congrArg Prod.fst hagain)
    exact absurd (Except.ok.inj hids) (by decide)

end Acquisition

end TermStore
