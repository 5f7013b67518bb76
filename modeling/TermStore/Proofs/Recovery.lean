import TermStore.Proofs.Phases
import Mathlib.Data.Prod.Basic

/-!
# Recovery of lost rows

Between the two phases anything may happen to the rows of a batch: they may be gone, altered, or
never have been on the primary at all. The second phase, carried on alone, then still gives one id
an occurrence, and each of them leads on the primary to the occurrence's term; equal terms have one
id and different terms have different ones. The replica has no part in it.
-/

namespace TermStore

open Storage (TableSpec Record RecordIds Cell Database)

/-- Two occurrences have one text in one language, and one id of their kinds. -/
def AcquiredTerm.Same (a b : AcquiredTerm) : Prop :=
  a.kindId = b.kindId ∧ a.term.language = b.term.language ∧ a.term.text = b.term.text

namespace Acquisition

variable {batch : Batch} {limits : Limits} {databases : Databases}

/-- Each occurrence of a batch has an id that leads to its term. -/
def Restored (db : Database) (batch : Batch) (ids : List Int) : Prop :=
  List.Forall₂ (fun acquired id => db.LeadsTo id acquired.kindId acquired.term.language
    acquired.term.text) batch ids

/-- In a batch whose occurrences all have ids that lead to their terms, two ids are equal exactly
when the terms are. -/
theorem Restored.id_eq_iff {db : Database} {ids : List Int} (h : Restored db batch ids)
    (hsound : db.Sound) {i j : Nat} {a b : AcquiredTerm} {x y : Int} (ha : batch[i]? = some a)
    (hb : batch[j]? = some b) (hx : ids[i]? = some x) (hy : ids[j]? = some y) :
    x = y ↔ a.Same b := by
  have hlead : ∀ {k : Nat} {c : AcquiredTerm} {z : Int}, batch[k]? = some c → ids[k]? = some z →
      db.LeadsTo z c.kindId c.term.language c.term.text := by
    intro k c z hc hz
    refine (List.forall₂_iff_zip.1 h).2 (List.mem_of_getElem? (i := k) ?_)
    rw [List.getElem?_zip_eq_some]
    exact ⟨hc, hz⟩
  have hleadsX := hlead ha hx
  have hleadsY := hlead hb hy
  constructor
  · rintro rfl
    exact hleadsX.functional hleadsY
  · rintro ⟨hkind, hlanguage, htext⟩
    rw [hkind, hlanguage, htext] at hleadsX
    exact hsound.leadsTo_unique hleadsX hleadsY

/-- What holds of the whole occurrences' own ids, and of the ids restored for the others, holds of
all ids together. -/
theorem forall₂_replaced {R : AcquiredTerm → Int → Prop} {whole : AcquiredTerm → Bool}
    {ids : List Int} (hwhole : ∀ acquired ∈ batch, whole acquired = true → R acquired acquired.id)
    (hids : List.Forall₂ R (batch.filter fun acquired => !whole acquired) ids) :
    List.Forall₂ R batch (replaced whole batch ids) := by
  induction batch generalizing ids with
  | nil => exact List.Forall₂.nil
  | cons acquired rest ih =>
      have hrest : ∀ other ∈ rest, whole other = true → R other other.id :=
        fun other hmem => hwhole other (List.mem_cons_of_mem _ hmem)
      unfold replaced
      by_cases hacquired : whole acquired = true
      · rw [if_pos hacquired]
        rw [List.filter_cons_of_neg (by simp [hacquired])] at hids
        exact List.Forall₂.cons (hwhole acquired List.mem_cons_self hacquired) (ih hrest hids)
      · rw [if_neg hacquired]
        rw [List.filter_cons_of_pos (by simp [hacquired])] at hids
        obtain ⟨id, others, hid, hothers, rfl⟩ := List.forall₂_cons_left_iff.1 hids
        exact List.Forall₂.cons hid (ih hrest hothers)

/-- What comes of the second phase where the replica has no rows but the primary's. -/
def Recovers (batch : Batch) : Except Failure (List Int) × Databases → Prop
  | (.ok ids, after) => after.primary.Sound ∧ Restored after.primary batch ids
  | (.error failure, _) => failure.NotExhausted

theorem recovers_restore {rows : ChainRows} (hsound : databases.primary.Sound)
    (hlags : ∀ replica ∈ databases.replica, replica.Grows databases.primary)
    (hwhole : ∀ acquired ∈ batch, rows.leadTo acquired = true →
      databases.primary.LeadsTo acquired.id acquired.kindId acquired.term.language
        acquired.term.text) :
    Recovers batch ((restore .primary limits batch rows).run Databases.handler databases) := by
  unfold restore
  split
  · next hnone =>
    -- no chain is lost, and all ids stay
    refine ⟨hsound, List.forall₂_map_right_iff.2 (List.forall₂_same.2 fun acquired hmem => ?_)⟩
    refine hwhole acquired hmem ?_
    simpa using List.filter_eq_nil_iff.1 (List.isEmpty_iff.1 hnone) acquired hmem
  · rw [Dialog.run, Databases.handler_note, Dialog.run_bind]
    have hasks : (acquireTermIds ((Seeker.primaryOnly .primary).withAttempts limits.attempts)
        (typedTerms (rows.lost batch))).Asks Request.Proper :=
      asks_acquireTermIds (permits_proper rfl) _
    have hassured := assures_acquireTermIds
      (s := (Seeker.primaryOnly .primary).withAttempts limits.attempts) rfl
      (Nat.le_max_left 1 _) (typedTerms (rows.lost batch)) hsound
      (by decide : ∀ spec ∈ [TableSpec.texts, .textsInLanguage, .termsInLanguage],
        spec ∈ TableSpec.all)
    have hrun := (hassured.frame hasks hsound hsound.grows_refl).run hasks hsound hlags
    rcases hresult : (acquireTermIds ((Seeker.primaryOnly .primary).withAttempts limits.attempts)
      (typedTerms (rows.lost batch))).run Databases.handler databases with ⟨outcome, after⟩
    rw [hresult] at hrun
    cases outcome with
    | error failure => exact hrun
    | ok ids =>
        obtain ⟨-, hids, hsound', hgrows⟩ := hrun
        refine ⟨hsound', forall₂_replaced (fun acquired hmem hacquired => ?_) ?_⟩
        · exact hgrows.leadsTo (hwhole acquired hmem hacquired)
        · exact List.forall₂_map_left_iff.1 hids

theorem recovers_finalize_of_lags (hsound : databases.primary.Sound)
    (htextual : databases.primary.Textual)
    (hlags : ∀ replica ∈ databases.replica, replica.Grows databases.primary) :
    Recovers batch ((finalize .primary limits batch).run Databases.handler databases) := by
  rw [finalize_eq]
  split
  · next hempty =>
    rw [List.isEmpty_iff.1 hempty]
    exact ⟨hsound, List.Forall₂.nil⟩
  · rw [Dialog.run_bind, run_readChains]
    cases hrows : readRows databases.primary batch with
    | error fault => exact trivial
    | ok rows =>
        refine recovers_restore hsound hlags fun acquired hmem hwhole => ?_
        exact ((readRows_eq_ok_iff.1 hrows).leadTo_iff hsound htextual hmem).1 hwhole

/-- The second phase gives each occurrence an id that leads to its term, whatever the replica is. -/
theorem recovers_finalize (hsound : databases.primary.Sound)
    (htextual : databases.primary.Textual) :
    Recovers batch ((finalize .primary limits batch).run Databases.handler databases) := by
  -- without a replica there are no rows but the primary's
  have halone : Recovers batch ((finalize .primary limits batch).run Databases.handler
      ⟨databases.primary, none, databases.kindIds⟩) :=
    recovers_finalize_of_lags hsound htextual fun _ hmem => nomatch hmem
  rw [Databases.run_onPrimary (asks_finalize_onPrimary limits batch)] at halone
  rcases hrun : (finalize .primary limits batch).run Databases.handler databases with
    ⟨outcome, after⟩
  rw [hrun] at halone
  cases outcome <;> exact halone

/-- Whatever became of the stores since the first phase: if the second phase, carried on alone,
gives ids, there is one for each occurrence of the document's terms, in their order; each leads on
the primary to the term of its occurrence; and two of them are equal exactly when the terms are. It
does not run out of attempts, and with any other replica it does the same. Of the columns of the
primary only those of texts have to hold what they should. -/
theorem finalize_recovers (read : Side) (kinds : KindStore) (limits : Limits) (document : Document)
    {start acquired found final : Databases} {batch : Batch} {outcome : Except Failure (List Int)}
    (hacquire : (acquire read .primary kinds limits document).run Databases.handler start =
      (.ok batch, acquired))
    (hsound : found.primary.Sound) (htextual : found.primary.Textual)
    (hfinalize : (finalize .primary limits batch).run Databases.handler found =
      (outcome, final)) :
    batch.map AcquiredTerm.term = document.truncatedTerms limits.textBytes ∧
    (∀ ids, outcome = .ok ids →
      ids.length = batch.length ∧
      (∀ (i : Nat) (a : AcquiredTerm) (x : Int), batch[i]? = some a → ids[i]? = some x →
        final.primary.LeadsTo x a.kindId a.term.language a.term.text) ∧
      ∀ (i j : Nat) (a b : AcquiredTerm) (x y : Int), batch[i]? = some a → batch[j]? = some b →
        ids[i]? = some x → ids[j]? = some y → (x = y ↔ a.Same b)) ∧
    (∀ table missing attempts, outcome ≠ .error (.exhausted table missing attempts)) ∧
    ∀ replica, (finalize .primary limits batch).run Databases.handler
      { found with replica := replica } = (outcome, { final with replica := replica }) := by
  have hany := Databases.run_onPrimary (asks_finalize_onPrimary limits batch) found
  have hrecovers : Recovers batch ((finalize .primary limits batch).run Databases.handler found) :=
    recovers_finalize hsound htextual
  rw [hfinalize] at hrecovers
  refine ⟨(yields_acquire read .primary kinds limits document).run hacquire, ?_, ?_, ?_⟩
  · rintro ids rfl
    obtain ⟨hsound', hids⟩ := hrecovers
    refine ⟨hids.length_eq.symm, fun i a x ha hx => ?_, fun i j a b x y ha hb hx hy => ?_⟩
    · refine (List.forall₂_iff_zip.1 hids).2 (List.mem_of_getElem? (i := i) ?_)
      rw [List.getElem?_zip_eq_some]
      exact ⟨ha, hx⟩
    · exact hids.id_eq_iff hsound' ha hb hx hy
  · rintro table missing attempts rfl
    exact hrecovers
  · intro replica
    have hsame := hany found.replica found.kindIds
    rw [hfinalize] at hsame
    have hkindIds : final.kindIds = found.kindIds := congrArg (fun result => result.2.kindIds) hsame
    rw [hany, hfinalize, hkindIds]

/-- Migrated tables without rows, with no replica of their own. -/
def emptyTables : Databases := ⟨Database.empty.migrate.database, none, .none⟩

theorem emptyTables_eq : emptyTables = ⟨.migrated, none, .none⟩ := by
  unfold emptyTables
  rw [Database.migrate_empty]

/-- A label in two languages, the second of which is an alias, too. -/
def sharedTerms : Document :=
  ((Document.empty.withLabel "de" "Berlin").withLabel "en" "Berlin").withAliases "en"
    ["Berlin", "Spree-Athen"]

/-- Three occurrences share a text, and two of these the text in English. -/
def sharedBatch : Batch :=
  [⟨⟨.label, "de", "Berlin"⟩, 1, 1⟩, ⟨⟨.label, "en", "Berlin"⟩, 1, 2⟩,
    ⟨⟨.aliases, "en", "Berlin"⟩, 2, 3⟩, ⟨⟨.aliases, "en", "Spree-Athen"⟩, 2, 4⟩]

/-- Of their rows only those of the first occurrence are left, and others have come to be under the
ids of the second and the third. -/
def reusedIds : Databases :=
  ⟨.stocked [(.texts, [[.text "Berlin"]]),
    (.textsInLanguage, [[.integer 1, .text "de"], [.integer 1, .text "fr"]]),
    (.termsInLanguage, [[.integer 1, .integer 1], [.integer 1, .integer 2],
      [.integer 2, .integer 1]])], none, .none⟩

/-- The second phase makes the rows that are missing, under new ids. -/
theorem finalize_recovers_reusedIds :
    ((finalize .primary .default sharedBatch).run Databases.handler reusedIds).1 =
      .ok [1, 4, 5, 6] ∧
    ∀ (i : Nat) (a : AcquiredTerm) (x : Int), sharedBatch[i]? = some a →
      [1, 4, 5, 6][i]? = some x →
      ((finalize .primary .default sharedBatch).run Databases.handler
        reusedIds).2.primary.LeadsTo x a.kindId a.term.language a.term.text := by
  obtain ⟨hsound, htyped⟩ : reusedIds.primary.Sound ∧ reusedIds.primary.Typed :=
    Database.sound_typed_stocked (by decide)
  have hbatch : ((acquire .replica .primary .inMemory .default sharedTerms).run Databases.handler
      ⟨.migrated, none, .none⟩).1 = .ok sharedBatch := by decide +kernel
  have hids : ((finalize .primary .default sharedBatch).run Databases.handler reusedIds).1 =
      .ok [1, 4, 5, 6] := by decide +kernel
  obtain ⟨-, hrecovers, -, -⟩ := finalize_recovers .replica .inMemory .default sharedTerms
    (Prod.fst_eq_iff.1 hbatch) hsound htyped.textual (Prod.fst_eq_iff.1 hids)
  exact ⟨hids, (hrecovers [1, 4, 5, 6] rfl).2.1⟩

end Acquisition

end TermStore
