import TermStore.Proofs.Retry

/-!
# Doing it again

A caller that is not sure whether its terms are stored may store them again: it gets the same ids,
and nothing is added. This does not depend on the replica, which may be any other database. Then the
first phase gives ids that the primary has never had, and the rows that the second phase makes for
them may complete other chains, so that the second time fewer chains are lost than the first time.
But the first phase asks for nothing that it has not found or made before, and the ids of the second
phase are determined by the contents alone that it leaves (`Restored.unique`).
-/

namespace TermStore

open Storage (TableSpec Database)

namespace Acquisition

variable {batch : Batch} {limits : Limits} {start after : Databases} {ids : List Int}

/-- The second phase is through when it has been carried on once. -/
theorem settled_finalize (hsound : start.primary.Sound) (htextual : start.primary.Textual)
    (hrun : (finalize .primary limits batch).run Databases.handler start = (.ok ids, after)) :
    (finalize .primary limits batch).run Databases.handler after = (.ok ids, after) :=
  resumed_finalize hsound htextual hrun (Dialog.passes_end hrun)

/-- Beyond the primary, the second phase calls nothing and remembers nothing. -/
theorem asks_finalize_properCall (limits : Limits) (batch : Batch) :
    (finalize .primary limits batch).Asks Request.ProperCall :=
  asks_finalize (fun _ _ => ⟨trivial, rfl⟩)
    (fun spec hspec _ => permits_properCall rfl spec hspec) limits batch

/-- Around a caller that writes nothing, the two phases are carried on one after the other. -/
theorem run_acquireAround_iff {read write : Side} {kinds : KindStore} {document : Document} :
    (acquireAround read write kinds limits document).run Databases.handler start =
        (.ok ids, after) ↔
      ∃ batch middle,
        (acquire read write kinds limits document).run Databases.handler start =
          (.ok batch, middle) ∧
        (finalize write limits batch).run Databases.handler middle = (.ok ids, after) :=
  Dialog.run_bind_eq_ok_iff

/-- What was stored once is found the second time, whatever the replica is. -/
theorem settled_acquireAround {kinds : KindStore} (hkinds : kinds.Standard) {read : Side}
    {document : Document} (hsound : start.primary.Sound) (htextual : start.primary.Textual)
    (hrun : (acquireAround read .primary kinds limits document).run Databases.handler start =
      (.ok ids, after)) :
    (acquireAround read .primary kinds limits document).run Databases.handler after =
      (.ok ids, after) := by
  obtain ⟨batch, middle, hacquire, hfinalize⟩ := run_acquireAround_iff.1 hrun
  have hasks := asks_acquire hkinds read limits document
  have hmiddle := hasks.onward_of_run hsound hacquire
  have hmiddleTextual := textual_run hasks hsound htextual
  rw [hacquire] at hmiddleTextual
  have hafter := (asks_finalize_proper limits batch).onward_of_run hmiddle.sound hfinalize
  have hkindIds := (asks_finalize_properCall limits batch).kindIds_of_run hfinalize
  have hagain := (repeats_acquire hkinds read limits document hsound hacquire).settled after
    hafter hkindIds
  exact run_acquireAround_iff.2
    ⟨batch, after, hagain, settled_finalize hmiddle.sound hmiddleTextual hfinalize⟩

/-- Idempotence with any replica: where both phases have a result, carrying them on again gives the
same ids and leaves both databases as they are; so does the second phase by itself, for any batch.
The text columns of the primary hold texts. -/
theorem again_changes_nothing {kinds : KindStore} (hkinds : kinds.Standard) (read : Side)
    (limits : Limits) {start : Databases} (hsound : start.primary.Sound)
    (htextual : start.primary.Textual) :
    (∀ document ids after,
      (acquireAround read .primary kinds limits document).run Databases.handler start =
          (.ok ids, after) →
        (acquireAround read .primary kinds limits document).run Databases.handler after =
          (.ok ids, after)) ∧
    ∀ batch ids after,
      (finalize .primary limits batch).run Databases.handler start = (.ok ids, after) →
        (finalize .primary limits batch).run Databases.handler after = (.ok ids, after) :=
  ⟨fun _ _ _ hrun => settled_acquireAround hkinds hsound htextual hrun,
    fun _ _ _ hrun => settled_finalize hsound htextual hrun⟩

/-- Empty tables, and a replica that has two labels, each in the language of the other. -/
def crossedReplica : Databases :=
  ⟨emptyTables.primary, some ((acquire .replica .primary .inMemory .default
    ((Document.empty.withLabel "de" "Hamburg").withLabel "en" "Berlin")).run
      Databases.handler emptyTables).2.primary, .none⟩

/-- Two labels. -/
def crossed : Document := (Document.empty.withLabel "de" "Berlin").withLabel "en" "Hamburg"

/-- Both labels are lost after the first phase, and neither is when all is done again. -/
theorem crossed_labels_again :
    ((acquireAround .replica .primary .inMemory .default crossed).run Databases.handler
      crossedReplica).1 = .ok [1, 2] ∧
    (acquireAround .replica .primary .inMemory .default crossed).run Databases.handler
        ((acquireAround .replica .primary .inMemory .default crossed).run Databases.handler
          crossedReplica).2 =
      (.ok [1, 2], ((acquireAround .replica .primary .inMemory .default crossed).run
        Databases.handler crossedReplica).2) := by
  have hstore : crossedReplica = ⟨.migrated, some ((acquire .replica .primary .inMemory .default
      ((Document.empty.withLabel "de" "Hamburg").withLabel "en" "Berlin")).run
        Databases.handler ⟨.migrated, none, .none⟩).2.primary, .none⟩ := by
    unfold crossedReplica
    rw [emptyTables_eq]
  have hfresh : crossedReplica.primary.Fresh := by
    rw [hstore]
    exact Database.fresh_migrated
  have hfirst : ((acquireAround .replica .primary .inMemory .default crossed).run
      Databases.handler crossedReplica).1 = .ok [1, 2] := by
    rw [hstore]
    decide +kernel
  exact ⟨hfirst, (again_changes_nothing .inMemory .replica .default hfresh.sound
    hfresh.typed.textual).1 crossed [1, 2] _ (Prod.fst_eq_iff.1 hfirst)⟩

end Acquisition

end TermStore
