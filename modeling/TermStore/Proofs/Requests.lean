import TermStore.Acquisition.Terms
import TermStore.Dialog.Databases
import TermStore.Proofs.Schema

/-!
# What dialogs ask for

`Dialog.Asks` says of a dialog that all its requests satisfy a condition, whatever the replies are.
Two conditions matter. Every request of both phases is *proper*: it inserts on the primary only,
and only records that their table takes, so a sound primary stays sound and keeps its rows. And
the second phase is *on the primary*: it asks nothing else, so nothing else has any influence on it.
-/

namespace TermStore

open Storage (TableSpec Table Record RecordIds Cell Database)

/-! ### Conditions on requests -/

/-- An insert is one on the primary of records that their table takes. -/
def Request.Proper : Request → Prop
  | .insert side spec records =>
    side = .primary ∧ spec ∈ TableSpec.all ∧ ∀ record ∈ records, spec.Takes record
  | _ => True

/-- A store is asked, and it is the primary. -/
def Request.OnPrimary : Request → Prop
  | .find side _ _ => side = .primary
  | .findIds side _ _ => side = .primary
  | .insert side _ _ => side = .primary
  | .chains side _ => side = .primary
  | .callerSection _ => False
  | .known => False
  | .remember _ => False

namespace Dialog

variable {α β : Type} {P : Request → Prop}

/-- All requests satisfy a condition, whatever the replies are. -/
def Asks (P : Request → Prop) : Dialog α → Prop
  | .done _ => True
  | .fail _ => True
  | .note _ next => next.Asks P
  | .ask request next => P request ∧ ∀ reply, (next reply).Asks P

/-- Dialogs in sequence ask what their parts ask. -/
theorem Asks.bind {d : Dialog α} {next : α → Dialog β} (h : d.Asks P)
    (hnext : ∀ result, (next result).Asks P) : (d.bind next).Asks P := by
  induction d with
  | done result => exact hnext result
  | fail => exact trivial
  | note event rest ih => exact ih h
  | ask r rest ih => exact ⟨h.1, fun reply => ih reply (h.2 reply)⟩

theorem asks_request {r : Request} (h : P r) : (request r).Asks P := ⟨h, fun _ => trivial⟩

theorem asks_ofExcept (outcome : Except Failure α) : (ofExcept outcome).Asks P := by
  cases outcome <;> exact trivial

/-- What each permitted request keeps is kept along a whole dialog. -/
theorem Asks.run_induction {World : Type} {handler : Handler World} {I : World → Prop}
    (hnote : ∀ event world, I world → I (handler.note event world))
    (hreply : ∀ r world, P r → I world → I (handler.reply r world).2)
    {d : Dialog α} (h : d.Asks P) {world : World} (hworld : I world) :
    I (d.run handler world).2 := by
  induction d generalizing world with
  | done => exact hworld
  | fail => exact hworld
  | note event rest ih => exact ih h (hnote event world hworld)
  | ask r rest ih =>
      have hafter := hreply r world h.1 hworld
      simp only [run]
      rcases hresult : handler.reply r world with ⟨outcome, after⟩
      rw [hresult] at hafter
      cases outcome with
      | ok reply => exact ih reply (h.2 reply) hafter
      | error failure => exact hafter

end Dialog

/-! ### Conditions on results -/

namespace Dialog

variable {α β : Type} {Q : α → Prop}

/-- All results satisfy a condition, whatever the replies are. -/
def Yields (Q : α → Prop) : Dialog α → Prop
  | .done result => Q result
  | .fail _ => True
  | .note _ next => next.Yields Q
  | .ask _ next => ∀ reply, (next reply).Yields Q

theorem yields_true (d : Dialog α) : d.Yields fun _ => True := by
  induction d with
  | done => exact trivial
  | fail => exact trivial
  | note event rest ih => exact ih
  | ask r rest ih => exact ih

/-- The second dialog may use what is known of the first one's result. -/
theorem Yields.bind {d : Dialog α} {next : α → Dialog β} {Q' : β → Prop} (h : d.Yields Q)
    (hnext : ∀ result, Q result → (next result).Yields Q') : (d.bind next).Yields Q' := by
  induction d with
  | done result => exact hnext result h
  | fail => exact trivial
  | note event rest ih => exact ih h
  | ask r rest ih => exact fun reply => ih reply (h reply)

/-- What holds of all results holds of that of a run, whoever replies. -/
theorem Yields.run {World : Type} {handler : Handler World} {d : Dialog α} (h : d.Yields Q)
    {before after : World} {result : α} (hrun : d.run handler before = (.ok result, after)) :
    Q result := by
  induction d generalizing before with
  | done value =>
      cases hrun
      exact h
  | fail => cases hrun
  | note event rest ih => exact ih h hrun
  | ask r rest ih =>
      simp only [Dialog.run] at hrun
      rcases hreply : handler.reply r before with ⟨outcome, middle⟩
      rw [hreply] at hrun
      cases outcome with
      | ok reply => exact ih reply (h reply) hrun
      | error failure => cases hrun

theorem yields_ofExcept {outcome : Except Failure α}
    (h : ∀ result, outcome = .ok result → Q result) :
    (ofExcept outcome).Yields Q := by
  cases outcome with
  | ok result => exact h result rfl
  | error => exact trivial

end Dialog

/-! ### The requests of the two phases -/

namespace Acquisition

variable {P : Request → Prop} {spec : TableSpec} {records : List Record}

/-- A condition on requests that the search for ids of some records never breaks. -/
structure Permits (P : Request → Prop) (s : Seeker) (spec : TableSpec) : Prop where
  replica : ∀ read ∈ s.replica, ∀ records, P (.find read spec records)
  find : ∀ records, P (.find s.primary spec records)
  insert : ∀ records, (∀ record ∈ records, spec.Takes record) → P (.insert s.primary spec records)

theorem takes_missing (h : ∀ record ∈ records, spec.Takes record) (found : RecordIds) :
    ∀ record ∈ missing records found, spec.Takes record :=
  fun record hmem => h record (List.mem_filter.1 hmem).1

theorem takes_eraseDups (h : ∀ record ∈ records, spec.Takes record) :
    ∀ record ∈ records.eraseDups, spec.Takes record :=
  fun record hmem => h record (List.mem_eraseDups.1 hmem)

/-- The search asks for look-ups and inserts on one store, and inserts only what it has looked for
and not found. -/
theorem asks_seekOnPrimary {s : Seeker} (hP : Permits P s spec) (left made : Nat)
    (htakes : ∀ record ∈ records, spec.Takes record) (found : RecordIds) :
    (seekOnPrimary s.primary spec left made records found).Asks P := by
  -- on the attempts that are left, as the search goes on with what is still missing
  induction left generalizing made records found with
  | zero =>
      unfold seekOnPrimary
      split
      · exact trivial
      · refine (Dialog.asks_request (hP.find records)).bind fun present => ?_
        show Dialog.Asks P (ite _ _ _)
        split <;> exact trivial
  | succ left ih =>
      unfold seekOnPrimary
      split
      · exact trivial
      · refine (Dialog.asks_request (hP.find records)).bind fun present => ?_
        have hmissing := takes_missing htakes present
        show Dialog.Asks P (ite _ _ _)
        split
        · exact trivial
        · exact (Dialog.asks_request (hP.insert _ hmissing)).bind fun added => ih _ hmissing _

/-- With a look-up on the replica in front, if there is one. -/
theorem asks_acquireIds {s : Seeker} (hP : Permits P s spec)
    (htakes : ∀ record ∈ records, spec.Takes record) : (acquireIds s spec records).Asks P := by
  have hwanted := takes_eraseDups htakes
  unfold acquireIds
  split
  · exact (asks_seekOnPrimary hP _ _ hwanted _).bind fun found => Dialog.asks_ofExcept _
  · next read hread =>
    show Dialog.Asks P (ite _ _ _)
    split
    · exact trivial
    · refine (Dialog.asks_request (hP.replica read hread _)).bind fun found => ?_
      exact (asks_seekOnPrimary hP _ _ (takes_missing hwanted found) _).bind
        fun found => Dialog.asks_ofExcept _

/-! ### Records of the three levels -/

/-- The records of the texts of some terms. -/
def textRecords (terms : List (Term × Int)) : List Record :=
  terms.map fun t => [Cell.text t.1.text]

/-- The records of some terms' texts in their languages. -/
def languageRecords (terms : List (Term × Int)) (texts : List (Record × Int)) : List Record :=
  (terms.zip texts).map fun (t, text) => [.integer text.2, .text t.1.language]

/-- The records of some terms. -/
def termRecords (terms : List (Term × Int)) (inLanguage : List (Record × Int)) : List Record :=
  (terms.zip inLanguage).map fun (t, middle) => [.integer middle.2, .integer t.2]

/-- The ids of terms are acquired on three levels, each over the ids of the one before. -/
theorem acquireTermIds_eq (s : Seeker) (terms : List (Term × Int)) :
    acquireTermIds s terms =
      (acquireIds s .texts (textRecords terms)).bind fun texts =>
      (acquireIds s .textsInLanguage (languageRecords terms texts)).bind fun inLanguage =>
      (acquireIds s .termsInLanguage (termRecords terms inLanguage)).bind fun found =>
      .done (found.map Prod.snd) := rfl

/-- The records of the three levels are records that their tables take, whatever ids the level
before has come to. -/
theorem takes_textRecords (terms : List (Term × Int)) :
    ∀ record ∈ textRecords terms, TableSpec.texts.Takes record := by
  intro record hmem
  obtain ⟨t, -, rfl⟩ := List.mem_map.1 hmem
  exact TableSpec.takes_texts t.1.text

theorem takes_languageRecords (terms : List (Term × Int)) (texts : List (Record × Int)) :
    ∀ record ∈ languageRecords terms texts, TableSpec.textsInLanguage.Takes record := by
  intro record hmem
  obtain ⟨⟨t, text⟩, -, rfl⟩ := List.mem_map.1 hmem
  exact TableSpec.takes_textsInLanguage text.2 t.1.language

theorem takes_termRecords (terms : List (Term × Int)) (inLanguage : List (Record × Int)) :
    ∀ record ∈ termRecords terms inLanguage, TableSpec.termsInLanguage.Takes record := by
  intro record hmem
  obtain ⟨⟨t, middle⟩, -, rfl⟩ := List.mem_map.1 hmem
  exact TableSpec.takes_termsInLanguage middle.2 t.2

theorem asks_acquireTermIds {s : Seeker} (hP : ∀ spec ∈ TableSpec.all, Permits P s spec)
    (terms : List (Term × Int)) : (acquireTermIds s terms).Asks P := by
  rw [acquireTermIds_eq]
  refine (asks_acquireIds (hP _ TableSpec.mem_all_texts) (takes_textRecords terms)).bind
    fun texts => ?_
  refine (asks_acquireIds (hP _ TableSpec.mem_all_textsInLanguage)
    (takes_languageRecords terms texts)).bind fun inLanguage => ?_
  exact (asks_acquireIds (hP _ TableSpec.mem_all_termsInLanguage)
    (takes_termRecords terms inLanguage)).bind fun found => trivial

/-- Ids are put together with the records that they were asked for. -/
theorem map_fst_assemble {found : RecordIds} {ids : List (Record × Int)}
    (h : assemble spec found records = .ok ids) : ids.map Prod.fst = records := by
  have hforall := mapM_eq_ok_iff.1 h
  clear h
  induction hforall with
  | nil => rfl
  | @cons record entry _ _ hentry _ ih =>
      rw [List.map_cons, ih]
      split at hentry
      · cases hentry
        rfl
      · cases hentry

/-- Where all records are found, their ids are put together. -/
theorem exists_assemble (spec : TableSpec) {found : RecordIds}
    (h : ∀ record ∈ records, ∃ id, found.get? record = some id) :
    ∃ ids, assemble spec found records = .ok ids ∧
      List.Forall₂ (fun record entry => entry.1 = record ∧ found.get? record = some entry.2)
        records ids := by
  induction records with
  | nil => exact ⟨[], rfl, .nil⟩
  | cons record rest ih =>
      obtain ⟨id, hid⟩ := h record List.mem_cons_self
      obtain ⟨ids, hids, hforall⟩ := ih fun other hother => h other (List.mem_cons_of_mem _ hother)
      refine ⟨(record, id) :: ids, ?_, .cons ⟨rfl, hid⟩ hforall⟩
      unfold assemble at hids ⊢
      rw [List.mapM_cons, hids, hid]
      rfl

/-- There is one id a record, in order. -/
theorem yields_acquireIds (s : Seeker) (spec : TableSpec) (records : List Record) :
    (acquireIds s spec records).Yields fun ids => ids.map Prod.fst = records := by
  have hassemble : ∀ found : RecordIds, (Dialog.ofExcept (assemble spec found records)).Yields
      fun ids => ids.map Prod.fst = records :=
    fun found => Dialog.yields_ofExcept fun _ => map_fst_assemble
  unfold acquireIds
  split
  · exact (Dialog.yields_true _).bind fun found _ => hassemble found
  · show Dialog.Yields _ (ite _ _ _)
    split
    · next hempty =>
      have hnil : records = [] := eq_nil_of_isEmpty_eraseDups hempty
      rw [hnil]
      rfl
    · refine (Dialog.yields_true _).bind fun found _ => ?_
      refine (Dialog.yields_true (Dialog.tell _)).bind fun _ _ => ?_
      exact (Dialog.yields_true _).bind fun found _ => hassemble found

/-- There is one id a term. -/
theorem yields_acquireTermIds (s : Seeker) (terms : List (Term × Int)) :
    (acquireTermIds s terms).Yields fun ids => ids.length = terms.length := by
  rw [acquireTermIds_eq]
  -- one id a record on each level, so the lists that are zipped are of one length
  refine (yields_acquireIds s _ _).bind fun texts htexts => ?_
  refine (yields_acquireIds s _ _).bind fun inLanguage hinLanguage => ?_
  refine (yields_acquireIds s _ _).bind fun found hfound => ?_
  replace htexts := congrArg List.length htexts
  replace hinLanguage := congrArg List.length hinLanguage
  replace hfound := congrArg List.length hfound
  rw [List.length_map] at htexts hinLanguage hfound
  rw [textRecords, List.length_map] at htexts
  rw [languageRecords, List.length_map, List.length_zip, htexts, Nat.min_self] at hinLanguage
  rw [termRecords, List.length_map, List.length_zip, hinLanguage, Nat.min_self] at hfound
  show (found.map Prod.snd).length = terms.length
  rw [List.length_map, hfound]

/-- A search that writes to the primary asks properly. -/
theorem permits_proper {s : Seeker} (hs : s.primary = .primary) :
    ∀ spec ∈ TableSpec.all, Permits Request.Proper s spec :=
  fun _ hspec => ⟨fun _ _ _ => trivial, fun _ => trivial, fun _ htakes => ⟨hs, hspec, htakes⟩⟩

/-- Without a replica to read from, all of its requests are on the primary. -/
theorem permits_onPrimary {s : Seeker} (hs : s.primary = .primary) (hreplica : s.replica = none)
    (spec : TableSpec) : Permits Request.OnPrimary s spec where
  replica read hread := by
    rw [hreplica] at hread
    cases hread
  find _ := hs
  insert _ _ := hs

end Acquisition

/-! ### Kinds -/

namespace KindStore

/-- The kind stores there are: ids numbered by the process, or ids in the table of the primary. -/
inductive Standard : KindStore → Prop
  | inMemory : Standard .inMemory
  | inTable (read : Side) : Standard (.inTable read .primary)

theorem takes_recordOf (kinds : List TermKind) :
    ∀ record ∈ kinds.map recordOf, TableSpec.kinds.Takes record := by
  intro record hmem
  obtain ⟨kind, -, rfl⟩ := List.mem_map.1 hmem
  exact TableSpec.takes_kinds kind.name

/-- Acquiring the ids of kinds asks properly: in memory there is nothing to insert. -/
theorem Standard.asks_acquire {store : KindStore} (h : store.Standard) (kinds : List TermKind) :
    (store.acquire kinds).Asks Request.Proper := by
  cases h with
  | inMemory => exact ⟨trivial, fun ids => ⟨trivial, fun _ => trivial⟩⟩
  | inTable read =>
      refine ⟨trivial, fun ids => ?_⟩
      show Dialog.Asks Request.Proper (ite _ _ _)
      split
      · exact trivial
      · refine (Acquisition.asks_acquireIds
          (Acquisition.permits_proper rfl _ TableSpec.mem_all_kinds)
          (takes_recordOf _)).bind fun acquired => ?_
        refine Dialog.Asks.bind ?_ fun _ => trivial
        refine ⟨trivial, fun ids => ⟨trivial, fun _ => ?_⟩⟩
        exact (Dialog.asks_ofExcept _).bind fun _ => trivial

end KindStore

/-! ### The two phases -/

namespace Acquisition

/-- The first phase asks properly, as the kinds and the terms do. -/
theorem asks_acquire {kinds : KindStore} (hkinds : kinds.Standard) (read : Side) (limits : Limits)
    (document : Document) : (acquire read .primary kinds limits document).Asks Request.Proper := by
  unfold acquire
  show Dialog.Asks Request.Proper (ite _ _ _)
  split
  · exact trivial
  · refine (hkinds.asks_acquire _).bind fun kindIds => ?_
    refine (Dialog.asks_ofExcept _).bind fun typed => ?_
    exact (asks_acquireTermIds (permits_proper rfl) typed).bind fun ids => trivial

theorem terms_of_mapM_withKindId {kindIds : KindIds} {terms : List Term}
    {typed : List (Term × Int)} (h : terms.mapM (withKindId kindIds) = .ok typed) :
    typed.map Prod.fst = terms := by
  have hforall := mapM_eq_ok_iff.1 h
  clear h
  induction hforall with
  | nil => rfl
  | @cons term t _ _ hterm _ ih =>
      rw [List.map_cons, ih]
      unfold withKindId at hterm
      split at hterm
      · cases hterm
        rfl
      · cases hterm

/-- A batch has the terms of its document, in their order. -/
theorem yields_acquire (read write : Side) (kinds : KindStore) (limits : Limits)
    (document : Document) : (acquire read write kinds limits document).Yields fun batch =>
      batch.map AcquiredTerm.term = document.truncatedTerms limits.textBytes := by
  unfold acquire
  show Dialog.Yields _ (ite _ _ _)
  split
  · next hempty =>
    rw [List.isEmpty_iff.1 hempty]
    rfl
  · refine (Dialog.yields_true _).bind fun kindIds _ => ?_
    refine (Dialog.yields_ofExcept fun _ => terms_of_mapM_withKindId).bind fun typed htyped => ?_
    refine (yields_acquireTermIds _ typed).bind fun ids hids => ?_
    show List.map AcquiredTerm.term (List.map _ (typed.zip ids)) = _
    rw [List.map_map, ← htyped]
    show List.map (fun pair : (Term × Int) × Int => pair.1.1) (typed.zip ids) = _
    rw [show (fun pair : (Term × Int) × Int => pair.1.1) = Prod.fst ∘ Prod.fst from rfl,
      ← List.map_map, List.map_fst_zip (Nat.le_of_eq hids.symm)]

/-- The occurrences of a batch whose ids do not lead to their terms. -/
def ChainRows.lost (rows : ChainRows) (batch : Batch) : Batch :=
  batch.filter fun acquired => !rows.leadTo acquired

/-- The terms of a batch with the ids of their kinds. -/
def typedTerms (batch : Batch) : List (Term × Int) :=
  batch.map fun acquired => (acquired.term, acquired.kindId)

/-- The second phase after its look at the chains. -/
def restore (write : Side) (limits : Limits) (batch : Batch) (rows : ChainRows) :
    Dialog (List Int) :=
  if (rows.lost batch).isEmpty then .done batch.ids
  else
    .note (.restoring (rows.lost batch).length)
      ((acquireTermIds ((Seeker.primaryOnly write).withAttempts limits.attempts)
        (typedTerms (rows.lost batch))).bind fun restored =>
        .done (replaced rows.leadTo batch restored))

/-- The second phase looks at the chains once, and restores what is lost. -/
theorem finalize_eq (write : Side) (limits : Limits) (batch : Batch) :
    finalize write limits batch =
      if batch.isEmpty then .done []
      else (readChains write batch).bind (restore write limits batch) := rfl

/-- The second phase asks for rows by their ids and for the ids of three levels. It is said for any
condition, as two of them are shown of it. -/
theorem asks_finalize {P : Request → Prop} (hread : ∀ spec ids, P (.findIds .primary spec ids))
    (hP : ∀ spec ∈ TableSpec.all, ∀ attempts,
      Permits P ((Seeker.primaryOnly .primary).withAttempts attempts) spec)
    (limits : Limits) (batch : Batch) : (finalize .primary limits batch).Asks P := by
  rw [finalize_eq]
  split
  · exact trivial
  · refine Dialog.Asks.bind ?_ fun rows => ?_
    · refine (Dialog.asks_request (hread _ _)).bind fun terms => ?_
      refine (Dialog.asks_request (hread _ _)).bind fun inLanguage => ?_
      exact (Dialog.asks_request (hread _ _)).bind fun texts => trivial
    · unfold restore
      split
      · exact trivial
      · exact (asks_acquireTermIds (fun spec hspec => hP spec hspec limits.attempts) _).bind
          fun restored => trivial

theorem asks_finalize_proper (limits : Limits) (batch : Batch) :
    (finalize .primary limits batch).Asks Request.Proper :=
  asks_finalize (fun _ _ => trivial) (fun spec hspec _ => permits_proper rfl spec hspec)
    limits batch

theorem asks_finalize_onPrimary (limits : Limits) (batch : Batch) :
    (finalize .primary limits batch).Asks Request.OnPrimary :=
  asks_finalize (fun _ _ => rfl) (fun spec _ _ => permits_onPrimary rfl rfl spec) limits batch

end Acquisition

/-! ### Replies of two databases -/

namespace Databases

variable {databases after : Databases} {r : Request}

@[simp] theorem handler_note (event : Event) (databases : Databases) :
    handler.note event databases = databases := rfl

/-- What is only read stays as it is, whatever comes of it. -/
theorem readOnly_snd {α : Type} (databases : Databases) (outcome : Except Storage.Fault α) :
    (databases.readOnly outcome).2 = databases := by
  cases outcome <;> rfl

@[simp] theorem reply_find_snd (side : Side) (spec : TableSpec) (records : List Record)
    (databases : Databases) : (reply (.find side spec records) databases).2 = databases :=
  readOnly_snd databases _

@[simp] theorem reply_findIds_snd (side : Side) (spec : TableSpec) (ids : List Int)
    (databases : Databases) : (reply (.findIds side spec ids) databases).2 = databases :=
  readOnly_snd databases _

@[simp] theorem reply_chains_snd (side : Side) (ids : List Int) (databases : Databases) :
    (reply (.chains side ids) databases).2 = databases :=
  readOnly_snd databases _

/-- What the reply to a proper request changes: nothing of the replica, and on the primary nothing
but an insert. -/
theorem reply_cases (hr : r.Proper) (hsound : databases.primary.Sound) :
    (reply r databases).2.replica = databases.replica ∧
      ((reply r databases).2.primary = databases.primary ∨
        ∃ spec ∈ TableSpec.all, ∃ records, (∀ record ∈ records, spec.Takes record) ∧
          databases.primary.Gains spec records (reply r databases).2.primary) := by
  cases r with
  | find side spec records => simp
  | findIds side spec ids => simp
  | chains side ids => simp
  | callerSection ids => exact ⟨rfl, Or.inl rfl⟩
  | known => exact ⟨rfl, Or.inl rfl⟩
  | remember ids => exact ⟨rfl, Or.inl rfl⟩
  -- the only request that changes anything
  | insert side spec records =>
      obtain ⟨rfl, hspec, htakes⟩ := hr
      cases hinsert : databases.primary.insertIgnoring spec records with
      | error fault =>
          simp only [reply, database, hinsert, true_or, and_self]
      | ok result =>
          obtain ⟨added, db⟩ := result
          simp only [reply, database, hinsert, setDatabase]
          exact ⟨trivial, Or.inr ⟨spec, hspec, records, htakes, hsound.gains hspec htakes hinsert⟩⟩

/-- A proper request that is not on the primary leaves it as it is. -/
theorem reply_elsewhere (hr : r.Proper) (hnot : ¬ r.OnPrimary) :
    (reply r databases).2.primary = databases.primary := by
  cases r with
  | find side spec records => simp
  | findIds side spec ids => simp
  | chains side ids => simp
  | insert side spec records => exact absurd hr.1 hnot
  | callerSection ids => rfl
  | known => rfl
  | remember ids => rfl

/-- Only the primary has any influence on the reply to a request on it. -/
theorem reply_onPrimary (hr : r.OnPrimary) (replica : Option Database) (kindIds : KindIds) :
    reply r ⟨databases.primary, replica, kindIds⟩ =
      ((reply r databases).1, ⟨(reply r databases).2.primary, replica, kindIds⟩) := by
  have hread : ∀ {α : Type} (outcome : Except Storage.Fault α),
      (⟨databases.primary, replica, kindIds⟩ : Databases).readOnly outcome =
        ((databases.readOnly outcome).1,
          ⟨(databases.readOnly outcome).2.primary, replica, kindIds⟩) := by
    intro α outcome
    cases outcome <;> rfl
  cases r with
  | find side spec records =>
      obtain rfl : side = .primary := hr
      exact hread _
  | findIds side spec ids =>
      obtain rfl : side = .primary := hr
      exact hread _
  | chains side ids =>
      obtain rfl : side = .primary := hr
      exact hread _
  | callerSection ids => exact hr.elim
  | known => exact hr.elim
  | remember ids => exact hr.elim
  | insert side spec records =>
      obtain rfl : side = .primary := hr
      cases hinsert : databases.primary.insertIgnoring spec records with
      | error fault => simp only [reply, database, hinsert]
      | ok result =>
          obtain ⟨added, db⟩ := result
          simp only [reply, database, hinsert, setDatabase]

/-- Only the primary has any influence on a dialog that asks nothing else. -/
theorem run_onPrimary {α : Type} {d : Dialog α} (h : d.Asks Request.OnPrimary)
    (databases : Databases) (replica : Option Database) (kindIds : KindIds) :
    d.run handler ⟨databases.primary, replica, kindIds⟩ =
      ((d.run handler databases).1, ⟨(d.run handler databases).2.primary, replica, kindIds⟩) := by
  induction d generalizing databases with
  | done => rfl
  | fail => rfl
  | note event rest ih => exact ih h databases
  | ask r rest ih =>
      simp only [Dialog.run, handler, reply_onPrimary h.1 replica kindIds]
      rcases reply r databases with ⟨outcome, after⟩
      cases outcome with
      | ok reply => exact ih reply (h.2 reply) after
      | error failure => rfl

end Databases

end TermStore
