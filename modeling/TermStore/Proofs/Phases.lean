import TermStore.Proofs.Company
import TermStore.Proofs.Reading

/-!
# The two phases in company

What the work on ids assures while others insert rows: the search for the ids of some records gives
each of them the id of its row, with one insert at most; the three levels together give each term an
id that leads to it; and the second phase, if all ids of its batch lead to their terms, gives them
back and inserts nothing. None of this ever runs out of attempts: after the first insert a row
matches each of the records, and the next look-up either finds all of them or fails to read one.
-/

namespace TermStore

open Storage (TableSpec Table Record RecordIds Cell Database)

/-- Did the work end in something else than exhaustion? -/
def Failure.NotExhausted : Failure → Prop
  | .exhausted .. => False
  | _ => True

namespace Acquisition

variable {spec : TableSpec} {records : List Record} {allowed : List TableSpec}
  {databases : Databases}

/-! ### One level -/

/-- The rows of the records found hold them. -/
def Held (spec : TableSpec) (found : RecordIds) (db : Database) : Prop :=
  ∀ record id, found.get? record = some id → db.Has spec id record

theorem Held.grows {found : RecordIds} {db db' : Database} (h : Held spec found db)
    (hspec : spec ∈ TableSpec.all) (hgrows : db.Grows db') : Held spec found db' :=
  fun record id hget => hgrows.has hspec (h record id hget)

theorem held_empty (db : Database) : Held spec .empty db :=
  fun _ _ hget => absurd hget (by simp)

/-- Found here or found there, a record is held on the primary. -/
theorem Held.union {found present : RecordIds} {db : Database} (h : Held spec found db)
    (hpresent : Held spec present db) : Held spec (found.union present) db := by
  intro record id hget
  rw [SortedMap.get?_union] at hget
  rcases Option.or_eq_some_iff.1 hget with hget | ⟨-, hget⟩
  · exact hpresent record id hget
  · exact h record id hget

/-- Are the records that are needed, and those that were found before, all found? -/
def Complete (needed : List Record) (before found : RecordIds) : Prop :=
  ∀ record, (record ∈ needed ∨ before.contains record = true) → found.contains record = true

theorem contains_union {m n : RecordIds} {record : Record} :
    (m.union n).contains record = true ↔ m.contains record = true ∨ n.contains record = true := by
  unfold SortedMap.contains
  rw [SortedMap.get?_union]
  cases n.get? record <;> simp

/-- What is found in two steps: the records of the first one, and then those that it missed. -/
theorem Complete.step {needed : List Record} {found present after : RecordIds}
    (h : Complete (missing needed present) (found.union present) after) :
    Complete needed found after := by
  intro record hrecord
  by_cases hpresent : present.contains record = true
  · exact h record (Or.inr (contains_union.2 (Or.inr hpresent)))
  · rcases hrecord with hneeded | hfound
    · refine h record (Or.inl (List.mem_filter.2 ⟨hneeded, ?_⟩))
      simpa using hpresent
    · exact h record (Or.inr (contains_union.2 (Or.inl hfound)))

/-- Where nothing more is needed, all has been found. -/
theorem complete_of_isEmpty {needed : List Record} {found : RecordIds}
    (hempty : needed.isEmpty = true) : Complete needed found found := by
  intro record hrecord
  rcases hrecord with hneeded | hfound
  · rw [List.isEmpty_iff.1 hempty] at hneeded
    cases hneeded
  · exact hfound

/-- What a look-up finds is held on the primary. -/
theorem held_of_find {now : Databases} (hnow : databases.Meanwhile now) (side : Side)
    (hspec : spec ∈ TableSpec.all) (htakes : ∀ record ∈ records, spec.Takes record)
    {found : RecordIds} (hfind : (now.database side).find spec records = .ok found) :
    Held spec found now.primary := by
  intro record id hget
  have hhas := (((hnow.database_sound side).find_iff hspec htakes hfind).1 hget).2
  exact (hnow.database_grows side).has hspec hhas

/-- Where rows match all needed records, one look-up on the primary finds them. -/
theorem assures_seekOnPrimary_of_matches {left made : Nat} {needed : List Record}
    {found : RecordIds} (hspec : spec ∈ TableSpec.all)
    (htakes : ∀ record ∈ needed, spec.Takes record)
    (hmatches : ∀ record ∈ needed, databases.primary.Matches spec record)
    (hheld : Held spec found databases.primary) :
    (seekOnPrimary .primary spec left made needed found).Assures Failure.NotExhausted
      (fun after allowed' now =>
        allowed' = allowed ∧ Held spec after now.primary ∧ Complete needed found after)
      allowed databases := by
  unfold seekOnPrimary
  split
  · next hempty => exact ⟨rfl, hheld, complete_of_isEmpty hempty⟩
  · refine Dialog.assures_find (fun _ => trivial) fun now hnow present hfind => ?_
    have hnone : missing needed present = [] := by
      refine List.filter_eq_nil_iff.2 fun record hrecord => ?_
      have hstill := hnow.grows.matches hspec (hmatches record hrecord)
      obtain ⟨id, hget⟩ := hnow.sound.exists_of_matches hspec htakes hfind hrecord hstill
      simpa using SortedMap.contains_iff.2 ⟨id, hget⟩
    have hunion := (hheld.grows hspec hnow.grows).union
      (held_of_find hnow .primary hspec htakes hfind)
    rw [hnone]
    exact ⟨rfl, hunion, Complete.step (complete_of_isEmpty (by rw [hnone]; rfl))⟩

/-- A search on the primary finds all needed records, with one insert at most. -/
theorem assures_seekOnPrimary {left made : Nat} {needed : List Record} {found : RecordIds}
    (hspec : spec ∈ TableSpec.all) (htakes : ∀ record ∈ needed, spec.Takes record)
    (hallowed : spec ∈ allowed) (hheld : Held spec found databases.primary) :
    (seekOnPrimary .primary spec (left + 1) made needed found).Assures Failure.NotExhausted
      (fun after allowed' now => (allowed' = allowed ∨ allowed' = allowed.erase spec) ∧
        Held spec after now.primary ∧ Complete needed found after)
      allowed databases := by
  unfold seekOnPrimary
  split
  · next hempty => exact ⟨Or.inl rfl, hheld, complete_of_isEmpty hempty⟩
  · refine Dialog.assures_find (fun _ => trivial) fun now hnow present hfind => ?_
    have hunion := (hheld.grows hspec hnow.grows).union
      (held_of_find hnow .primary hspec htakes hfind)
    show Dialog.Assures _ _ (ite _ _ _) _ _
    split
    · next hempty => exact ⟨Or.inl rfl, hunion, Complete.step (complete_of_isEmpty hempty)⟩
    · have hmissing := takes_missing htakes present
      refine Dialog.assures_insert (fun _ => trivial) hallowed hspec hmissing
        fun added after hsound hgrows hmatches => ?_
      refine (assures_seekOnPrimary_of_matches hspec hmissing hmatches
        (hunion.grows hspec hgrows)).mono fun after allowed' now hpost => ?_
      exact ⟨Or.inr hpost.1, hpost.2.1, hpost.2.2.step⟩

/-- The ids of some records, each that of its row. -/
def Identified (spec : TableSpec) (records : List Record) (ids : List (Record × Int))
    (db : Database) : Prop :=
  List.Forall₂ (fun record found => db.Has spec found.2 record) records ids

theorem Identified.grows {ids : List (Record × Int)} {db db' : Database}
    (h : Identified spec records ids db) (hspec : spec ∈ TableSpec.all) (hgrows : db.Grows db') :
    Identified spec records ids db' :=
  List.Forall₂.imp (fun _ _ hhas => hgrows.has hspec hhas) h

/-- Where all records are found in rows that hold them, these are the rows of their ids. -/
theorem exists_identified {found : RecordIds} {db : Database} (hheld : Held spec found db)
    (hall : ∀ record ∈ records, found.contains record = true) :
    ∃ ids, assemble spec found records = .ok ids ∧ Identified spec records ids db := by
  obtain ⟨ids, hids, hforall⟩ := exists_assemble spec fun record hrecord =>
    SortedMap.contains_iff.1 (hall record hrecord)
  exact ⟨ids, hids, hforall.imp fun record entry hentry => hheld record entry.2 hentry.2⟩

/-- What is assured of the ids of some records. -/
def IdsAssured (spec : TableSpec) (records : List Record) (allowed : List TableSpec)
    (ids : List (Record × Int)) (left : List TableSpec) (now : Databases) : Prop :=
  (left = allowed ∨ left = allowed.erase spec) ∧ Identified spec records ids now.primary

section Level

variable {s : Seeker} (hprimary : s.primary = .primary) (hattempts : 1 ≤ s.attempts)
  (hspec : spec ∈ TableSpec.all) (hallowed : spec ∈ allowed)

include hprimary hattempts hspec hallowed

/-- A search on the primary for all records that were not found before gives all their ids. -/
theorem assures_search {needed : List Record} {found : RecordIds}
    (htakes : ∀ record ∈ needed, spec.Takes record) (hsound : databases.primary.Sound)
    (hheld : Held spec found databases.primary)
    (hall : ∀ record ∈ records, record ∈ needed ∨ found.contains record = true) :
    ((seekOnPrimary s.primary spec s.attempts 0 needed found).bind fun found =>
      Dialog.ofExcept (assemble spec found records)).Assures Failure.NotExhausted
        (IdsAssured spec records allowed) allowed databases := by
  obtain ⟨attempts, hcount⟩ : ∃ attempts, s.attempts = attempts + 1 :=
    Nat.exists_eq_add_of_le' hattempts
  have hasks : (seekOnPrimary s.primary spec s.attempts 0 needed found).Asks Request.Proper :=
    asks_seekOnPrimary (permits_proper hprimary spec hspec) _ _ htakes found
  rw [hprimary, hcount] at hasks ⊢
  refine (assures_seekOnPrimary hspec htakes hallowed hheld).bind hasks hsound ?_
  intro after left now hpost _ _
  obtain ⟨hleft, hheld, hcomplete⟩ := hpost
  obtain ⟨ids, hids, hidentified⟩ := exists_identified hheld fun record hrecord =>
    hcomplete record (hall record hrecord)
  rw [hids]
  exact ⟨hleft, hidentified⟩

/-- Each record gets the id of its row, with one insert at most. -/
theorem assures_acquireIds (htakes : ∀ record ∈ records, spec.Takes record)
    (hsound : databases.primary.Sound) :
    (acquireIds s spec records).Assures Failure.NotExhausted
      (IdsAssured spec records allowed) allowed databases := by
  have hwanted := takes_eraseDups htakes
  unfold acquireIds
  split
  · refine assures_search hprimary hattempts hspec hallowed hwanted hsound (held_empty _) ?_
    exact fun record hrecord => Or.inl (List.mem_eraseDups.2 hrecord)
  · show Dialog.Assures _ _ (ite _ _ _) _ _
    split
    · next hempty =>
      have hnil : records = [] := eq_nil_of_isEmpty_eraseDups hempty
      rw [hnil]
      exact ⟨Or.inl rfl, List.Forall₂.nil⟩
    · refine Dialog.assures_find (fun _ => trivial) fun now hnow found hfind => ?_
      refine assures_search hprimary hattempts hspec hallowed (takes_missing hwanted found)
        hnow.sound (held_of_find hnow _ hspec hwanted hfind) fun record hrecord => ?_
      by_cases hfound : found.contains record = true
      · exact Or.inr hfound
      · refine Or.inl (List.mem_filter.2 ⟨List.mem_eraseDups.2 hrecord, ?_⟩)
        simpa using hfound

end Level

/-! ### Three levels -/

/-- What holds of the elements of two lists, and of their pairs and a third one, side by side. -/
theorem forall₂_of_zip {α β γ : Type} {R : α → β → Prop} {S : α × β → γ → Prop} {xs : List α}
    {ys : List β} {zs : List γ} (h : List.Forall₂ R xs ys) (h' : List.Forall₂ S (xs.zip ys) zs) :
    List.Forall₂ (fun x z => ∃ y, R x y ∧ S (x, y) z) xs zs := by
  induction h generalizing zs with
  | nil =>
      cases h'
      exact List.Forall₂.nil
  | cons hxy _ ih =>
      obtain ⟨z, zs, hz, hrest, rfl⟩ := List.forall₂_cons_left_iff.1 h'
      exact List.Forall₂.cons ⟨_, hxy, hz⟩ (ih hrest)

/-- Each term with the id of its kind has an id that leads to it. -/
def AllLead (db : Database) (terms : List (Term × Int)) (ids : List Int) : Prop :=
  List.Forall₂ (fun t id => db.LeadsTo id t.2 t.1.language t.1.text) terms ids

/-- Rows of the three levels, each over the one before, lead from the ids of the terms to their
texts. The three lists go along with that of the terms, so this is said term by term. -/
theorem allLead_of_identified {db : Database} {terms : List (Term × Int)}
    {texts inLanguage found : List (Record × Int)}
    (htexts : Identified .texts (textRecords terms) texts db)
    (hinLanguage : Identified .textsInLanguage (languageRecords terms texts) inLanguage db)
    (hfound : Identified .termsInLanguage (termRecords terms inLanguage) found db) :
    AllLead db terms (found.map Prod.snd) := by
  unfold Identified textRecords at htexts
  unfold Identified languageRecords at hinLanguage
  unfold Identified termRecords at hfound
  rw [List.forall₂_map_left_iff] at htexts hinLanguage hfound
  unfold AllLead
  rw [List.forall₂_map_right_iff]
  refine List.Forall₂.imp (fun t entry hentry => ?_)
    (forall₂_of_zip (forall₂_of_zip htexts hinLanguage) hfound)
  obtain ⟨middle, ⟨text, htext, hmiddle⟩, hterm⟩ := hentry
  exact ⟨middle.2, text.2, hterm, hmiddle, htext⟩

/-- Each term gets an id that leads to it, with one insert a table at most. -/
theorem assures_acquireTermIds {s : Seeker} (hprimary : s.primary = .primary)
    (hattempts : 1 ≤ s.attempts) (terms : List (Term × Int)) (hsound : databases.primary.Sound)
    (hallowed : ∀ spec ∈ [TableSpec.texts, .textsInLanguage, .termsInLanguage], spec ∈ allowed) :
    (acquireTermIds s terms).Assures Failure.NotExhausted
      (fun ids _ now => AllLead now.primary terms ids) allowed databases := by
  have hpermits := permits_proper hprimary
  -- an insert into one table leaves the others allowed
  have hkept : ∀ (other : TableSpec) {spec : TableSpec} {before after : List TableSpec},
      other ≠ spec → (after = before ∨ after = before.erase spec) → other ∈ before →
      other ∈ after := by
    intro other spec before after hne hafter hmem
    rcases hafter with rfl | rfl
    · exact hmem
    · exact (List.mem_erase_of_ne hne).2 hmem
  rw [acquireTermIds_eq]
  refine (assures_acquireIds hprimary hattempts TableSpec.mem_all_texts (hallowed _ (by decide))
    (takes_textRecords terms) hsound).bind (asks_acquireIds (hpermits _ TableSpec.mem_all_texts)
    (takes_textRecords terms)) hsound ?_
  intro texts left₁ now₁ htexts hsound₁ _
  have hmiddle := hkept .textsInLanguage (by decide) htexts.1 (hallowed _ (by decide))
  have hterm := hkept .termsInLanguage (by decide) htexts.1 (hallowed _ (by decide))
  refine (assures_acquireIds hprimary hattempts TableSpec.mem_all_textsInLanguage hmiddle
    (takes_languageRecords terms texts) hsound₁).bind
    (asks_acquireIds (hpermits _ TableSpec.mem_all_textsInLanguage)
      (takes_languageRecords terms texts)) hsound₁ ?_
  intro inLanguage left₂ now₂ hinLanguage hsound₂ hgrows₂
  have hterm := hkept .termsInLanguage (by decide) hinLanguage.1 hterm
  refine (assures_acquireIds hprimary hattempts TableSpec.mem_all_termsInLanguage hterm
    (takes_termRecords terms inLanguage) hsound₂).bind
    (asks_acquireIds (hpermits _ TableSpec.mem_all_termsInLanguage)
      (takes_termRecords terms inLanguage)) hsound₂ ?_
  intro found left₃ now₃ hfound _ hgrows₃
  exact allLead_of_identified
    (htexts.2.grows TableSpec.mem_all_texts (hgrows₂.trans hgrows₃))
    (hinLanguage.2.grows TableSpec.mem_all_textsInLanguage hgrows₃) hfound.2

end Acquisition

/-! ### Kinds -/

namespace KindStore

open Acquisition

/-- The only names that cannot be learned are those of no kind. -/
theorem exists_unknownKind_of_learned {entries : List (Record × Int)} {ids ids' : KindIds}
    {failure : Failure} (h : learned ids entries = (ids', .error failure)) :
    ∃ name, failure = .unknownKind name := by
  induction entries generalizing ids with
  | nil => cases h
  | cons entry rest ih =>
      rw [learned] at h
      cases hkind : kindOf entry.1 with
      | ok kind =>
          simp only [hkind] at h
          exact ih h
      | error fault =>
          simp only [hkind, Prod.mk.injEq, Except.error.injEq] at h
          obtain ⟨-, rfl⟩ := h
          unfold kindOf at hkind
          split at hkind
          · unfold TermKind.ofName at hkind
            split at hkind
            · cases hkind
            · cases hkind
              exact ⟨_, rfl⟩
          · cases hkind
            exact ⟨_, rfl⟩

theorem notExhausted_of_learned {entries : List (Record × Int)} {ids ids' : KindIds}
    {failure : Failure} (h : learned ids entries = (ids', .error failure)) :
    failure.NotExhausted := by
  obtain ⟨name, rfl⟩ := exists_unknownKind_of_learned h
  exact trivial

/-- A kind store inserts into the table of kinds only, and only once. -/
theorem Standard.assures_acquire {store : KindStore} (h : store.Standard) (kinds : List TermKind)
    {allowed : List TableSpec} {databases : Databases} (hallowed : TableSpec.kinds ∈ allowed) :
    (store.acquire kinds).Assures Failure.NotExhausted
      (fun _ left _ => left = allowed ∨ left = allowed.erase .kinds) allowed databases := by
  cases h with
  | inMemory => exact ⟨trivial, fun now hnow => ⟨trivial, fun _ _ => Or.inl rfl⟩⟩
  | inTable read =>
      refine ⟨trivial, fun now hnow => ?_⟩
      show Dialog.Assures _ _ (ite _ _ _) _ _
      split
      · exact Or.inl rfl
      · have htakes := takes_recordOf (unknownKinds now.kindIds kinds)
        refine (assures_acquireIds (s := .replicaFirst read .primary) rfl
          (show 1 ≤ Seeker.defaultAttempts by decide)
          TableSpec.mem_all_kinds hallowed htakes hnow.sound).bind
          (asks_acquireIds (permits_proper rfl _ TableSpec.mem_all_kinds) htakes) hnow.sound ?_
        intro acquired left after hacquired _ _
        refine ⟨trivial, fun now' _ => ⟨trivial, fun now'' _ => ?_⟩⟩
        show Dialog.Assures _ _ ((Dialog.bind (Dialog.ofExcept _) _).bind _) _ _
        cases hlearned : learned now'.kindIds acquired with
        | mk ids outcome =>
            cases outcome with
            | ok _ => exact hacquired.1
            | error failure => exact notExhausted_of_learned hlearned

end KindStore

/-! ### The first phase -/

namespace Acquisition

variable {databases : Databases}

/-- The batch of the first phase lists these ids with their terms. -/
theorem leads_of_allLead {db : Database} {typed : List (Term × Int)} {ids : List Int}
    (h : AllLead db typed ids) :
    Batch.Leads ((typed.zip ids).map fun (t, id) => ⟨t.1, t.2, id⟩) db := by
  intro acquired hmem
  obtain ⟨⟨t, id⟩, hpair, rfl⟩ := List.mem_map.1 hmem
  exact (List.forall₂_iff_zip.1 h).2 hpair

theorem notExhausted_of_withKindId {kindIds : KindIds} {terms : List Term} {failure : Failure}
    (h : terms.mapM (withKindId kindIds) = .error failure) : failure.NotExhausted := by
  obtain ⟨term, -, hterm⟩ := exists_of_mapM_eq_error h
  unfold withKindId at hterm
  split at hterm
  · cases hterm
  · cases hterm
    exact trivial

/-- In company, the first phase gives each term of a document an id that leads to it, and inserts
into each table once at most. -/
theorem assures_acquire {kinds : KindStore} (hkinds : kinds.Standard) (read : Side)
    (limits : Limits) (document : Document) (hsound : databases.primary.Sound) :
    (acquire read .primary kinds limits document).Assures Failure.NotExhausted
      (fun batch _ now => batch.Leads now.primary ∧
        batch.map AcquiredTerm.term = document.truncatedTerms limits.textBytes)
      TableSpec.all databases := by
  refine Dialog.Assures.and_yields (yields_acquire read .primary kinds limits document) ?_
  unfold acquire
  show Dialog.Assures _ _ (ite _ _ _) _ _
  split
  · exact fun _ hmem => absurd hmem List.not_mem_nil
  · refine (hkinds.assures_acquire _ TableSpec.mem_all_kinds).bind
      (hkinds.asks_acquire _) hsound ?_
    intro kindIds left now hleft hsound _
    have hlevels : ∀ spec ∈ [TableSpec.texts, .textsInLanguage, .termsInLanguage],
        spec ∈ left := by
      rcases hleft with rfl | rfl <;> decide
    show Dialog.Assures _ _ ((Dialog.ofExcept _).bind _) _ _
    cases htyped : (document.truncatedTerms limits.textBytes).mapM (withKindId kindIds) with
    | error failure => exact notExhausted_of_withKindId htyped
    | ok typed =>
        refine (assures_acquireTermIds (s := (Seeker.replicaFirst read .primary).withAttempts _)
          rfl (Nat.le_max_left 1 _) typed hsound hlevels).bind
          (asks_acquireTermIds (permits_proper rfl) typed) hsound ?_
        intro ids _ after hids _ _
        exact leads_of_allLead hids

/-! ### The second phase -/

/-- In company, the second phase gives the ids of a batch back and inserts nothing if all of them
lead to their terms. -/
theorem assures_finalize (limits : Limits) {batch : Batch}
    (hleads : batch.Leads databases.primary) :
    (finalize .primary limits batch).Assures (fun _ => False)
      (fun ids _ _ => ids = batch.ids) [] databases := by
  rw [finalize_eq]
  split
  · next hempty =>
    rw [List.isEmpty_iff.1 hempty]
    rfl
  · refine Dialog.assures_findIds TableSpec.mem_all_termsInLanguage (fun id hid => ?_)
      fun now₁ hnow₁ terms hterms => ?_
    · obtain ⟨acquired, hmem, rfl⟩ := List.mem_map.1 (mem_idSet.1 hid)
      obtain ⟨middleId, textId, hterm, -, -⟩ := hleads acquired hmem
      exact ⟨_, hterm⟩
    have hleads₁ := hleads.grows hnow₁.grows
    have hmiddle₁ : ∀ id ∈ firstIds terms, IsMiddle batch now₁.primary id :=
      fun id hid => isMiddle_of_mem_firstIds hnow₁.sound hleads₁ hterms hid
    refine Dialog.assures_findIds TableSpec.mem_all_textsInLanguage (fun id hid => ?_)
      fun now₂ hnow₂ inLanguage hinLanguage => ?_
    · obtain ⟨acquired, -, textId, hmiddle, -⟩ := hmiddle₁ id hid
      exact ⟨_, hmiddle⟩
    have hmiddle₂ : ∀ id ∈ firstIds terms, IsMiddle batch now₂.primary id :=
      fun id hid => (hmiddle₁ id hid).grows hnow₂.grows
    refine Dialog.assures_findIds TableSpec.mem_all_texts (fun id hid => ?_)
      fun now₃ hnow₃ texts htexts => ?_
    · exact exists_text_of_mem_firstIds hnow₂.sound hmiddle₂ hinLanguage hid
    -- all rows of all chains were read, so none is lost
    have hrows : ReadFrom batch now₁.primary now₂.primary now₃.primary ⟨terms, inLanguage, texts⟩ :=
      ⟨hterms, hinLanguage, htexts⟩
    have hnone : ChainRows.lost ⟨terms, inLanguage, texts⟩ batch = [] := by
      refine List.filter_eq_nil_iff.2 fun acquired hmem => ?_
      obtain ⟨middleId, textId, hterm, hmiddle, htext⟩ := hleads₁ acquired hmem
      have hwhole := hrows.leadTo_of_has hnow₁.sound hnow₂.sound hnow₃.sound hmem hterm
        (hnow₂.grows.has TableSpec.mem_all_textsInLanguage hmiddle)
        ((hnow₂.grows.trans hnow₃.grows).has TableSpec.mem_all_texts htext)
      simpa using hwhole
    show Dialog.Assures _ _ (restore .primary limits batch ⟨terms, inLanguage, texts⟩) _ _
    unfold restore
    rw [hnone]
    rfl

end Acquisition

end TermStore
