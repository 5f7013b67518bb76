import TermStore.Proofs.Documents
import TermStore.Proofs.Kinds
import TermStore.Proofs.Leftovers
import TermStore.Proofs.Recovery

/-!
# What the first phase adds

With a replica that has no rows but those of the primary, the first phase adds exactly what is
missing: on each of the three levels one row for each distinct record that had none, and no row
besides (`Database.Adds`). The levels are looked at one by one, each changes its own table only. The
ids of the batch lead to its terms then, so the second phase has nothing to do.
-/

namespace TermStore

open Storage (TableSpec Table Record Cell Database Values foldName)

/-! ### Rows that are added -/

namespace Storage

/-- A table gains one row for each wanted record that no row held, and no other rows. -/
structure Table.Adds (spec : TableSpec) (wanted : Record → Prop) (t t' : Table) : Prop where
  kept : t.Extends t'
  new : ∀ id values, t'.rows.get? id = some values → t.rows.get? id = none →
    ∃ record, wanted record ∧ (∀ other, ¬ t.Has spec other record) ∧ t'.Has spec id record
  one : ∀ record, wanted record → (∀ other, ¬ t.Has spec other record) →
    ∃! id, t'.Has spec id record

namespace Database

variable {db db' : Database} {spec : TableSpec} {wanted wanted' : Record → Prop}

/-- What a database adds to the table of a specification. -/
def Adds (spec : TableSpec) (wanted : Record → Prop) (db db' : Database) : Prop :=
  ∃ t t', db.table spec.name = .ok t ∧ db'.table spec.name = .ok t' ∧ t.Adds spec wanted t'

theorem Adds.congr (h : db.Adds spec wanted db')
    (hwanted : ∀ record, wanted record ↔ wanted' record) : db.Adds spec wanted' db' := by
  obtain rfl : wanted = wanted' := funext fun record => propext (hwanted record)
  exact h

/-- Only the one table matters. -/
theorem Adds.of_tables {before after : Database} (h : db.Adds spec wanted db')
    (hbefore : before.table spec.name = db.table spec.name)
    (hafter : after.table spec.name = db'.table spec.name) : before.Adds spec wanted after := by
  obtain ⟨t, t', htable, htable', hadds⟩ := h
  exact ⟨t, t', hbefore.trans htable, hafter.trans htable', hadds⟩

end Database

end Storage

/-! ### What a level adds -/

namespace Acquisition

variable {spec : TableSpec} {needed : List Record} {before middle : Databases}

/-- To supply records is to add those that have no row. -/
theorem Supplies.adds (h : Supplies spec needed before middle) (hspec : spec ∈ TableSpec.all)
    (htakes : ∀ record ∈ needed, spec.Takes record) (hsound : before.primary.Sound) :
    before.primary.Adds spec (fun record => record ∈ needed) middle.primary := by
  have honward := h.onward hspec htakes hsound
  obtain ⟨t, t', htable, htable', hkept, hnew⟩ := h.addsAmong hspec htakes hsound spec hspec
  refine ⟨t, t', htable, htable', hkept, fun id values hget hnone => ?_, fun record hrecord _ => ?_⟩
  · obtain ⟨record, ⟨-, hrecord⟩, hrest⟩ := hnew id values hget hnone
    exact ⟨record, hrecord, hrest⟩
  · obtain ⟨id, hid⟩ := h.has record hrecord
    obtain ⟨t₀, htable₀, hid'⟩ := hid
    obtain rfl := Except.ok.inj (htable'.symm.trans htable₀)
    exact ⟨id, hid', fun other hother => honward.sound.has_unique hspec ⟨t', htable', hother⟩
      ⟨t', htable', hid'⟩⟩

/-! ### What three levels add -/

section Levels

variable {terms : List (Term × Int)} {start first second last : Databases}

/-- The records of the texts. -/
def IsText (terms : List (Term × Int)) (record : Record) : Prop :=
  ∃ t ∈ terms, record = [.text t.1.text]

/-- The records of the texts in their languages, with the ids that the texts have. -/
def IsInLanguage (terms : List (Term × Int)) (db : Database) (record : Record) : Prop :=
  ∃ t ∈ terms, ∃ textId, db.Has .texts textId [.text t.1.text] ∧
    record = [.integer textId, .text t.1.language]

/-- The records of the terms, with the ids that the texts in their languages have. -/
def IsTerm (terms : List (Term × Int)) (db : Database) (record : Record) : Prop :=
  ∃ t ∈ terms, ∃ textId middleId, db.Has .texts textId [.text t.1.text] ∧
    db.Has .textsInLanguage middleId [.integer textId, .text t.1.language] ∧
    record = [.integer middleId, .integer t.2]

section Climbed

variable (h : Climbs terms start first second last) (hsound : start.primary.Sound)

include h hsound

theorem isInLanguage_iff {record : Record} :
    record ∈ (terms.map (languageRecord first.primary)).eraseDups ↔
      IsInLanguage terms last.primary record := by
  obtain ⟨-, hsecond, hlast⟩ := h.onward hsound
  have htext : ∀ t ∈ terms, ∃ textId, last.primary.Has .texts textId [.text t.1.text] ∧
      languageRecord first.primary t = [.integer textId, .text t.1.language] := by
    intro t ht
    obtain ⟨textId, htext, hrecord⟩ := h.exists_text hsound ht
    exact ⟨textId, (hsecond.trans hlast).grows.has TableSpec.mem_all_texts htext, hrecord⟩
  rw [List.mem_eraseDups, List.mem_map]
  constructor
  · rintro ⟨t, ht, rfl⟩
    exact ⟨t, ht, htext t ht⟩
  · rintro ⟨t, ht, textId, hhas, rfl⟩
    obtain ⟨textId', hhas', hrecord⟩ := htext t ht
    rw [hlast.sound.has_unique TableSpec.mem_all_texts hhas hhas']
    exact ⟨t, ht, hrecord⟩

theorem isTerm_iff {record : Record} :
    record ∈ (terms.map (termRecord first.primary second.primary)).eraseDups ↔
      IsTerm terms last.primary record := by
  obtain ⟨-, hsecond, hlast⟩ := h.onward hsound
  have hmiddle : ∀ t ∈ terms, ∃ textId middleId,
      last.primary.Has .texts textId [.text t.1.text] ∧
      last.primary.Has .textsInLanguage middleId [.integer textId, .text t.1.language] ∧
      termRecord first.primary second.primary t = [.integer middleId, .integer t.2] := by
    intro t ht
    obtain ⟨textId, htext, hlanguageRecord⟩ := h.exists_text hsound ht
    obtain ⟨middleId, hmiddle, hrecord⟩ := h.exists_middle hsound ht
    rw [hlanguageRecord] at hmiddle
    exact ⟨textId, middleId, (hsecond.trans hlast).grows.has TableSpec.mem_all_texts htext,
      hlast.grows.has TableSpec.mem_all_textsInLanguage hmiddle, hrecord⟩
  rw [List.mem_eraseDups, List.mem_map]
  constructor
  · rintro ⟨t, ht, rfl⟩
    exact ⟨t, ht, hmiddle t ht⟩
  · rintro ⟨t, ht, textId, middleId, htext, hhas, rfl⟩
    obtain ⟨textId', middleId', htext', hhas', hrecord⟩ := hmiddle t ht
    obtain rfl := hlast.sound.has_unique TableSpec.mem_all_texts htext htext'
    rw [hlast.sound.has_unique TableSpec.mem_all_textsInLanguage hhas hhas']
    exact ⟨t, ht, hrecord⟩

/-- Three levels add to each of the three tables what is missing there. -/
theorem Climbs.adds :
    start.primary.Adds .texts (IsText terms) last.primary ∧
    start.primary.Adds .textsInLanguage (IsInLanguage terms last.primary) last.primary ∧
    start.primary.Adds .termsInLanguage (IsTerm terms last.primary) last.primary := by
  obtain ⟨hfirst, hsecond, hlast⟩ := h.onward hsound
  have htakes := takes_eraseDups (takes_textRecords terms)
  have htakes₁ := takes_eraseDups (takes_map_languageRecord first.primary terms)
  have htakes₂ := takes_eraseDups (takes_map_termRecord first.primary second.primary terms)
  have hothers := h.texts.others TableSpec.mem_all_texts htakes hsound
  have hothers₁ := h.inLanguage.others TableSpec.mem_all_textsInLanguage htakes₁ hfirst.sound
  have hothers₂ := h.terms.others TableSpec.mem_all_termsInLanguage htakes₂ hsecond.sound
  -- each level leaves the tables of the two others as they are
  refine ⟨?_, ?_, ?_⟩
  · refine ((h.texts.adds TableSpec.mem_all_texts htakes hsound).congr fun record => ?_).of_tables
      rfl ((hothers₂ _ (by decide +kernel)).trans (hothers₁ _ (by decide +kernel)))
    rw [List.mem_eraseDups]
    unfold textRecords IsText
    simp only [List.mem_map, eq_comm]
  · exact ((h.inLanguage.adds TableSpec.mem_all_textsInLanguage htakes₁ hfirst.sound).congr
      fun record => isInLanguage_iff h hsound).of_tables
        (hothers _ (by decide +kernel)).symm (hothers₂ _ (by decide +kernel))
  · exact ((h.terms.adds TableSpec.mem_all_termsInLanguage htakes₂ hsecond.sound).congr
      fun record => isTerm_iff h hsound).of_tables
        ((hothers₁ _ (by decide +kernel)).trans (hothers _ (by decide +kernel))).symm rfl

end Climbed

end Levels

/-! ### The second phase after it -/

/-- An id that leads to a term can be followed. -/
theorem followed_of_leadsTo {db : Database} {id kindId : Int} {language text : String}
    (h : db.LeadsTo id kindId language text) : db.Followed .termsInLanguage id := by
  obtain ⟨middleId, textId, hterm, hmiddle, htext⟩ := h
  refine .intro TableSpec.mem_all_termsInLanguage hterm.readable
    fun next first rest hrefers hreads => ?_
  obtain rfl := TableSpec.refers_termsInLanguage_iff.1 hrefers
  have hrecord := hreads.functional hterm.reads
  simp only [List.cons.injEq, Cell.integer.injEq] at hrecord
  rw [hrecord.1]
  exact Database.followed_language hmiddle htext

/-- Where all ids lead to their terms, the second phase keeps them and does nothing. -/
theorem run_finalize_of_leads {batch : Batch} {state : Databases} (hsound : state.primary.Sound)
    (hleads : batch.Leads state.primary) (limits : Limits) :
    (finalize .primary limits batch).run Databases.handler state = (.ok batch.ids, state) := by
  rw [finalize_eq]
  by_cases hempty : batch.isEmpty = true
  · rw [if_pos hempty, List.isEmpty_iff.1 hempty]
    rfl
  · rw [if_neg hempty]
    obtain ⟨rows, hrows⟩ := (exists_readRows_iff hsound).2
      fun acquired hmem => followed_of_leadsTo (hleads acquired hmem)
    have hnone : (rows.lost batch).isEmpty = true := by
      refine List.isEmpty_iff.2 (List.filter_eq_nil_iff.2 fun acquired hmem => ?_)
      obtain ⟨middleId, textId, hterm, hmiddle, htext⟩ := hleads acquired hmem
      rw [(readRows_eq_ok_iff.1 hrows).leadTo_of_has hsound hsound hsound hmem hterm hmiddle htext]
      decide
    refine Dialog.run_bind_eq_ok_iff.2 ⟨rows, state, ?_, ?_⟩
    · rw [run_readChains, hrows]
      rfl
    · unfold restore
      rw [if_pos hnone]
      rfl

/-! ### The first phase -/

section FirstPhase

variable {kinds : KindStore} {read : Side} {limits : Limits} {document : Document}
  {start after : Databases} {batch : Batch}

/-- Three levels for terms that have their rows do nothing. -/
theorem climbs_of_leads {state : Databases} {terms : List (Term × Int)}
    (hsound : state.primary.Sound)
    (h : ∀ t ∈ terms, ∃ id, state.primary.LeadsTo id t.2 t.1.language t.1.text) :
    Climbs terms state state state state := by
  refine ⟨?_, ?_, ?_⟩
  · refine supplies_self TableSpec.mem_all_texts (takes_eraseDups (takes_textRecords terms)) hsound
      fun record hrecord => ?_
    obtain ⟨t, ht, rfl⟩ := List.mem_map.1 (List.mem_eraseDups.1 hrecord)
    obtain ⟨_, _, textId, -, -, htext⟩ := h t ht
    exact ⟨textId, htext⟩
  · refine supplies_self TableSpec.mem_all_textsInLanguage
      (takes_eraseDups (takes_map_languageRecord _ terms)) hsound fun record hrecord => ?_
    obtain ⟨t, ht, rfl⟩ := List.mem_map.1 (List.mem_eraseDups.1 hrecord)
    obtain ⟨_, middleId, textId, -, hmiddle, htext⟩ := h t ht
    exact ⟨middleId, languageRecord_of_has hsound htext ▸ hmiddle⟩
  · refine supplies_self TableSpec.mem_all_termsInLanguage
      (takes_eraseDups (takes_map_termRecord _ _ terms)) hsound fun record hrecord => ?_
    obtain ⟨t, ht, rfl⟩ := List.mem_map.1 (List.mem_eraseDups.1 hrecord)
    obtain ⟨id, middleId, textId, hterm, hmiddle, htext⟩ := h t ht
    rw [← languageRecord_of_has hsound htext] at hmiddle
    exact ⟨id, termRecord_of_has hsound hmiddle ▸ hterm⟩

/-- With a replica that lags behind, the first phase comes to the acquisition of the kinds, and to
what three levels make of the primary after that. -/
structure Lifts (start after : Databases) (batch : Batch) (middle first second : Databases) :
    Prop where
  kinds : start.Onward middle
  tables : ∀ name, foldName name ≠ foldName TableSpec.kinds.name →
    middle.primary.table name = start.primary.table name
  climbs : Climbs (typedTerms batch) middle first second after
  leads : batch.Leads after.primary
  kindIds : ∀ acquired ∈ batch, after.kindIds.get? acquired.term.kind = some acquired.kindId

theorem exists_lifts (hkinds : kinds.Standard) (hsound : start.primary.Sound) (hlags : start.Lags)
    (hrun : (acquire read .primary kinds limits document).run Databases.handler start =
      (.ok batch, after)) : ∃ middle first second, Lifts start after batch middle first second := by
  by_cases hterms : document.truncatedTerms limits.textBytes = []
  · rw [acquire_nil hterms] at hrun
    cases hrun
    exact ⟨start, start, start, .refl hsound, fun _ _ => rfl,
      climbs_of_leads hsound fun _ hmem => absurd hmem List.not_mem_nil,
      fun _ hmem => absurd hmem List.not_mem_nil, fun _ hmem => absurd hmem List.not_mem_nil⟩
  obtain ⟨kindIds, middle, typed, ids, hkindIds, htyped, hids, rfl⟩ :=
    (run_acquire_iff hterms).1 hrun
  have hacquired := hkinds.acquired_of_run hlags hsound hkindIds
  obtain ⟨first, second, hclimbs, rfl, -⟩ := climbs_of_run
    (s := (Seeker.replicaFirst read .primary).withAttempts limits.attempts)
    (fun read _ => (hlags.onward hacquired.onward).follows hacquired.onward.sound read) rfl
    (Nat.le_max_left 1 _) hacquired.onward.sound hids
  have hafter : after.kindIds = middle.kindIds :=
    (asks_acquireTermIds (permits_properCall rfl) typed).kindIds_of_run hids
  rw [← List.map_prod_left_eq_zip, List.map_map]
  refine ⟨middle, first, second, hacquired.onward, hacquired.tables, ?_, fun acquired hmem => ?_,
    fun acquired hmem => ?_⟩
  · have hsame : typedTerms (typed.map fun t => (⟨t.1, t.2, (after.primary.lookUp
        .termsInLanguage (termRecord first.primary second.primary t)).getD 0⟩ : AcquiredTerm)) =
        typed := by
      unfold typedTerms
      rw [List.map_map]
      exact List.map_id _
    exact hsame.symm ▸ hclimbs
  · obtain ⟨t, ht, rfl⟩ := List.mem_map.1 hmem
    exact hclimbs.leadsTo hacquired.onward.sound ht
  · obtain ⟨t, ht, rfl⟩ := List.mem_map.1 hmem
    obtain ⟨term, hterm, hkind⟩ := mem_of_mapM_eq_ok htyped ht
    obtain ⟨rfl, hid⟩ := withKindId_eq_ok_iff.1 hkind
    rw [hacquired.result, KindIds.get?_select, if_pos (mem_usedKinds.2 ⟨t.1, hterm, rfl⟩)] at hid
    rw [hafter]
    exact hid

/-- What the first phase adds, and what it gives. -/
structure AddsMissing (limits : Limits) (document : Document) (start : Databases) (batch : Batch)
    (after : Databases) : Prop where
  /-- Every old row is still there, with its values. -/
  kept : start.primary.Grows after.primary
  replica : after.replica = start.replica
  texts : start.primary.Adds .texts (IsText (typedTerms batch)) after.primary
  inLanguage : start.primary.Adds .textsInLanguage
    (IsInLanguage (typedTerms batch) after.primary) after.primary
  terms : start.primary.Adds .termsInLanguage
    (IsTerm (typedTerms batch) after.primary) after.primary
  /-- The occurrences of a slot are its texts, cut to the limit, in their order. -/
  occurrences : ∀ kind language, ((batch.map AcquiredTerm.term).filter
      (Term.isOf kind language)).map Term.text =
    (document.textsAt kind language).map (Text.truncate limits.textBytes)
  /-- They come by kind, then by language. -/
  ordered : (batch.map AcquiredTerm.term).Pairwise Term.Before
  /-- Occurrences have the ids of their kinds. -/
  kindIds : ∀ acquired ∈ batch, after.kindIds.get? acquired.term.kind = some acquired.kindId
  leads : batch.Leads after.primary
  ids : ∀ a ∈ batch, ∀ b ∈ batch, a.id = b.id ↔ a.Same b
  /-- An immediate second phase has nothing to do. -/
  final : (finalize .primary limits batch).run Databases.handler after = (.ok batch.ids, after)

/-- With a replica that has no rows but those of the primary, the first phase adds exactly what is
missing. -/
theorem acquire_adds_missing (hkinds : kinds.Standard) (read : Side) (limits : Limits)
    (document : Document) {start after : Databases} {batch : Batch} (hsound : start.primary.Sound)
    (hlags : start.Lags)
    (hrun : (acquire read .primary kinds limits document).run Databases.handler start =
      (.ok batch, after)) : AddsMissing limits document start batch after := by
  have honward := (asks_acquire hkinds read limits document).onward_of_run hsound hrun
  have hterms := (yields_acquire read .primary kinds limits document).run hrun
  obtain ⟨middle, first, second, hlifts⟩ := exists_lifts hkinds hsound hlags hrun
  obtain ⟨htexts, hinLanguage, hlast⟩ := hlifts.climbs.adds hlifts.kinds.sound
  refine
    { kept := honward.grows
      replica := honward.replica
      texts := htexts.of_tables (hlifts.tables _ (by decide +kernel)).symm rfl
      inLanguage := hinLanguage.of_tables (hlifts.tables _ (by decide +kernel)).symm rfl
      terms := hlast.of_tables (hlifts.tables _ (by decide +kernel)).symm rfl
      occurrences := fun kind language => ?_
      ordered := ?_
      kindIds := hlifts.kindIds
      leads := hlifts.leads
      ids := fun a ha b hb => ?_
      final := run_finalize_of_leads honward.sound hlifts.leads limits }
  · rw [hterms, Document.filter_truncatedTerms]
  · rw [hterms]
    exact document.pairwise_truncatedTerms limits.textBytes
  · have hleads := hlifts.leads a ha
    constructor
    · intro hid
      exact hleads.functional (hid ▸ hlifts.leads b hb)
    · rintro ⟨hkind, hlanguage, htext⟩
      rw [hkind, hlanguage, htext] at hleads
      exact honward.sound.leadsTo_unique hleads (hlifts.leads b hb)

end FirstPhase

/-- A label is stored on the primary, and the replica has not heard of it. -/
def unheardLabel : Databases :=
  ⟨((acquire .replica .primary .inMemory .default (Document.empty.withLabel "en" "Berlin")).run
    Databases.handler ⟨.migrated, none, .none⟩).2.primary, some .migrated, .none⟩

theorem onward_unheardLabel : Databases.Onward ⟨.migrated, none, .none⟩ ((acquire .replica .primary
    .inMemory .default (Document.empty.withLabel "en" "Berlin")).run Databases.handler
      ⟨.migrated, none, .none⟩).2 :=
  Dialog.onward_run (asks_acquire .inMemory .replica .default _) Database.fresh_migrated.sound

theorem sound_unheardLabel : unheardLabel.primary.Sound := onward_unheardLabel.sound

theorem lags_unheardLabel : unheardLabel.Lags := by
  intro replica hreplica
  cases hreplica
  exact ⟨Database.fresh_migrated.sound, onward_unheardLabel.grows.within⟩

/-- The label in two languages, and an alias twice. -/
def athens : Document :=
  ((Document.empty.withLabel "de" "Berlin").withLabel "en" "Berlin").withAliases "en"
    ["Athens on the Spree", "Athens on the Spree"]

/-- The English label is found whole, the German one has its text, and the alias is new. -/
def athensBatch : Batch :=
  [⟨⟨.label, "de", "Berlin"⟩, 1, 2⟩, ⟨⟨.label, "en", "Berlin"⟩, 1, 1⟩,
    ⟨⟨.aliases, "en", "Athens on the Spree"⟩, 2, 3⟩,
    ⟨⟨.aliases, "en", "Athens on the Spree"⟩, 2, 3⟩]

theorem athens_added :
    ((acquire .replica .primary .inMemory .default athens).run Databases.handler unheardLabel).1 =
      .ok athensBatch ∧
    AddsMissing .default athens unheardLabel athensBatch
      ((acquire .replica .primary .inMemory .default athens).run Databases.handler
        unheardLabel).2 := by
  have hbatch : ((acquire .replica .primary .inMemory .default athens).run Databases.handler
      unheardLabel).1 = .ok athensBatch := by decide +kernel
  exact ⟨hbatch, acquire_adds_missing .inMemory .replica .default athens sound_unheardLabel
    lags_unheardLabel (Prod.fst_eq_iff.1 hbatch)⟩

end Acquisition

end TermStore
