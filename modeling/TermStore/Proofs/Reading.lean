import TermStore.Proofs.Requests

/-!
# Reading chains

The second phase reads the rows that the ids of a batch lead to, level by level, and compares what
they read as with the terms. Here that is said without look-ups: an id is found to lead to its term
if its three rows hold it, and only if they read as it. The three look-ups may be made on different
states of the primary.
-/

namespace TermStore

open Storage (TableSpec Record RecordIds Cell Database Fault)

/-- All ids of a batch lead to their terms. -/
def Batch.Leads (batch : Batch) (db : Database) : Prop :=
  ∀ acquired ∈ batch, db.LeadsTo acquired.id acquired.kindId acquired.term.language
    acquired.term.text

theorem Batch.Leads.grows {batch : Batch} {db db' : Database} (h : batch.Leads db)
    (hgrows : db.Grows db') : batch.Leads db' :=
  fun acquired hmem => hgrows.leadsTo (h acquired hmem)

namespace Acquisition

variable {batch : Batch}

theorem mem_idSet {ids : List Int} {id : Int} : id ∈ idSet ids ↔ id ∈ ids :=
  SortedMap.mem_keys_ofList_unit

/-- The first ids of some rows are those of records that begin with one. -/
theorem mem_firstIds {rows : SortedMap Int Record} {id : Int} :
    id ∈ firstIds rows ↔ ∃ key rest, rows.get? key = some (.integer id :: rest) := by
  unfold firstIds
  rw [mem_idSet, List.mem_filterMap]
  constructor
  · rintro ⟨record, hmem, hfirst⟩
    obtain ⟨key, hget⟩ := SortedMap.mem_values_iff.1 hmem
    split at hfirst
    · next first rest =>
      obtain rfl := Option.some.inj hfirst
      exact ⟨key, rest, hget⟩
    · cases hfirst
  · rintro ⟨key, rest, hget⟩
    exact ⟨_, SortedMap.mem_values_iff.2 ⟨key, hget⟩, rfl⟩

/-! ### Three look-ups -/

/-- The rows that a batch leads to, each level looked up on a database of its own. -/
structure ReadFrom (batch : Batch) (first second third : Database) (rows : ChainRows) : Prop where
  terms : first.findIds .termsInLanguage (idSet batch.ids) = .ok rows.terms
  inLanguage : second.findIds .textsInLanguage (firstIds rows.terms) = .ok rows.inLanguage
  texts : third.findIds .texts (firstIds rows.inLanguage) = .ok rows.texts

namespace ReadFrom

variable {first second third : Database} {rows : ChainRows}

/-- An occurrence whose three rows hold its term is found to lead to it. -/
theorem leadTo_of_has (h : ReadFrom batch first second third rows) (hfirst : first.Sound)
    (hsecond : second.Sound) (hthird : third.Sound) {acquired : AcquiredTerm}
    (hmem : acquired ∈ batch) {middleId textId : Int}
    (hterm : first.Has .termsInLanguage acquired.id [.integer middleId, .integer acquired.kindId])
    (hmiddle : second.Has .textsInLanguage middleId [.integer textId, .text acquired.term.language])
    (htext : third.Has .texts textId [.text acquired.term.text]) :
    rows.leadTo acquired = true := by
  have hid : acquired.id ∈ idSet batch.ids := mem_idSet.2 (List.mem_map_of_mem hmem)
  have hgetTerm := (hfirst.findIds_iff TableSpec.mem_all_termsInLanguage h.terms).2
    ⟨hid, hterm.reads⟩
  have hgetMiddle := (hsecond.findIds_iff TableSpec.mem_all_textsInLanguage h.inLanguage).2
    ⟨mem_firstIds.2 ⟨_, _, hgetTerm⟩, hmiddle.reads⟩
  have hgetText := (hthird.findIds_iff TableSpec.mem_all_texts h.texts).2
    ⟨mem_firstIds.2 ⟨_, _, hgetMiddle⟩, htext.reads⟩
  simp only [ChainRows.leadTo, hgetTerm, hgetMiddle, hgetText, beq_self_eq_true, Bool.and_self]

/-- The three rows of an occurrence that is found to lead to its term read as it. -/
theorem reads_of_leadTo (h : ReadFrom batch first second third rows) (hfirst : first.Sound)
    (hsecond : second.Sound) (hthird : third.Sound) {acquired : AcquiredTerm}
    (hleads : rows.leadTo acquired = true) :
    ∃ middleId textId,
      first.Reads .termsInLanguage acquired.id [.integer middleId, .integer acquired.kindId] ∧
      second.Reads .textsInLanguage middleId [.integer textId, .text acquired.term.language] ∧
      third.Reads .texts textId [.text acquired.term.text] := by
  unfold ChainRows.leadTo at hleads
  split at hleads
  · next middleId kindId hgetTerm =>
    obtain ⟨hkind, hrest⟩ := Bool.and_eq_true_iff.1 hleads
    split at hrest
    · next textId language hgetMiddle =>
      obtain ⟨hlanguage, hlast⟩ := Bool.and_eq_true_iff.1 hrest
      split at hlast
      · next text hgetText =>
        rw [beq_iff_eq.1 hkind] at hgetTerm
        rw [beq_iff_eq.1 hlanguage] at hgetMiddle
        rw [beq_iff_eq.1 hlast] at hgetText
        exact ⟨middleId, textId,
          ((hfirst.findIds_iff TableSpec.mem_all_termsInLanguage h.terms).1 hgetTerm).2,
          ((hsecond.findIds_iff TableSpec.mem_all_textsInLanguage h.inLanguage).1 hgetMiddle).2,
          ((hthird.findIds_iff TableSpec.mem_all_texts h.texts).1 hgetText).2⟩
      · cases hlast
    · cases hrest
  · cases hleads

end ReadFrom

/-- On one database whose text columns hold texts, exactly the occurrences that lead to their terms
are found to. -/
theorem ReadFrom.leadTo_iff {db : Database} {rows : ChainRows} (h : ReadFrom batch db db db rows)
    (hsound : db.Sound) (htextual : db.Textual) {acquired : AcquiredTerm}
    (hmem : acquired ∈ batch) :
    rows.leadTo acquired = true ↔
      db.LeadsTo acquired.id acquired.kindId acquired.term.language acquired.term.text := by
  constructor
  · intro hleads
    obtain ⟨middleId, textId, hterm, hmiddle, htext⟩ :=
      h.reads_of_leadTo hsound hsound hsound hleads
    exact ⟨middleId, textId,
      htextual.has_of_reads TableSpec.mem_all_termsInLanguage
        (TableSpec.takes_termsInLanguage middleId acquired.kindId) hterm,
      htextual.has_of_reads TableSpec.mem_all_textsInLanguage
        (TableSpec.takes_textsInLanguage textId acquired.term.language) hmiddle,
      htextual.has_of_reads TableSpec.mem_all_texts
        (TableSpec.takes_texts acquired.term.text) htext⟩
  · rintro ⟨middleId, textId, hterm, hmiddle, htext⟩
    exact h.leadTo_of_has hsound hsound hsound hmem hterm hmiddle htext

/-! ### Chains that are whole -/

section Whole

variable {db : Database}

/-- Is the id one of a row that an occurrence of a batch leads over on its way to its text? -/
def IsMiddle (batch : Batch) (db : Database) (id : Int) : Prop :=
  ∃ acquired ∈ batch, ∃ textId,
    db.Has .textsInLanguage id [.integer textId, .text acquired.term.language] ∧
    db.Has .texts textId [.text acquired.term.text]

theorem IsMiddle.grows {db' : Database} {id : Int} (h : IsMiddle batch db id)
    (hgrows : db.Grows db') : IsMiddle batch db' id := by
  obtain ⟨acquired, hmem, textId, hmiddle, htext⟩ := h
  exact ⟨acquired, hmem, textId, hgrows.has TableSpec.mem_all_textsInLanguage hmiddle,
    hgrows.has TableSpec.mem_all_texts htext⟩

/-- The rows of a batch that leads to its terms lead over its middle rows only. -/
theorem isMiddle_of_mem_firstIds (hsound : db.Sound) (hleads : batch.Leads db)
    {terms : SortedMap Int Record}
    (hterms : db.findIds .termsInLanguage (idSet batch.ids) = .ok terms) {id : Int}
    (hid : id ∈ firstIds terms) : IsMiddle batch db id := by
  obtain ⟨key, rest, hget⟩ := mem_firstIds.1 hid
  obtain ⟨hkey, hreads⟩ := (hsound.findIds_iff TableSpec.mem_all_termsInLanguage hterms).1 hget
  obtain ⟨acquired, hmem, rfl⟩ := List.mem_map.1 (mem_idSet.1 hkey)
  obtain ⟨middleId, textId, hterm, hmiddle, htext⟩ := hleads acquired hmem
  have hrecord := hreads.functional hterm.reads
  simp only [List.cons.injEq, Cell.integer.injEq] at hrecord
  obtain ⟨rfl, -⟩ := hrecord
  exact ⟨acquired, hmem, textId, hmiddle, htext⟩

/-- Behind middle rows there are rows of texts. -/
theorem exists_text_of_mem_firstIds (hsound : db.Sound) {ids : List Int}
    (hmiddle : ∀ id ∈ ids, IsMiddle batch db id) {inLanguage : SortedMap Int Record}
    (hinLanguage : db.findIds .textsInLanguage ids = .ok inLanguage) {id : Int}
    (hid : id ∈ firstIds inLanguage) : ∃ record, db.Has .texts id record := by
  obtain ⟨key, rest, hget⟩ := mem_firstIds.1 hid
  obtain ⟨hkey, hreads⟩ :=
    (hsound.findIds_iff TableSpec.mem_all_textsInLanguage hinLanguage).1 hget
  obtain ⟨acquired, -, textId, hhas, htext⟩ := hmiddle key hkey
  have hrecord := hreads.functional hhas.reads
  simp only [List.cons.injEq, Cell.integer.injEq] at hrecord
  obtain ⟨rfl, -⟩ := hrecord
  exact ⟨_, htext⟩

end Whole

/-! ### Reading without company -/

/-- The chains of a batch as one look-up on a database. -/
def readRows (db : Database) (batch : Batch) : Except Fault ChainRows := do
  let terms ← db.findIds .termsInLanguage (idSet batch.ids)
  let inLanguage ← db.findIds .textsInLanguage (firstIds terms)
  let texts ← db.findIds .texts (firstIds inLanguage)
  return ⟨terms, inLanguage, texts⟩

theorem readRows_eq_ok_iff {db : Database} {rows : ChainRows} :
    readRows db batch = .ok rows ↔ ReadFrom batch db db db rows := by
  constructor
  · intro h
    unfold readRows at h
    cases hterms : db.findIds .termsInLanguage (idSet batch.ids) with
    | error fault => rw [hterms] at h; cases h
    | ok terms =>
        cases hinLanguage : db.findIds .textsInLanguage (firstIds terms) with
        | error fault => simp only [hterms, hinLanguage, bind, Except.bind, reduceCtorEq] at h
        | ok inLanguage =>
            cases htexts : db.findIds .texts (firstIds inLanguage) with
            | error fault =>
                simp only [hterms, hinLanguage, htexts, bind, Except.bind, reduceCtorEq] at h
            | ok texts =>
                simp only [hterms, hinLanguage, htexts, bind, Except.bind, pure, Except.pure,
                  Except.ok.injEq] at h
                obtain rfl := h
                exact ⟨hterms, hinLanguage, htexts⟩
  · rintro ⟨hterms, hinLanguage, htexts⟩
    simp only [readRows, hterms, hinLanguage, htexts, bind, Except.bind, pure, Except.pure]

/-- Carried on alone, the look-ups of the second phase read the primary and leave it as it is. -/
theorem run_readChains (databases : Databases) :
    (readChains .primary batch).run Databases.handler databases =
      databases.readOnly (readRows databases.primary batch) := by
  show Dialog.run _ (Dialog.ask _ _) _ = _
  simp only [Dialog.run, Databases.handler, Databases.reply, Databases.database, readRows]
  cases databases.primary.findIds .termsInLanguage (idSet batch.ids) with
  | error fault => rfl
  | ok terms =>
      show Dialog.run _ (Dialog.ask _ _) _ = _
      simp only [Dialog.run, Databases.reply, Databases.database, bind, Except.bind]
      cases databases.primary.findIds .textsInLanguage (firstIds terms) with
      | error fault => rfl
      | ok inLanguage =>
          show Dialog.run _ (Dialog.ask _ _) _ = _
          simp only [Dialog.run, Databases.reply, Databases.database]
          cases databases.primary.findIds .texts (firstIds inLanguage) with
          | error fault => rfl
          | ok texts => rfl

end Acquisition

end TermStore
