import TermStore.Proofs.Schema

/-!
# Look-ups are exact

In a table whose rows all hold records of its columns' types, a look-up always goes through and
finds exactly what there is. Each statement of a look-up reads the rows of what it asks for, and
nothing else (`exists_findChunk`, `exists_findIdChunk`); what several statements read is what one
statement for all of it would, so neither the order of what is wanted nor the cuts between the
statements matter. Looking records up and looking ids up read the same rows from their two ends, so
the two look-ups are inverse to each other.
-/

namespace TermStore

/-- Maps of which the same is known are equal. -/
theorem SortedMap.ext_of_iff {κ α : Type} [LE κ] [LT κ] [DecidableLT κ] [DecidableEq κ]
    [Std.IsLinearOrder κ] [Std.LawfulOrderLT κ] {m n : SortedMap κ α} {holds : κ → α → Prop}
    (hm : ∀ key value, m.get? key = some value ↔ holds key value)
    (hn : ∀ key value, n.get? key = some value ↔ holds key value) : m = n :=
  ext_get? fun key => Option.ext fun value => (hm key value).trans (hn key value).symm

namespace Storage

/-- Every row holds a record of given types. -/
def Table.TypedAs (affinities : List Affinity) (spec : TableSpec) (t : Table) : Prop :=
  ∀ id values, t.rows.get? id = some values →
    ∃ record, Fits affinities record ∧ t.cells spec (id, values) = record.map Cell.toValue

/-! ### Several statements -/

/-- Statements that each go through and read what belongs to what they ask for do so together. -/
theorem exists_mapM_flatten {ι ρ ε : Type} {statement : List ι → Except ε (List ρ)}
    {allowed : ι → Prop} {belongs : ι → ρ → Prop}
    (h : ∀ part, (∀ x ∈ part, allowed x) →
      ∃ rows, statement part = .ok rows ∧ ∀ row, row ∈ rows ↔ ∃ x ∈ part, belongs x row)
    {parts : List (List ι)} (hparts : ∀ x ∈ parts.flatten, allowed x) :
    ∃ rows, parts.mapM statement = .ok rows ∧
      ∀ row, row ∈ rows.flatten ↔ ∃ x ∈ parts.flatten, belongs x row := by
  induction parts with
  | nil => exact ⟨[], rfl, by simp⟩
  | cons part rest ih =>
      simp only [List.flatten_cons, List.mem_append] at hparts
      obtain ⟨first, hfirst, hmemFirst⟩ := h part fun x hx => hparts x (Or.inl hx)
      obtain ⟨others, hothers, hmemOthers⟩ := ih fun x hx => hparts x (Or.inr hx)
      refine ⟨first :: others, ?_, fun row => ?_⟩
      · exact mapM_eq_ok_iff.2 (.cons hfirst (mapM_eq_ok_iff.1 hothers))
      · simp only [List.flatten_cons, List.mem_append, hmemFirst, hmemOthers, or_and_right,
          exists_or]

/-- A look-up that finds what there is of what is sent finds the same however that is sent. -/
theorem exists_independent {κ α ε : Type} [LE κ] [LT κ] [DecidableLT κ] [DecidableEq κ]
    [Std.IsLinearOrder κ] [Std.LawfulOrderLT κ] {sent : List (List κ) → Except ε (SortedMap κ α)}
    {allowed : κ → Prop} {holds : κ → α → Prop}
    (h : ∀ parts, (∀ key ∈ parts.flatten, allowed key) → ∃ found, sent parts = .ok found ∧
      ∀ key value, found.get? key = some value ↔ key ∈ parts.flatten ∧ holds key value)
    {wanted : List κ} (hwanted : ∀ key ∈ wanted, allowed key) :
    ∃ found, (∀ key value, found.get? key = some value ↔ key ∈ wanted ∧ holds key value) ∧
      ∀ parts, (∀ key, key ∈ parts.flatten ↔ key ∈ wanted) → sent parts = .ok found := by
  have hsent : ∀ parts, (∀ key, key ∈ parts.flatten ↔ key ∈ wanted) →
      ∃ found, sent parts = .ok found ∧
        ∀ key value, found.get? key = some value ↔ key ∈ wanted ∧ holds key value := by
    intro parts hparts
    obtain ⟨found, hfound, hget⟩ := h parts fun key hkey => hwanted key ((hparts key).1 hkey)
    exact ⟨found, hfound, fun key value => by rw [hget, hparts]⟩
  obtain ⟨found, -, hget⟩ := hsent [wanted] fun key => by simp
  refine ⟨found, hget, fun parts hparts => ?_⟩
  obtain ⟨other, hother, hgetOther⟩ := hsent parts hparts
  rw [hother, SortedMap.ext_of_iff hgetOther hget]

namespace Database

variable {db : Database} {t : Table} {spec : TableSpec} {affinities : List Affinity}

/-- A look-up of records in given statements. -/
def findSent (db : Database) (spec : TableSpec) (parts : List (List Record)) :
    Except Fault RecordIds := do
  let rows ← parts.mapM (db.findChunk spec)
  return .ofList (rows.flatten.map fun row => (row.2, row.1))

/-- A look-up of ids in given statements. -/
def findIdsSent (db : Database) (spec : TableSpec) (parts : List (List Int)) :
    Except Fault (SortedMap Int Record) := do
  let rows ← parts.mapM (db.findIdChunk spec)
  return .ofList rows.flatten

theorem find_eq_findSent (db : Database) (spec : TableSpec) (records : List Record) :
    db.find spec records = db.findSent spec (chunks chunkSize records) := rfl

theorem findIds_eq_findIdsSent (db : Database) (spec : TableSpec) (ids : List Int) :
    db.findIds spec ids = db.findIdsSent spec (chunks chunkSize ids) := rfl

/-! ### One statement -/

/-- Rows that are read hold what they are read as. -/
theorem exists_readRows (h : t.Keeps spec affinities) (htyped : t.TypedAs affinities spec)
    (select : Row → Bool) :
    ∃ entries, (t.rows.entries.filter select).mapM (t.readRow spec) = .ok entries ∧
      ∀ entry, entry ∈ entries ↔ ∃ values, t.rows.get? entry.1 = some values ∧
        select (entry.1, values) = true ∧
        t.cells spec (entry.1, values) = entry.2.map Cell.toValue := by
  have hread : ∀ row ∈ t.rows.entries.filter select, ∃ entry, t.readRow spec row = .ok entry := by
    intro row hrow
    obtain ⟨record, -, hcells⟩ := htyped row.1 row.2
      (SortedMap.mem_entries_iff.1 (List.mem_filter.1 hrow).1)
    exact ⟨_, h.readRow_of_cells hcells⟩
  obtain ⟨entries, hentries⟩ := exists_mapM_eq_ok hread
  refine ⟨entries, hentries, fun entry => ⟨fun hmem => ?_, fun hrow => ?_⟩⟩
  · obtain ⟨row, hrow, hentry⟩ := mem_of_mapM_eq_ok hentries hmem
    obtain ⟨hrow, hselect⟩ := List.mem_filter.1 hrow
    have hget := SortedMap.mem_entries_iff.1 hrow
    obtain ⟨record, -, hcells⟩ := htyped row.1 row.2 hget
    obtain rfl := Except.ok.inj ((h.readRow_of_cells hcells).symm.trans hentry)
    exact ⟨row.2, hget, hselect, hcells⟩
  · obtain ⟨values, hget, hselect, hcells⟩ := hrow
    obtain ⟨found, hfound, hentry⟩ := exists_of_mapM_eq_ok hentries
      (List.mem_filter.2 ⟨SortedMap.mem_entries_iff.2 hget, hselect⟩)
    obtain rfl := Except.ok.inj ((h.readRow_of_cells hcells).symm.trans hentry)
    exact hfound

section Exact

variable (htable : db.table spec.name = .ok t) (h : t.Keeps spec affinities)
  (htyped : t.TypedAs affinities spec)

include htable h htyped

/-- One statement reads the rows of its records. -/
theorem exists_findChunk {records : List Record}
    (hfits : ∀ record ∈ records, Fits affinities record) :
    ∃ rows, db.findChunk spec records = .ok rows ∧
      ∀ row, row ∈ rows ↔ ∃ record ∈ records, row.2 = record ∧ t.Has spec row.1 record := by
  rw [findChunk_eq htable h hfits]
  obtain ⟨rows, hrows, hmem⟩ := exists_readRows h htyped fun row =>
    records.any fun record => t.matchesRecord spec record row
  refine ⟨rows, hrows, fun row => ?_⟩
  rw [hmem]
  constructor
  · intro ⟨values, hget, hselect, hcells⟩
    obtain ⟨record, hrecord, hmatches⟩ := List.any_eq_true.1 hselect
    obtain ⟨hsame, hheld⟩ := h.cells_of_matches_of_readRow (hfits record hrecord) hmatches
      (h.readRow_of_cells hcells)
    exact ⟨record, hrecord, hsame, values, hget, hheld⟩
  · intro ⟨record, hrecord, hsame, values, hget, hcells⟩
    have hmatches := h.matches_of_cells (hfits record hrecord) hcells
    exact ⟨values, hget, List.any_eq_true.2 ⟨record, hrecord, hmatches⟩, hsame ▸ hcells⟩

/-- One statement reads the rows of its ids. -/
theorem exists_findIdChunk (ids : List Int) :
    ∃ rows, db.findIdChunk spec ids = .ok rows ∧
      ∀ row, row ∈ rows ↔ ∃ id ∈ ids, row.1 = id ∧ t.Has spec id row.2 := by
  rw [findIdChunk_eq htable h]
  obtain ⟨rows, hrows, hmem⟩ := exists_readRows h htyped fun row => ids.any fun id => row.1 == id
  refine ⟨rows, hrows, fun row => ?_⟩
  rw [hmem]
  constructor
  · intro ⟨values, hget, hselect, hcells⟩
    obtain ⟨id, hid, hsame⟩ := List.any_eq_true.1 hselect
    obtain rfl := beq_iff_eq.1 hsame
    exact ⟨row.1, hid, rfl, values, hget, hcells⟩
  · intro ⟨id, hid, hsame, values, hget, hcells⟩
    subst hsame
    exact ⟨values, hget, List.any_eq_true.2 ⟨row.1, hid, beq_self_eq_true _⟩, hcells⟩

/-! ### Look-ups -/

/-- However records are sent, those that have a row are found, each with the id of its row. -/
theorem exists_findSent (hu : t.Unique) (parts : List (List Record))
    (hfits : ∀ record ∈ parts.flatten, Fits affinities record) :
    ∃ found, db.findSent spec parts = .ok found ∧
      ∀ record id, found.get? record = some id ↔
        record ∈ parts.flatten ∧ t.Has spec id record := by
  obtain ⟨rows, hrows, hmem⟩ := exists_mapM_flatten
    (fun part hpart => exists_findChunk htable h htyped hpart) hfits
  refine ⟨_, bind_eq_ok_iff.2 ⟨rows, hrows, rfl⟩, fun record id => ?_⟩
  have hentry : ∀ {id}, (record, id) ∈ rows.flatten.map (fun row => (row.2, row.1)) ↔
      record ∈ parts.flatten ∧ t.Has spec id record := by
    intro id
    rw [List.mem_map]
    constructor
    · intro ⟨row, hrow, hswap⟩
      cases hswap
      obtain ⟨record, hrecord, hsame, hhas⟩ := (hmem row).1 hrow
      subst hsame
      exact ⟨hrecord, hhas⟩
    · intro ⟨hrecord, hhas⟩
      exact ⟨(id, record), (hmem _).2 ⟨record, hrecord, rfl, hhas⟩, rfl⟩
  exact SortedMap.get?_ofList_iff hentry fun hfound hother =>
    h.has_unique hu hfound.2 hother.2

/-- However ids are sent, those that have a row are found, each with its record. -/
theorem exists_findIdsSent (parts : List (List Int)) :
    ∃ found, db.findIdsSent spec parts = .ok found ∧
      ∀ id record, found.get? id = some record ↔ id ∈ parts.flatten ∧ t.Has spec id record := by
  obtain ⟨rows, hrows, hmem⟩ := exists_mapM_flatten
    (fun part (_ : ∀ id ∈ part, True) => exists_findIdChunk htable h htyped part)
    (fun _ _ => trivial)
  refine ⟨_, bind_eq_ok_iff.2 ⟨rows, hrows, rfl⟩, fun id record => ?_⟩
  have hentry : ∀ {record}, (id, record) ∈ rows.flatten ↔
      id ∈ parts.flatten ∧ t.Has spec id record := by
    intro record
    rw [hmem]
    constructor
    · intro ⟨wanted, hwanted, hsame, hhas⟩
      subst hsame
      exact ⟨hwanted, hhas⟩
    · intro ⟨hid, hhas⟩
      exact ⟨id, hid, rfl, hhas⟩
  exact SortedMap.get?_ofList_iff hentry fun hfound hother =>
    hfound.2.functional hother.2

/-- A look-up of records, and one of ids, goes through and finds exactly what has a row; only which
records and ids are wanted matters to it, not their order, how often they come or how they are cut
into statements; and one finds an id for a record exactly when the other finds the record for the
id. -/
theorem lookups_exact (hu : t.Unique) {records : List Record}
    (hfits : ∀ record ∈ records, Fits affinities record) (ids : List Int) :
    ∃ found foundIds, db.find spec records = .ok found ∧ db.findIds spec ids = .ok foundIds ∧
      (∀ record id, found.get? record = some id ↔ record ∈ records ∧ t.Has spec id record) ∧
      (∀ id record, foundIds.get? id = some record ↔ id ∈ ids ∧ t.Has spec id record) ∧
      (∀ parts, (∀ record, record ∈ parts.flatten ↔ record ∈ records) →
        db.find spec parts.flatten = .ok found ∧ db.findSent spec parts = .ok found) ∧
      (∀ parts, (∀ id, id ∈ parts.flatten ↔ id ∈ ids) →
        db.findIds spec parts.flatten = .ok foundIds ∧ db.findIdsSent spec parts = .ok foundIds) ∧
      ∀ record ∈ records, ∀ id ∈ ids,
        found.get? record = some id ↔ foundIds.get? id = some record := by
  have hchunks : ∀ {α : Type} (items : List α) (x : α),
      x ∈ (chunks chunkSize items).flatten ↔ x ∈ items := by
    intro α items x
    rw [flatten_chunks (by decide)]
  obtain ⟨found, hget, hsent⟩ :=
    exists_independent (exists_findSent htable h htyped hu) hfits
  obtain ⟨foundIds, hgetIds, hidsSent⟩ := exists_independent
    (fun parts (_ : ∀ id ∈ parts.flatten, True) => exists_findIdsSent htable h htyped parts)
    fun id (_ : id ∈ ids) => trivial
  simp only [find_eq_findSent, findIds_eq_findIdsSent]
  refine ⟨found, foundIds, hsent _ (hchunks records), hidsSent _ (hchunks ids), hget, hgetIds,
    fun parts hparts => ?_, fun parts hparts => ?_, fun record hrecord id hid => ?_⟩
  · exact ⟨hsent _ fun record => (hchunks _ record).trans (hparts record), hsent parts hparts⟩
  · exact ⟨hidsSent _ fun id => (hchunks _ id).trans (hparts id), hidsSent parts hparts⟩
  · rw [hget, hgetIds, and_iff_right hrecord, and_iff_right hid]

end Exact

/-- A text in two languages. -/
def twoLanguages : Database :=
  .stocked [(.textsInLanguage, [[.integer 7, .text "de"], [.integer 7, .text "fr"]])]

/-- Of two records that are wanted one has a row, and of two ids one. -/
theorem lookups_exact_twoLanguages :
    ∃ t, twoLanguages.table "wbt_text_in_lang" = .ok t ∧
      t.Keeps .textsInLanguage [.integer, .text] ∧
      t.TypedAs [.integer, .text] .textsInLanguage ∧ t.Unique ∧
      ∃ found foundIds,
        twoLanguages.find .textsInLanguage [[.integer 7, .text "fr"], [.integer 8, .text "fr"]] =
          .ok found ∧
        twoLanguages.findIds .textsInLanguage [2, 9] = .ok foundIds ∧
        (found.get? [.integer 7, .text "fr"] = some 2 ↔
          foundIds.get? 2 = some [.integer 7, .text "fr"]) := by
  obtain ⟨hsound, htyped⟩ : twoLanguages.Sound ∧ twoLanguages.Typed :=
    sound_typed_stocked (by decide)
  obtain ⟨t, htable, ht⟩ := hsound .textsInLanguage (by decide)
  have hrows : t.TypedAs [.integer, .text] .textsInLanguage := htyped.of_table (by decide) htable
  obtain ⟨found, foundIds, hfound, hfoundIds, -, -, -, -, hinverse⟩ :=
    lookups_exact htable ht.keeps hrows ht.unique
      (show ∀ record ∈ [[.integer 7, .text "fr"], [.integer 8, .text "fr"]],
        Fits [.integer, .text] record by decide) [2, 9]
  exact ⟨t, htable, ht.keeps, hrows, ht.unique, found, foundIds, hfound, hfoundIds,
    hinverse _ (by decide) 2 (by decide)⟩

end Database

end Storage

end TermStore
