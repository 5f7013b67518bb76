import TermStore.Proofs.OneByOne
import TermStore.Proofs.Tables

/-!
# What look-ups find

A look-up of records sends them in chunks and compares values; what it finds is said here without
either: exactly the wanted records that have a row, each with the id of its row. It fails only
where some row matches a record without holding it. A look-up of ids finds exactly the wanted ids
that have a row, each with what its row reads as.
-/

namespace TermStore.Storage

namespace Database

variable {db : Database} {t : Table} {spec : TableSpec} {affinities : List Affinity}

/-! ### Looking records up -/

/-- One statement reads the rows that match one of its records. -/
theorem findChunk_eq (htable : db.table spec.name = .ok t) (h : t.Keeps spec affinities)
    {records : List Record} (hfits : ∀ record ∈ records, Fits affinities record) :
    db.findChunk spec records =
      (t.rows.entries.filter fun row =>
        records.any fun record => t.matchesRecord spec record row).mapM (t.readRow spec) := by
  have hlength : ∀ values ∈ records.map fun record => record.map Cell.toValue,
      values.length = spec.columns.length := by
    intro values hmem
    obtain ⟨record, hrecord, rfl⟩ := List.mem_map.1 hmem
    rw [List.length_map]
    exact h.length_eq (hfits record hrecord)
  -- the values are bound as one list, which is cut into records again
  have hflat : records.flatten.map Cell.toValue =
      (records.map fun record => record.map Cell.toValue).flatten := List.map_flatten
  have hcount : (records.flatten.map Cell.toValue).length =
      records.length * spec.columns.length := by
    rw [hflat, List.length_flatten]
    have : ((records.map fun record => record.map Cell.toValue).map List.length) =
        List.replicate records.length spec.columns.length := by
      rw [List.eq_replicate_iff]
      refine ⟨by simp, fun n hn => ?_⟩
      obtain ⟨values, hvalues, rfl⟩ := List.mem_map.1 hn
      exact hlength values hvalues
    rw [this, List.sum_replicate_nat]
  have hpos : 0 < spec.columns.length := List.length_pos_iff.2 h.nonempty
  have hchunks : chunks spec.columns.length (records.flatten.map Cell.toValue) =
      records.map fun record => record.map Cell.toValue := by
    rw [hflat, chunks_flatten hpos hlength]
  unfold findChunk
  rw [htable]
  simp only [bind, Except.bind, checkCount, hcount, if_true, hchunks, Table.agreeing,
    List.any_map]
  rfl

section Find

variable {records : List Record} {found : RecordIds}

/-- A look-up reads the rows that match one of the records, and those only. -/
theorem exists_rows_of_find (htable : db.table spec.name = .ok t) (h : t.Keeps spec affinities)
    (hfits : ∀ record ∈ records, Fits affinities record)
    (hfind : db.find spec records = .ok found) :
    ∃ rows : List (Int × Record), found = .ofList (rows.map fun row => (row.2, row.1)) ∧
      (∀ entry ∈ rows, ∃ record ∈ records, ∃ row ∈ t.rows.entries,
        t.matchesRecord spec record row = true ∧ t.readRow spec row = .ok entry) ∧
      ∀ record ∈ records, ∀ row ∈ t.rows.entries, t.matchesRecord spec record row = true →
        ∃ entry ∈ rows, t.readRow spec row = .ok entry := by
  unfold find at hfind
  cases hrows : (chunks chunkSize records).mapM (db.findChunk spec) with
  | error fault => rw [hrows] at hfind; cases hfind
  | ok rows =>
      rw [hrows] at hfind
      have hchunk : ∀ chunk ∈ chunks chunkSize records, db.findChunk spec chunk =
          (t.rows.entries.filter fun row =>
            chunk.any fun record => t.matchesRecord spec record row).mapM (t.readRow spec) :=
        fun chunk hmem => findChunk_eq htable h fun record hrecord =>
          hfits record (mem_of_mem_chunks (by decide) hmem hrecord)
      refine ⟨rows.flatten, (Except.ok.inj hfind).symm, ?_, ?_⟩
      · intro entry hentry
        obtain ⟨chunkRows, hchunkRows, hentry⟩ := List.mem_flatten.1 hentry
        obtain ⟨chunk, hmem, hfound⟩ := mem_of_mapM_eq_ok hrows hchunkRows
        rw [hchunk chunk hmem] at hfound
        obtain ⟨row, hrow, hread⟩ := mem_of_mapM_eq_ok hfound hentry
        obtain ⟨hrow, hany⟩ := List.mem_filter.1 hrow
        obtain ⟨record, hrecord, hmatches⟩ := List.any_eq_true.1 hany
        exact ⟨record, mem_of_mem_chunks (by decide) hmem hrecord, row, hrow, hmatches, hread⟩
      · intro record hrecord row hrow hmatches
        obtain ⟨chunk, hmem, hrecord⟩ := exists_mem_chunks (by decide : 0 < chunkSize) hrecord
        obtain ⟨chunkRows, hchunkRows, hfound⟩ := exists_of_mapM_eq_ok hrows hmem
        rw [hchunk chunk hmem] at hfound
        obtain ⟨entry, hentry, hread⟩ := exists_of_mapM_eq_ok hfound
          (List.mem_filter.2 ⟨hrow, List.any_eq_true.2 ⟨record, hrecord, hmatches⟩⟩)
        exact ⟨entry, List.mem_flatten.2 ⟨chunkRows, hchunkRows, hentry⟩, hread⟩

/-- The rows that match a record which was looked up hold it. -/
theorem exact_of_find (htable : db.table spec.name = .ok t) (h : t.Keeps spec affinities)
    (hfits : ∀ record ∈ records, Fits affinities record) (hfind : db.find spec records = .ok found)
    {record : Record} (hrecord : record ∈ records) : t.Exact spec record := by
  intro id values hget hmatches
  obtain ⟨rows, -, -, hall⟩ := exists_rows_of_find htable h hfits hfind
  obtain ⟨entry, -, hread⟩ := hall record hrecord _ (SortedMap.mem_entries_iff.2 hget) hmatches
  exact (h.cells_of_matches_of_readRow (hfits record hrecord) hmatches hread).2

/-- A look-up finds exactly the wanted records that have a row, each with the id of its row. -/
theorem find_eq_some_iff (htable : db.table spec.name = .ok t) (h : t.Keeps spec affinities)
    (hu : t.Unique) (hfits : ∀ record ∈ records, Fits affinities record)
    (hfind : db.find spec records = .ok found) {record : Record} {id : Int} :
    found.get? record = some id ↔ record ∈ records ∧ t.Has spec id record := by
  obtain ⟨rows, rfl, hrows, hall⟩ := exists_rows_of_find htable h hfits hfind
  have hsound : ∀ {record : Record} {id : Int}, (id, record) ∈ rows →
      record ∈ records ∧ t.Has spec id record := by
    intro record id hmem
    obtain ⟨wanted, hwanted, row, hrow, hmatches, hread⟩ := hrows _ hmem
    obtain ⟨rfl, hcells⟩ := h.cells_of_matches_of_readRow (hfits wanted hwanted) hmatches hread
    obtain ⟨rfl, -⟩ := h.readRow_eq_ok_iff.1 hread
    exact ⟨hwanted, row.2, SortedMap.mem_entries_iff.1 hrow, hcells⟩
  have hswap : ∀ {record : Record} {id : Int},
      (record, id) ∈ rows.map (fun row => (row.2, row.1)) ↔ (id, record) ∈ rows := by
    intro record id
    simp
  constructor
  · intro hget
    exact hsound (hswap.1 (SortedMap.mem_of_get?_ofList hget))
  · rintro ⟨hrecord, hhas⟩
    obtain ⟨values, hget, hcells⟩ := hhas
    obtain ⟨entry, hentry, hread⟩ := hall record hrecord _ (SortedMap.mem_entries_iff.2 hget)
      (h.matches_of_cells (hfits record hrecord) hcells)
    obtain rfl := Except.ok.inj ((h.readRow_of_cells hcells).symm.trans hread)
    -- the last entry of a record counts, but all of them are of its only row
    refine SortedMap.get?_ofList_of_forall (hswap.2 hentry) fun other hother => ?_
    exact h.has_unique hu (hsound (hswap.1 hother)).2 ⟨values, hget, hcells⟩

/-- A look-up of records that no row matches without holding them goes through. -/
theorem exists_find (htable : db.table spec.name = .ok t) (h : t.Keeps spec affinities)
    (hfits : ∀ record ∈ records, Fits affinities record)
    (hexact : ∀ record ∈ records, t.Exact spec record) :
    ∃ found, db.find spec records = .ok found := by
  have hchunk : ∀ chunk ∈ chunks chunkSize records, ∃ rows, db.findChunk spec chunk = .ok rows := by
    intro chunk hmem
    have hrecords : ∀ record ∈ chunk, record ∈ records := fun record =>
      mem_of_mem_chunks (by decide) hmem
    rw [findChunk_eq htable h fun record hrecord => hfits record (hrecords record hrecord)]
    refine exists_mapM_eq_ok fun row hrow => ?_
    obtain ⟨hrow, hany⟩ := List.mem_filter.1 hrow
    obtain ⟨record, hrecord, hmatches⟩ := List.any_eq_true.1 hany
    have hcells := hexact record (hrecords record hrecord) row.1 row.2
      (SortedMap.mem_entries_iff.1 hrow) hmatches
    exact ⟨_, h.readRow_of_cells hcells⟩
  obtain ⟨rows, hrows⟩ := exists_mapM_eq_ok hchunk
  unfold find
  rw [hrows]
  exact ⟨_, rfl⟩

end Find

/-! ### Looking ids up -/

/-- One statement reads the rows of its ids. -/
theorem findIdChunk_eq (htable : db.table spec.name = .ok t) (h : t.Keeps spec affinities)
    (ids : List Int) :
    db.findIdChunk spec ids =
      (t.rows.entries.filter fun row => ids.any fun id => row.1 == id).mapM (t.readRow spec) := by
  unfold findIdChunk
  rw [htable]
  show (t.identified (t.operand spec.idColumn) ids).mapM (t.readRow spec) = _
  rw [Table.operand_of_slot? h.numbered]
  rfl

/-- A look-up of ids goes through where their rows can be read, and finds what they read as. -/
theorem readsEach_findIds (htable : db.table spec.name = .ok t) (h : t.Keeps spec affinities) :
    ReadsEach (db.findIds spec)
      (fun id => ∀ values, t.rows.get? id = some values → ∃ record, t.Reads spec id record)
      (t.Reads spec) := by
  have hrow : ∀ (ids : List Int) (row : Row),
      row ∈ t.rows.entries.filter (fun row => ids.any fun id => row.1 == id) ↔
        t.rows.get? row.1 = some row.2 ∧ row.1 ∈ ids := by
    intro ids row
    rw [List.mem_filter, List.any_beq, List.contains_iff_mem]
    exact and_congr_left fun _ => SortedMap.mem_entries_iff
  refine readsEach_chunked (by decide : 0 < chunkSize) (fun ids => ?_) (fun hrows id record => ?_)
    Table.Reads.functional
  · rw [findIdChunk_eq htable h]
    constructor
    · rintro ⟨rows, hrows⟩ id hid values hget
      obtain ⟨⟨key, record⟩, -, hread⟩ := exists_of_mapM_eq_ok hrows
        ((hrow _ (id, values)).2 ⟨hget, hid⟩)
      obtain ⟨-, hreads⟩ := h.readRow_eq_ok_iff.1 hread
      exact ⟨record, values, hget, hreads⟩
    · intro hreadable
      refine exists_mapM_eq_ok fun row hmem => ?_
      obtain ⟨hget, hid⟩ := (hrow _ row).1 hmem
      obtain ⟨record, values, hget', hcells⟩ := hreadable row.1 hid row.2 hget
      rw [← Option.some.inj (hget.symm.trans hget')] at hcells
      exact ⟨_, h.readRow_eq_ok_iff.2 ⟨rfl, hcells⟩⟩
  · rw [findIdChunk_eq htable h] at hrows
    constructor
    · intro hentry
      obtain ⟨row, hmem, hread⟩ := mem_of_mapM_eq_ok hrows hentry
      obtain ⟨rfl, hreads⟩ := h.readRow_eq_ok_iff.1 hread
      obtain ⟨hget, hid⟩ := (hrow _ row).1 hmem
      exact ⟨hid, row.2, hget, hreads⟩
    · rintro ⟨hid, values, hget, hreads⟩
      obtain ⟨entry, hentry, hread⟩ := exists_of_mapM_eq_ok hrows
        ((hrow _ (id, values)).2 ⟨hget, hid⟩)
      rw [h.readRow_eq_ok_iff.2 ⟨rfl, hreads⟩] at hread
      exact Except.ok.inj hread ▸ hentry

end Database

end TermStore.Storage
