import TermStore.Proofs.Tables
import Mathlib.Data.List.Nodup

/-!
# What inserts do

An insert of records goes over them one by one and leaves those out that a row already matches. A
table with further columns or further unique indexes may leave out others too, unless these keep no
record out (`Table.Unhindered`). What an insert does to a table that keeps the records is said once,
by `Table.Gains`: all rows stay, each new row holds one of the records under a number that was never
given, and afterwards a row matches each of the records. The rest is composed from that.
-/

namespace TermStore.Storage

namespace Table

variable {t t' t'' : Table} {spec : TableSpec} {affinities : List Affinity}

/-! ### States of one table -/

/-- Do two tables differ in their rows and their counter at most? -/
def Alike (t t' : Table) : Prop := t' = { t with rows := t'.rows, counter := t'.counter }

theorem Alike.refl (t : Table) : t.Alike t := rfl

theorem Alike.trans (h : t.Alike t') (h' : t'.Alike t'') : t.Alike t'' := by
  unfold Alike at h h' ⊢
  rw [h', h]

theorem Alike.symm (h : t.Alike t') : t'.Alike t := by
  unfold Alike at h ⊢
  rw [h]

theorem Alike.cells (h : t.Alike t') (spec : TableSpec) (row : Row) :
    t'.cells spec row = t.cells spec row := by
  rw [h]
  rfl

theorem Alike.matchesRecord (h : t.Alike t') (spec : TableSpec) (record : Record) (row : Row) :
    t'.matchesRecord spec record row = t.matchesRecord spec record row := by
  rw [h]
  rfl

theorem Alike.keeps (h : t.Alike t') (hk : t.Keeps spec affinities) : t'.Keeps spec affinities := by
  rw [h]
  exact ⟨hk.numbered, hk.nonempty, hk.stored, hk.distinct, hk.covered, hk.typed, hk.indexed,
    hk.unique⟩

theorem Alike.deduplicates (h : t.Alike t') (hd : t.Deduplicates spec affinities) :
    t'.Deduplicates spec affinities := by
  rw [h]
  exact ⟨hd.numbered, hd.stored, hd.distinct, hd.typed, hd.unique⟩

/-- Are all rows of a table still there? -/
def Extends (t t' : Table) : Prop :=
  t.Alike t' ∧ ∀ id values, t.rows.get? id = some values → t'.rows.get? id = some values

theorem Extends.refl (t : Table) : t.Extends t := ⟨Alike.refl t, fun _ _ h => h⟩

theorem Extends.trans (h : t.Extends t') (h' : t'.Extends t'') : t.Extends t'' :=
  ⟨h.1.trans h'.1, fun id values hget => h'.2 id values (h.2 id values hget)⟩

theorem Extends.has (h : t.Extends t') {id : Int} {record : Record} (hhas : t.Has spec id record) :
    t'.Has spec id record := by
  obtain ⟨values, hget, hcells⟩ := hhas
  exact ⟨values, h.2 id values hget, by rw [h.1.cells, hcells]⟩

theorem Extends.reads (h : t.Extends t') {id : Int} {record : Record}
    (hreads : t.Reads spec id record) : t'.Reads spec id record := by
  obtain ⟨values, hget, hcells⟩ := hreads
  exact ⟨values, h.2 id values hget, by rw [h.1.cells]; exact hcells⟩

/-! ### The row made of a record -/

/-- The values that a table keeps for a record. -/
def rowOf (t : Table) (spec : TableSpec) (record : Record) : Values :=
  t.arrange spec.columns (record.map Cell.toValue)

namespace Deduplicates

/-- A column of the table is given the cell that the specification has for it. -/
theorem find?_given (h : t.Deduplicates spec affinities) (values : Values)
    (hlength : values.length = spec.columns.length) {i : Nat} (hi : i < spec.columns.length)
    {column : Column} (hsame : sameName spec.columns[i] column.name = true) :
    (((spec.columns.zip values).find? fun pair => sameName pair.1 column.name).map Prod.snd) =
      values[i]? := by
  have hvalue : i < values.length := hlength ▸ hi
  have hzip : i < (spec.columns.zip values).length := by
    rw [List.length_zip]
    omega
  cases hfind : (spec.columns.zip values).find? fun pair => sameName pair.1 column.name with
  | none =>
      have := List.find?_eq_none.1 hfind _ (List.getElem_mem hzip)
      rw [List.getElem_zip] at this
      exact absurd hsame this
  | some pair =>
      obtain ⟨hpair, k, hk, hget, -⟩ := List.find?_eq_some_iff_getElem.1 hfind
      have hcolumn : k < spec.columns.length := by
        rw [List.length_zip] at hk
        omega
      rw [List.getElem_zip] at hget
      subst hget
      -- the columns have slots of their own, so no other one has this name
      have hslot : t.slot? spec.columns[k] = t.slot? spec.columns[i] :=
        (slot?_congr hpair).trans (slot?_congr hsame).symm
      have hk' : k < (spec.columns.map t.slot?).length := by rwa [List.length_map]
      have hi' : i < (spec.columns.map t.slot?).length := by rwa [List.length_map]
      have hslots : (spec.columns.map t.slot?)[k] = (spec.columns.map t.slot?)[i] := by
        rw [List.getElem_map, List.getElem_map, hslot]
      obtain rfl := h.distinct.getElem_inj_iff.1 hslots
      rw [List.getElem?_eq_getElem hvalue]
      rfl

/-- The row made of a record has what its columns keep for the record. -/
theorem cells_rowOf_kept (h : t.Deduplicates spec affinities) {record : Record}
    (hlength : record.length = spec.columns.length) (number : Int) :
    t.cells spec (number, t.rowOf spec record) = keptValues affinities record := by
  have htypes : affinities.length = spec.columns.length := by
    rw [← h.typed, List.length_map]
  refine List.ext_getElem (by simp [cells, keptValues, hlength, htypes]) fun i hi hi' => ?_
  have hname : i < spec.columns.length := by simpa [cells] using hi
  have hcell : i < record.length := hlength ▸ hname
  obtain ⟨index, hslot⟩ := h.stored spec.columns[i] (List.getElem_mem hname)
  obtain ⟨column, hcolumn, hsame⟩ := exists_column_of_slot? hslot
  have hgiven := h.find?_given (record.map Cell.toValue) (by simp [hlength]) hname hsame
  have hbound : i < affinities.length := htypes ▸ hname
  have htype : affinities[i] = column.affinity := by
    have hmap : i < (spec.columns.map fun name => (t.operand name).affinity).length := by
      rwa [List.length_map]
    have := List.getElem_of_eq h.typed hmap
    rw [List.getElem_map, operand_of_slot? hslot] at this
    rw [← this]
    simp only [Table.stored, Operand.affinity, Table.affinity, hcolumn, Option.map_some,
      Option.getD_some]
  have hkept : (t.rowOf spec record)[index]? =
      some (column.affinity.adopt record[i].toValue) := by
    rw [rowOf, arrange, List.getElem?_map, hcolumn, Option.map_some, hgiven,
      List.getElem?_map, List.getElem?_eq_getElem hcell, Option.map_some, Option.getD_some]
  simp only [cells, keptValues, List.getElem_map, List.getElem_zipWith, operand_of_slot? hslot,
    Table.stored, Operand.value, Slot.value, hkept, Option.getD_some, htype]

/-- A row agrees in an index over the columns of the records with the row made of a record when it
matches the record. -/
theorem agreeIn_rowOf (h : t.Deduplicates spec affinities) {record : Record}
    (hlength : record.length = spec.columns.length) {index : Index}
    (hindexed : t.IndexedBy spec index) (number : Int) {row : Row} :
    agreeIn (t.indexSlots index) (number, t.rowOf spec record) row = true ↔
      t.matchesRecord spec record row = true := by
  rw [h.agreeIn_iff hindexed, h.matches_iff_kept hlength, h.cells_rowOf_kept hlength]
  constructor
  · intro hagree
    refine (List.Forall₂.imp (fun kept value hxy => ?_) hagree).flip
    show value.agrees kept = true
    rw [Value.agrees_comm]
    exact hxy
  · intro hagree
    refine List.Forall₂.imp (fun kept value hxy => ?_) hagree.flip
    rw [Value.agrees_comm]
    exact hxy

/-- Where the row made of a record is accepted, no row matches the record. -/
theorem not_matches_of_check (h : t.Deduplicates spec affinities) {record : Record}
    (hlength : record.length = spec.columns.length) {number : Int}
    (hcheck : t.check t.rows.entries (number, t.rowOf spec record) = .ok ()) :
    ∀ row ∈ t.rows.entries, t.matchesRecord spec record row = false := by
  obtain ⟨index, hindex, hunique, hindexed⟩ := h.unique
  have hconflict : t.conflict? t.rows.entries (number, t.rowOf spec record) = none := by
    unfold check at hcheck
    split at hcheck
    · cases hcheck
    · split at hcheck
      · cases hcheck
      · assumption
  intro row hrow
  rw [Bool.eq_false_iff]
  intro hmatches
  refine List.find?_eq_none.1 hconflict index hindex (Bool.and_eq_true_iff.2 ⟨hunique, ?_⟩)
  exact List.any_eq_true.2 ⟨row, hrow, (h.agreeIn_rowOf hlength hindexed number).2 hmatches⟩

end Deduplicates

/-- The row made of a record holds it. -/
theorem Keeps.cells_rowOf (h : t.Keeps spec affinities) {record : Record}
    (hfits : Fits affinities record) (number : Int) :
    t.cells spec (number, t.rowOf spec record) = record.map Cell.toValue := by
  rw [h.deduplicates.cells_rowOf_kept (h.length_eq hfits), hfits.keptValues_eq]

/-! ### Rows that are refused -/

/-- Nothing keeps a record of a specification out of a table but a row that matches it. -/
structure Unhindered (t : Table) (spec : TableSpec) : Prop where
  /-- The columns that need a value are among those of the records. -/
  filled : ∀ column ∈ t.columns, column.required = true →
    ∃ name ∈ spec.columns, sameName name column.name = true
  /-- A unique index that is over columns of the records only is over all of these. -/
  whole : ∀ index ∈ t.indexes, index.unique = true →
    (∀ slot ∈ t.indexSlots index, some slot ∈ spec.columns.map t.slot?) → t.IndexedBy spec index

theorem Keeps.unhindered (h : t.Keeps spec affinities) : t.Unhindered spec where
  filled column hcolumn _ := h.covered column hcolumn
  whole index hindex hunique _ := h.indexed index hindex hunique

theorem Alike.unhindered (h : t.Alike t') (hu : t.Unhindered spec) : t'.Unhindered spec := by
  rw [h]
  exact ⟨hu.filled, hu.whole⟩

/-- In a column that is none of those of the records, the row made of a record has no value. -/
theorem value_rowOf_further {record : Record} {name : String} {slot : Slot} {number : Int}
    (hslot : t.slot? name = some slot) (hfurther : some slot ∉ spec.columns.map t.slot?)
    (hnumber : slot ≠ .number) : slot.value (number, t.rowOf spec record) = .null := by
  cases slot with
  | number => exact absurd rfl hnumber
  | column i =>
      obtain ⟨column, hcolumn, hsame⟩ := exists_column_of_slot? hslot
      have hgiven : (spec.columns.zip (record.map Cell.toValue)).find?
          (fun pair => sameName pair.1 column.name) = none := by
        refine List.find?_eq_none.2 fun pair hpair hpairsame => hfurther ?_
        refine List.mem_map.2 ⟨pair.1, (List.of_mem_zip hpair).1, ?_⟩
        rw [slot?_congr hpairsame, ← slot?_congr hsame, hslot]
      have hnull : ∀ a : Affinity, a.adopt .null = .null := fun a => by cases a <;> rfl
      show ((t.rowOf spec record)[i]?).getD .null = _
      rw [rowOf, arrange, List.getElem?_map, hcolumn, Option.map_some, hgiven, Option.map_none,
        Option.getD_none, hnull, Option.getD_some]

/-- Only in columns of the records can the row made of a record, under a number that is free, agree
with another row. -/
theorem mem_of_agreeIn_rowOf {record : Record} {index : Index} {number : Int} {row : Row}
    (hfree : t.rows.get? number = none) (hrow : row ∈ t.rows.entries)
    (hagree : agreeIn (t.indexSlots index) (number, t.rowOf spec record) row = true) :
    ∀ slot ∈ t.indexSlots index, some slot ∈ spec.columns.map t.slot? := by
  intro slot hslot
  by_contra hfurther
  have hsame := List.all_eq_true.1 hagree slot hslot
  obtain ⟨name, -, hname⟩ := List.mem_filterMap.1 hslot
  by_cases hnumber : slot = .number
  · -- the number of the new row is that of no other row
    subst hnumber
    have hid : number = row.1 := of_decide_eq_true hsame
    rw [hid, SortedMap.mem_entries_iff.1 hrow] at hfree
    cases hfree
  · rw [value_rowOf_further hname hfurther hnumber, Value.agrees_null] at hsame
    cases hsame

/-- The row made of a record lacks no value. -/
theorem Unhindered.unfilled?_rowOf (hu : t.Unhindered spec) (h : t.Deduplicates spec affinities)
    {record : Record} (hlength : record.length = spec.columns.length) :
    t.unfilled? (t.rowOf spec record) = none := by
  unfold unfilled?
  rw [Option.map_eq_none_iff, List.find?_eq_none]
  intro pair hpair
  obtain ⟨k, hk, rfl⟩ := List.getElem_of_mem hpair
  have hcolumn : k < t.columns.length := by
    rw [List.length_zip] at hk
    omega
  simp only [List.getElem_zip, Bool.and_eq_true, beq_iff_eq, not_and]
  intro hrequired
  obtain ⟨name, hname, hsame⟩ := hu.filled t.columns[k] (List.getElem_mem hcolumn) hrequired
  obtain ⟨i, hi, rfl⟩ := List.getElem_of_mem hname
  have hgiven := h.find?_given (record.map Cell.toValue) (by simp [hlength]) hi hsame
  have hcell : i < record.length := hlength ▸ hi
  rw [List.getElem?_map, List.getElem?_eq_getElem hcell, Option.map_some] at hgiven
  simp only [rowOf, arrange, List.getElem_map, hgiven, Option.getD_some]
  exact Cell.adopt_toValue_ne_null t.columns[k].affinity record[i]

/-- Where the row made of a record is refused, some row matches the record. -/
theorem Unhindered.exists_matching (hu : t.Unhindered spec) (h : t.Deduplicates spec affinities)
    {record : Record} (hlength : record.length = spec.columns.length) {number : Int}
    (hfree : t.rows.get? number = none)
    (hrefused : t.check t.rows.entries (number, t.rowOf spec record) ≠ .ok ()) :
    ∃ row ∈ t.rows.entries, t.matchesRecord spec record row = true := by
  unfold check at hrefused
  rw [show t.unfilled? (number, t.rowOf spec record).2 = none from hu.unfilled?_rowOf h hlength]
    at hrefused
  cases hconflict : t.conflict? t.rows.entries (number, t.rowOf spec record) with
  | none =>
      rw [hconflict] at hrefused
      exact absurd rfl hrefused
  | some index =>
      have hindex := List.mem_of_find?_eq_some hconflict
      have hboth := List.find?_some hconflict
      rw [Bool.and_eq_true] at hboth
      obtain ⟨hunique, hany⟩ := hboth
      obtain ⟨row, hrow, hagree⟩ := List.any_eq_true.1 hany
      have hindexed := hu.whole index hindex hunique (mem_of_agreeIn_rowOf hfree hrow hagree)
      exact ⟨row, hrow, (h.agreeIn_rowOf hlength hindexed number).1 hagree⟩

/-! ### Numbers -/

theorem exists_largest {id : Int} {values : Values} (h : t.rows.get? id = some values) :
    ∃ largest, t.largest? = some largest ∧ id ≤ largest := by
  have hmem : id ∈ t.rows.keys := SortedMap.mem_keys_iff.2 ⟨values, h⟩
  cases hlast : t.rows.keys.getLast? with
  | none =>
      rw [List.getLast?_eq_none_iff.1 hlast] at hmem
      cases hmem
  | some largest => exact ⟨largest, hlast, SortedMap.le_of_getLast?_keys hmem hlast⟩

/-- The number that a row gets is not that of another row. -/
theorem get?_nextNumber {number : Int} (h : t.nextNumber? = some number) :
    t.rows.get? number = none := by
  rw [Option.eq_none_iff_forall_ne_some]
  intro values hget
  obtain ⟨largest, hlargest, hle⟩ := exists_largest hget
  unfold nextNumber? at h
  rw [hlargest] at h
  cases hcounter : t.counter with
  | some counter =>
      simp only [hcounter, Option.getD_some, Option.ite_none_right_eq_some,
        Option.some.injEq] at h
      omega
  | none =>
      -- without a counter, and with the last of all numbers taken, a free one is searched for
      simp only [hcounter] at h
      by_cases hmax : largest < Decimal.maxInt64
      · rw [if_pos hmax, Option.some.injEq] at h
        omega
      · rw [if_neg hmax] at h
        have hfree := List.find?_some h
        rw [Bool.not_eq_true', SortedMap.contains_eq_false_iff, hget] at hfree
        cases hfree

/-- The number that a row gets is above the counter. -/
theorem counter_lt_nextNumber {number counter : Int} (hcounter : t.counter = some counter)
    (h : t.nextNumber? = some number) : counter < number := by
  unfold nextNumber? at h
  simp only [hcounter, Option.ite_none_right_eq_some, Option.some.injEq] at h
  omega

/-- A table knows a number that none of its rows is above. -/
def Remembers (t : Table) : Prop :=
  ∃ counter, t.counter = some counter ∧
    ∀ id values, t.rows.get? id = some values → id ≤ counter

/-- A later state of a table: a row that was not there has a number above the counter. -/
structure Later (t t' : Table) : Prop where
  alike : t.Alike t'
  counter : ∀ counter, t.counter = some counter →
    ∃ counter', t'.counter = some counter' ∧ counter ≤ counter'
  rows : ∀ id values, t'.rows.get? id = some values →
    t.rows.get? id = some values ∨ ∀ counter, t.counter = some counter → counter < id

theorem Later.refl (t : Table) : t.Later t where
  alike := Alike.refl t
  counter counter h := ⟨counter, h, Int.le_refl counter⟩
  rows _ _ h := Or.inl h

/-- Numbers that are above the counter now were above it before, as the counter never goes down. -/
theorem Later.trans (h : t.Later t') (h' : t'.Later t'') : t.Later t'' where
  alike := h.alike.trans h'.alike
  counter counter hc := by
    obtain ⟨counter', hc', hle⟩ := h.counter counter hc
    obtain ⟨counter'', hc'', hle'⟩ := h'.counter counter' hc'
    exact ⟨counter'', hc'', Int.le_trans hle hle'⟩
  rows id values hget := by
    rcases h'.rows id values hget with hget | habove
    · exact h.rows id values hget
    · refine Or.inr fun counter hc => ?_
      obtain ⟨counter', hc', hle⟩ := h.counter counter hc
      exact Int.lt_of_le_of_lt hle (habove counter' hc')

theorem later_counted {number : Int} : t.Later (t.counted number) where
  alike := rfl
  counter counter h := ⟨max counter number, by simp [counted, h], by omega⟩
  rows _ _ h := Or.inl h

theorem Remembers.counted (h : t.Remembers) (number : Int) : (t.counted number).Remembers := by
  obtain ⟨counter, hcounter, hle⟩ := h
  refine ⟨max counter number, by simp [Table.counted, hcounter], fun id values hget => ?_⟩
  have := hle id values hget
  omega

/-! ### Inserting one record -/

/-- What an insert of records makes of a table. -/
structure Gains (spec : TableSpec) (records : List Record) (t t' : Table) : Prop where
  kept : t.Extends t'
  /-- Each new row holds one of the records. -/
  gained : ∀ id values, t'.rows.get? id = some values → t.rows.get? id = some values ∨
    ∃ record ∈ records, t'.cells spec (id, values) = record.map Cell.toValue
  /-- Each of the records has a row that matches it. -/
  matched : ∀ record ∈ records, ∃ row ∈ t'.rows.entries, t'.matchesRecord spec record row = true
  unique : t.Unique → t'.Unique
  later : t.Later t'
  remembers : t.Remembers → t'.Remembers

theorem Gains.nil (t : Table) : Gains spec [] t t where
  kept := Extends.refl t
  gained _ _ h := Or.inl h
  matched _ h := absurd h List.not_mem_nil
  unique h := h
  later := Later.refl t
  remembers h := h

/-- Two inserts, one after the other, gain the table what they gain it together. -/
theorem Gains.append {records records' : List Record} (h : Gains spec records t t')
    (h' : Gains spec records' t' t'') : Gains spec (records ++ records') t t'' where
  kept := h.kept.trans h'.kept
  gained id values hget := by
    rcases h'.gained id values hget with hget | ⟨record, hmem, hcells⟩
    · rcases h.gained id values hget with hget | ⟨record, hmem, hcells⟩
      · exact Or.inl hget
      · rw [← h'.kept.1.cells] at hcells
        exact Or.inr ⟨record, List.mem_append_left _ hmem, hcells⟩
    · exact Or.inr ⟨record, List.mem_append_right _ hmem, hcells⟩
  matched record hmem := by
    rcases List.mem_append.1 hmem with hmem | hmem
    · obtain ⟨row, hrow, hmatches⟩ := h.matched record hmem
      refine ⟨row, ?_, ?_⟩
      · exact SortedMap.mem_entries_iff.2 (h'.kept.2 _ _ (SortedMap.mem_entries_iff.1 hrow))
      · rw [h'.kept.1.matchesRecord]
        exact hmatches
    · exact h'.matched record hmem
  unique hu := h'.unique (h.unique hu)
  later := h.later.trans h'.later
  remembers hr := h'.remembers (h.remembers hr)

theorem agreeIn_comm (slots : List Slot) (x y : Row) : agreeIn slots x y = agreeIn slots y x := by
  unfold agreeIn
  simp only [Value.agrees_comm]

/-- A row left out changes the counter only. -/
theorem gains_counted {number : Int} {record : Record}
    (hmatched : ∃ row ∈ t.rows.entries, t.matchesRecord spec record row = true) :
    Gains spec [record] t (t.counted number) where
  kept := ⟨rfl, fun _ _ h => h⟩
  gained _ _ h := Or.inl h
  matched other hmem := by
    obtain rfl := List.mem_singleton.1 hmem
    exact hmatched
  unique h := h
  later := later_counted
  remembers h := h.counted number

section Add

variable {number id : Int} {values new : Values}

theorem get?_add (t : Table) (number id : Int) (new : Values) :
    (t.add number new).rows.get? id = if id = number then some new else t.rows.get? id :=
  SortedMap.get?_put t.rows number id new

/-- The rows after one is added are the old ones and the new one. -/
theorem get?_add_cases (hget : (t.add number new).rows.get? id = some values) :
    t.rows.get? id = some values ∨ id = number ∧ values = new := by
  rw [get?_add] at hget
  by_cases hid : id = number
  · rw [if_pos hid] at hget
    exact Or.inr ⟨hid, (Option.some.inj hget).symm⟩
  · rw [if_neg hid] at hget
    exact Or.inl hget

/-- A row is added above all numbers that were ever given. -/
theorem later_add (hnumber : t.nextNumber? = some number) (new : Values) :
    t.Later (t.add number new) where
  alike := rfl
  counter := later_counted.counter
  rows id values hget := by
    rcases get?_add_cases hget with hold | ⟨rfl, -⟩
    · exact Or.inl hold
    · exact Or.inr fun counter hcounter => counter_lt_nextNumber hcounter hnumber

/-- A row that agrees with no other in a unique index can be added. -/
theorem Unique.add (h : t.Unique)
    (hnone : ∀ index ∈ t.indexes, index.unique = true → ∀ row ∈ t.rows.entries,
      agreeIn (t.indexSlots index) (number, new) row ≠ true) : (t.add number new).Unique := by
  intro index hindex hunique x hx y hy hagree
  rcases get?_add_cases (SortedMap.mem_entries_iff.1 hx) with hx | ⟨hxid, hxvalues⟩ <;>
    rcases get?_add_cases (SortedMap.mem_entries_iff.1 hy) with hy | ⟨hyid, hyvalues⟩
  · exact h index hindex hunique x (SortedMap.mem_entries_iff.2 hx) y
      (SortedMap.mem_entries_iff.2 hy) hagree
  · obtain rfl : y = (number, new) := Prod.ext hyid hyvalues
    rw [agreeIn_comm] at hagree
    exact absurd hagree (hnone index hindex hunique x (SortedMap.mem_entries_iff.2 hx))
  · obtain rfl : x = (number, new) := Prod.ext hxid hxvalues
    exact absurd hagree (hnone index hindex hunique y (SortedMap.mem_entries_iff.2 hy))
  · rw [hxid, hyid]

/-- The counter is never below a number in the table. -/
theorem Remembers.add (h : t.Remembers) (number : Int) (new : Values) :
    (t.add number new).Remembers := by
  obtain ⟨counter, hcounter, hle⟩ := h
  -- the counter goes up to the number of the new row, if it is not there already
  refine ⟨max counter number, by simp [Table.add, Table.counted, hcounter],
    fun id values hget => ?_⟩
  rcases get?_add_cases hget with hold | ⟨rfl, -⟩
  · have := hle id values hold
    omega
  · omega

end Add

/-- A row added under the next number holds the record it is made of. -/
theorem gains_add (h : t.Keeps spec affinities) {record : Record} (hfits : Fits affinities record)
    {number : Int} (hnumber : t.nextNumber? = some number)
    (hnew : ∀ row ∈ t.rows.entries, t.matchesRecord spec record row = false) :
    Gains spec [record] t (t.add number (t.rowOf spec record)) := by
  have hfresh := get?_nextNumber hnumber
  have hcells := h.cells_rowOf hfits number
  constructor
  case kept =>
    refine ⟨rfl, fun id values hget => ?_⟩
    rw [get?_add, if_neg (fun hid => ?_)]
    · exact hget
    · rw [hid, hfresh] at hget
      cases hget
  case gained =>
    intro id values hget
    rcases get?_add_cases hget with hold | ⟨rfl, rfl⟩
    · exact Or.inl hold
    · exact Or.inr ⟨record, List.mem_singleton_self record, hcells⟩
  case matched =>
    intro other hmem
    obtain rfl := List.mem_singleton.1 hmem
    have hrow : (t.add number (t.rowOf spec other)).rows.get? number =
        some (t.rowOf spec other) := by
      rw [get?_add, if_pos rfl]
    exact ⟨_, SortedMap.mem_entries_iff.2 hrow, h.matches_of_cells hfits hcells⟩
  case unique =>
    intro hunique
    refine hunique.add fun index hindex hunique row hrow hagree => ?_
    -- a row that agrees with the new one would match its record
    have hmatches := (h.deduplicates.agreeIn_rowOf (h.length_eq hfits)
      (h.indexed index hindex hunique) number).1 hagree
    rw [hnew row hrow] at hmatches
    cases hmatches
  case later => exact later_add hnumber _
  case remembers =>
    intro hremembers
    exact hremembers.add number _

/-- A row that is to be added is added under the next number, or uses it up. -/
theorem addIgnoring_cases {values : Values} {added : Bool}
    (hadd : t.addIgnoring values = .ok (t', added)) :
    ∃ number, t.nextNumber? = some number ∧
      ((t.check t.rows.entries (number, values) = .ok () ∧ t' = t.add number values ∧
          added = true) ∨
        (t.check t.rows.entries (number, values) ≠ .ok () ∧ t' = t.counted number ∧
          added = false)) := by
  unfold addIgnoring at hadd
  cases hnumber : t.nextNumber? with
  | none => rw [hnumber] at hadd; cases hadd
  | some number =>
      simp only [hnumber] at hadd
      refine ⟨number, rfl, ?_⟩
      cases hresult : t.check t.rows.entries (number, values) with
      | ok _ =>
          rw [hresult] at hadd
          cases hadd
          exact Or.inl ⟨rfl, rfl, rfl⟩
      | error fault =>
          rw [hresult] at hadd
          cases hadd
          exact Or.inr ⟨nofun, rfl, rfl⟩

/-- Adding the row made of a record either adds it or finds a row that matches the record. -/
theorem gains_of_addIgnoring (h : t.Keeps spec affinities) {record : Record}
    (hfits : Fits affinities record) {added : Bool}
    (hadd : t.addIgnoring (t.rowOf spec record) = .ok (t', added)) :
    Gains spec [record] t t' := by
  have hlength := h.length_eq hfits
  obtain ⟨number, hnumber, ⟨hcheck, rfl, -⟩ | ⟨hcheck, rfl, -⟩⟩ := addIgnoring_cases hadd
  · exact gains_add h hfits hnumber (h.deduplicates.not_matches_of_check hlength hcheck)
  · exact gains_counted
      (h.unhindered.exists_matching h.deduplicates hlength (get?_nextNumber hnumber) hcheck)

end Table

/-! ### Inserting into a database -/

namespace Database

variable {db db' : Database} {t : Table} {spec : TableSpec} {affinities : List Affinity}
  {records : List Record}

/-- A table that is put into a database is found under its name, whatever the case of its letters.
-/
theorem table_setTable (db : Database) (t : Table) (name : String) :
    (db.setTable t).table name =
      if foldName name = foldName t.name then .ok t else db.table name := by
  unfold table setTable
  rw [SortedMap.get?_put]
  by_cases h : foldName name = foldName t.name
  · rw [if_pos h, if_pos h]
  · rw [if_neg h, if_neg h]

/-- A record that is inserted has the right number of values, and its row is added or left out. -/
theorem insertOne_eq_ok {record : Record} {state : Table × Nat} {count : Nat}
    (hinsert : db.insertOne spec (t, count) record = .ok state) :
    record.length = spec.columns.length ∧ ∃ added, t.addIgnoring (t.rowOf spec record) =
      .ok (state.1, added) ∧ state.2 = if added then count + 1 else count := by
  unfold insertOne at hinsert
  obtain ⟨_, hcount, hinsert⟩ := bind_eq_ok_iff.1 hinsert
  obtain ⟨_, -, hinsert⟩ := bind_eq_ok_iff.1 hinsert
  obtain ⟨⟨t', added⟩, hadd, hinsert⟩ := bind_eq_ok_iff.1 hinsert
  cases hinsert
  refine ⟨?_, added, hadd, rfl⟩
  unfold checkCount at hcount
  split at hcount
  · assumption
  · cases hcount

theorem gains_of_insertOne (h : t.Keeps spec affinities) {record : Record}
    (hfits : Fits affinities record) {state : Table × Nat} {count : Nat}
    (hinsert : db.insertOne spec (t, count) record = .ok state) :
    t.Gains spec [record] state.1 := by
  obtain ⟨-, added, hadd, -⟩ := insertOne_eq_ok hinsert
  exact Table.gains_of_addIgnoring h hfits hadd

/-- Inserting records one after the other gains the table all of them. -/
theorem gains_of_foldlM (h : t.Keeps spec affinities)
    (hfits : ∀ record ∈ records, Fits affinities record) {count : Nat} {state : Table × Nat}
    (hfold : records.foldlM (db.insertOne spec) (t, count) = .ok state) :
    t.Gains spec records state.1 := by
  induction records generalizing t count with
  | nil =>
      cases hfold
      exact Table.Gains.nil t
  | cons record rest ih =>
      rw [List.foldlM_cons] at hfold
      cases hone : db.insertOne spec (t, count) record with
      | error fault => rw [hone] at hfold; cases hfold
      | ok middle =>
          rw [hone] at hfold
          have hfirst := gains_of_insertOne h (hfits record List.mem_cons_self) hone
          have hkeeps : middle.1.Keeps spec affinities := hfirst.kept.1.keeps h
          have hrest := ih hkeeps (fun r hr => hfits r (List.mem_cons_of_mem _ hr)) hfold
          exact hfirst.append hrest

/-- An insert gains its table the records, and no other table changes. -/
theorem gains_of_insert (htable : db.table spec.name = .ok t)
    (hname : foldName t.name = foldName spec.name) (h : t.Keeps spec affinities)
    (hfits : ∀ record ∈ records, Fits affinities record) {added : Nat}
    (hinsert : db.insertIgnoring spec records = .ok (added, db')) :
    ∃ t', t.Gains spec records t' ∧ db'.table spec.name = .ok t' ∧
      ∀ name, foldName name ≠ foldName spec.name → db'.table name = db.table name := by
  unfold insertIgnoring at hinsert
  by_cases hempty : records.isEmpty = true
  · rw [if_pos hempty] at hinsert
    cases hinsert
    rw [List.isEmpty_iff.1 hempty]
    exact ⟨t, Table.Gains.nil t, htable, fun _ _ => rfl⟩
  · rw [if_neg hempty, htable] at hinsert
    cases hcolumns : checkInserted t spec.name spec.columns with
    | error fault => simp only [hcolumns, bind, Except.bind, reduceCtorEq] at hinsert
    | ok _ =>
        cases hfold : records.foldlM (db.insertOne spec) (t, 0) with
        | error fault => simp only [hcolumns, hfold, bind, Except.bind, reduceCtorEq] at hinsert
        | ok state =>
            simp only [hcolumns, hfold, bind, Except.bind, pure, Except.pure, Except.ok.injEq,
              Prod.mk.injEq] at hinsert
            obtain ⟨-, rfl⟩ := hinsert
            have hgains := gains_of_foldlM h hfits hfold
            have hname' : foldName state.1.name = foldName spec.name := by
              rw [hgains.kept.1]
              exact hname
            refine ⟨state.1, hgains, ?_, fun name hne => ?_⟩
            · rw [table_setTable, if_pos hname'.symm]
            · rw [table_setTable, if_neg (hname' ▸ hne)]

end Database

end TermStore.Storage
