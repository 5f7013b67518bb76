import TermStore.Storage.Database
import TermStore.Proofs.Maps

/-!
# Tables that keep records

A table *deduplicates* the records of a specification when its id column is the key and a unique
index is over all columns of the records (`Table.Deduplicates`); it may have other columns and other
unique indexes. It *keeps* the records when there are no others (`Table.Keeps`). Then a row either
holds a record, cell by cell, or holds none (`Table.Has`), and no two rows hold the same one.

A look-up compares values and reads back what a row holds, so two more notions matter. A row
*matches* a record when a look-up of the record selects it, which is more than holding it: a number
matches a whole number that it is equal to. A row *reads* as a record when that is what comes back,
which is more as well: bytes are read as text.
-/

namespace TermStore.Storage

/-! ### Cells and values -/

theorem Value.agrees_comm (x y : Value) : x.agrees y = y.agrees x := by
  cases x <;> cases y <;> simp only [agrees, Bool.beq_comm]

namespace Cell

/-- The type of the columns that keep a cell as it is. -/
def affinity : Cell → Affinity
  | .integer _ => .integer
  | .text _ => .text

@[simp] theorem adopt_toValue (c : Cell) : c.affinity.adopt c.toValue = c.toValue := by
  cases c <;> rfl

@[simp] theorem agrees_toValue (c : Cell) : c.toValue.agrees c.toValue = true := by
  cases c <;> simp [toValue]

/-- No column keeps null for a cell. -/
theorem adopt_toValue_ne_null (a : Affinity) (c : Cell) : a.adopt c.toValue ≠ .null := by
  cases a <;> cases c <;> simp only [toValue, Affinity.adopt, ne_eq, reduceCtorEq,
    not_false_eq_true]
  case integer.text spelling =>
    cases Decimal.Numeral.read? spelling.toList with
    | none => simp
    | some numeral =>
        simp only [numeralValue]
        split
        · simp
        · split
          · split <;> simp
          · simp

/-- What a value is read as. -/
inductive Reads : Value → Cell → Prop
  | integer (value : Int) : Reads (.integer value) (.integer value)
  | text (value : String) : Reads (.text value) (.text value)
  | blob {bytes : List UInt8} {value : String} (h : Text.Utf8.decode bytes = .ok value) :
      Reads (.blob bytes) (.text value)

theorem ofValue_eq_ok_iff {index : Nat} {column : String} {value : Value} {c : Cell} :
    ofValue index column value = .ok c ↔ Reads value c := by
  constructor
  · intro h
    cases value with
    | integer n => cases h; exact Reads.integer n
    | text s => cases h; exact Reads.text s
    | blob bytes =>
        rw [ofValue] at h
        cases hd : Text.Utf8.decode bytes with
        | ok s => rw [hd] at h; cases h; exact Reads.blob hd
        | error fault => rw [hd] at h; cases h
    | null => cases h
    | real x => cases h
  · intro h
    cases h with
    | integer n => rfl
    | text s => rfl
    | blob hd => rw [ofValue, hd]

theorem reads_toValue (c : Cell) : Reads c.toValue c := by
  cases c with
  | integer n => exact Reads.integer n
  | text s => exact Reads.text s

/-- A value that can be read and agrees with a cell is the value of that cell. -/
theorem Reads.eq_of_agrees {value : Value} {c d : Cell} (h : Reads value c)
    (hagrees : value.agrees d.toValue = true) : value = d.toValue ∧ c = d := by
  cases h with
  | integer n =>
      cases d with
      | integer m => simp [toValue] at hagrees ⊢; exact hagrees
      | text s => simp [toValue, Value.agrees] at hagrees
  | text s =>
      cases d with
      | integer m => simp [toValue, Value.agrees] at hagrees
      | text r => simp [toValue] at hagrees ⊢; exact hagrees
  | blob hd => cases d <;> simp [toValue, Value.agrees] at hagrees

theorem Reads.functional {value : Value} {c d : Cell} (h : Reads value c) (h' : Reads value d) :
    c = d := by
  cases h with
  | integer n => cases h'; rfl
  | text s => cases h'; rfl
  | blob hd =>
      cases h' with
      | blob hd' => rw [Except.ok.inj (hd.symm.trans hd')]

end Cell

/-- Does a record have a cell of the right kind for each column? -/
def Fits (affinities : List Affinity) (record : Record) : Prop :=
  record.map Cell.affinity = affinities

instance (affinities : List Affinity) (record : Record) : Decidable (Fits affinities record) :=
  inferInstanceAs (Decidable (_ = _))

/-- The values that columns of given types keep for a record. -/
def keptValues (affinities : List Affinity) (record : Record) : Values :=
  List.zipWith (fun affinity cell => affinity.adopt (Cell.toValue cell)) affinities record

/-- A record with a cell of the right kind for each column is kept as it is. -/
theorem Fits.keptValues_eq {affinities : List Affinity} {record : Record}
    (h : Fits affinities record) : keptValues affinities record = record.map Cell.toValue := by
  subst h
  simp [keptValues, List.zipWith_map_left, List.zipWith_self]

/-! ### Names and slots -/

theorem sameName_congr {a b : String} (h : sameName a b = true) : sameName a = sameName b := by
  funext name
  rw [sameName, beq_iff_eq] at h
  rw [sameName, sameName, h]

theorem sameName_symm {a b : String} (h : sameName a b = true) : sameName b a = true := by
  rw [sameName, beq_iff_eq] at h ⊢
  exact h.symm

theorem sameName_trans {a b c : String} (h : sameName a b = true) (h' : sameName b c = true) :
    sameName a c = true := by
  rw [sameName_congr h]
  exact h'

namespace Table

variable {t t' : Table} {spec : TableSpec} {affinities : List Affinity}

theorem slot?_congr {a b : String} (h : sameName a b = true) : t.slot? a = t.slot? b := by
  unfold slot?
  rw [sameName_congr h]

theorem exists_column_of_slot? {name : String} {index : Nat}
    (h : t.slot? name = some (.column index)) :
    ∃ column, t.columns[index]? = some column ∧ sameName name column.name = true := by
  unfold slot? at h
  split at h
  · cases h
  · obtain ⟨i, hfind, hi⟩ := Option.map_eq_some_iff.1 h
    cases hi
    obtain ⟨hlt, hsame, -⟩ := List.findIdx?_eq_some_iff_getElem.1 hfind
    exact ⟨t.columns[index], List.getElem?_eq_getElem hlt, hsame⟩

theorem operand_of_slot? {name : String} {slot : Slot} (h : t.slot? name = some slot) :
    t.operand name = t.stored slot := by
  simp only [operand, h]

/-! ### Keeping records -/

/-- The values of a row in the columns of a specification. -/
def cells (t : Table) (spec : TableSpec) (row : Row) : Values :=
  spec.columns.map fun name => (t.operand name).value row

/-- Does a look-up of a record select a row? -/
def matchesRecord (t : Table) (spec : TableSpec) (record : Record) (row : Row) : Bool :=
  ((spec.columns.map t.operand).zip (record.map Cell.toValue)).all fun pair =>
    pair.1.holds row pair.2

/-- An index is over the columns of a specification, and over no others. -/
def IndexedBy (t : Table) (spec : TableSpec) (index : Index) : Prop :=
  ∀ slot, slot ∈ t.indexSlots index ↔ some slot ∈ spec.columns.map t.slot?

/-- A table is keyed by the id column of a specification and unique in its other columns, which have
given types. -/
structure Deduplicates (t : Table) (spec : TableSpec) (affinities : List Affinity) : Prop where
  /-- The id of a row is its number. -/
  numbered : t.slot? spec.idColumn = some .number
  stored : ∀ name ∈ spec.columns, ∃ index, t.slot? name = some (.column index)
  distinct : (spec.columns.map t.slot?).Nodup
  typed : spec.columns.map (fun name => (t.operand name).affinity) = affinities
  unique : ∃ index ∈ t.indexes, index.unique = true ∧ t.IndexedBy spec index

/-- A table keeps the records of a specification whose columns have given types. -/
structure Keeps (t : Table) (spec : TableSpec) (affinities : List Affinity) : Prop where
  /-- The id of a row is its number. -/
  numbered : t.slot? spec.idColumn = some .number
  nonempty : spec.columns ≠ []
  stored : ∀ name ∈ spec.columns, ∃ index, t.slot? name = some (.column index)
  distinct : (spec.columns.map t.slot?).Nodup
  /-- There are no other columns. -/
  covered : ∀ column ∈ t.columns, ∃ name ∈ spec.columns, sameName name column.name = true
  typed : spec.columns.map (fun name => (t.operand name).affinity) = affinities
  /-- The unique indexes, of which there is one, are over all columns. -/
  indexed : ∀ index ∈ t.indexes, index.unique = true →
    ∀ slot, slot ∈ t.indexSlots index ↔ some slot ∈ spec.columns.map t.slot?
  unique : ∃ index ∈ t.indexes, index.unique = true

/-- No unique index is broken. -/
def Unique (t : Table) : Prop :=
  ∀ index ∈ t.indexes, index.unique = true → ∀ x ∈ t.rows.entries, ∀ y ∈ t.rows.entries,
    agreeIn (t.indexSlots index) x y = true → x.1 = y.1

/-- A row holds a record. -/
def Has (t : Table) (spec : TableSpec) (id : Int) (record : Record) : Prop :=
  ∃ values, t.rows.get? id = some values ∧ t.cells spec (id, values) = record.map Cell.toValue

/-- A row reads as a record. -/
def Reads (t : Table) (spec : TableSpec) (id : Int) (record : Record) : Prop :=
  ∃ values, t.rows.get? id = some values ∧
    List.Forall₂ Cell.Reads (t.cells spec (id, values)) record

/-- The rows that a look-up of a record selects all hold it. -/
def Exact (t : Table) (spec : TableSpec) (record : Record) : Prop :=
  ∀ id values, t.rows.get? id = some values → t.matchesRecord spec record (id, values) = true →
    t.cells spec (id, values) = record.map Cell.toValue

theorem Has.reads {id : Int} {record : Record} (h : t.Has spec id record) :
    t.Reads spec id record := by
  obtain ⟨values, hget, hcells⟩ := h
  refine ⟨values, hget, ?_⟩
  rw [hcells, List.forall₂_map_left_iff]
  exact List.forall₂_same.2 fun c _ => Cell.reads_toValue c

theorem Has.functional {id : Int} {record record' : Record} (h : t.Has spec id record)
    (h' : t.Has spec id record') : record = record' := by
  obtain ⟨values, hget, hcells⟩ := h
  obtain ⟨values', hget', hcells'⟩ := h'
  rw [Option.some.inj (hget.symm.trans hget')] at hcells
  have hmap : record.map Cell.toValue = record'.map Cell.toValue := hcells.symm.trans hcells'
  refine List.map_injective_iff.2 (fun c d h => ?_) hmap
  cases c <;> cases d <;> simp_all [Cell.toValue]

theorem Reads.functional {id : Int} {record record' : Record} (h : t.Reads spec id record)
    (h' : t.Reads spec id record') : record = record' := by
  obtain ⟨values, hget, hreads⟩ := h
  obtain ⟨values', hget', hreads'⟩ := h'
  rw [Option.some.inj (hget.symm.trans hget')] at hreads
  have hunique : Relator.RightUnique Cell.Reads := fun _ _ _ => Cell.Reads.functional
  exact List.right_unique_forall₂' hunique hreads hreads'

/-- Reading the columns of a row gives the cells that their values are read as. -/
theorem readCells_eq_ok_iff (start : Nat) {columns : List String} {row : Row} {record : Record} :
    ((columns.zipIdx start).mapM fun column =>
        Cell.ofValue column.2 (t.operand column.1).title ((t.operand column.1).value row))
          = .ok record ↔
      List.Forall₂ Cell.Reads (columns.map fun name => (t.operand name).value row) record := by
  rw [mapM_eq_ok_iff]
  simp only [Cell.ofValue_eq_ok_iff]
  induction columns generalizing start record with
  | nil => simp
  | cons name columns ih =>
      rw [List.zipIdx_cons, List.map_cons, List.forall₂_cons_left_iff,
        List.forall₂_cons_left_iff]
      simp only [ih]

/-- An index that names the columns of the records is over these. -/
theorem indexedBy_of_columns_eq {index : Index} (h : index.columns = spec.columns) :
    t.IndexedBy spec index := by
  intro slot
  unfold indexSlots
  rw [h, List.mem_filterMap, List.mem_map]

namespace Deduplicates

/-- A row matches a record when its values agree with those that its columns keep for the record. -/
theorem matches_iff_kept (h : t.Deduplicates spec affinities) {record : Record}
    (hlength : record.length = spec.columns.length) {row : Row} :
    t.matchesRecord spec record row = true ↔
      List.Forall₂ (fun value kept => Value.agrees value kept = true) (t.cells spec row)
        (keptValues affinities record) := by
  unfold matchesRecord cells keptValues
  rw [← h.typed]
  generalize spec.columns = columns at hlength ⊢
  induction columns generalizing record with
  | nil =>
      obtain rfl := List.eq_nil_of_length_eq_zero hlength
      simp
  | cons name columns ih =>
      obtain ⟨cell, rest, rfl⟩ := List.exists_cons_of_length_eq_add_one hlength
      simp only [List.map_cons, List.zip_cons_cons, List.all_cons, Bool.and_eq_true,
        List.zipWith_cons_cons, List.forall₂_cons]
      exact and_congr Iff.rfl (ih (Nat.succ.inj hlength))

/-- Rows agree in an index over the columns of the records when they agree in all of these. -/
theorem agreeIn_iff (h : t.Deduplicates spec affinities) {index : Index}
    (hindexed : t.IndexedBy spec index) {x y : Row} :
    agreeIn (t.indexSlots index) x y = true ↔
      List.Forall₂ (fun a b => Value.agrees a b = true) (t.cells spec x) (t.cells spec y) := by
  have hvalue : ∀ {name slot}, t.slot? name = some slot → ∀ row,
      (t.operand name).value row = slot.value row := by
    intro name slot hslot row
    rw [operand_of_slot? hslot]
    rfl
  unfold agreeIn cells
  rw [List.all_eq_true, List.forall₂_map_left_iff, List.forall₂_map_right_iff, List.forall₂_same]
  constructor
  · intro hall name hname
    obtain ⟨i, hslot⟩ := h.stored name hname
    rw [hvalue hslot, hvalue hslot]
    exact hall _ ((hindexed _).2 (List.mem_map.2 ⟨name, hname, hslot⟩))
  · intro hall slot hmem
    obtain ⟨name, hname, hslot⟩ := List.mem_map.1 ((hindexed slot).1 hmem)
    rw [← hvalue hslot, ← hvalue hslot]
    exact hall name hname

end Deduplicates

/-- To keep records is to deduplicate them by every unique index. -/
theorem Keeps.deduplicates (h : t.Keeps spec affinities) : t.Deduplicates spec affinities where
  numbered := h.numbered
  stored := h.stored
  distinct := h.distinct
  typed := h.typed
  unique := by
    obtain ⟨index, hindex, hunique⟩ := h.unique
    exact ⟨index, hindex, hunique, h.indexed index hindex hunique⟩

namespace Keeps

theorem length_eq (h : t.Keeps spec affinities) {record : Record} (hfits : Fits affinities record) :
    record.length = spec.columns.length := by
  have := congrArg List.length (h.typed.trans hfits.symm)
  rwa [List.length_map, List.length_map, eq_comm] at this

/-- A row matches a record whose cells its values agree with. -/
theorem matches_iff (h : t.Keeps spec affinities) {record : Record} (hfits : Fits affinities record)
    {row : Row} : t.matchesRecord spec record row = true ↔
      List.Forall₂ (fun value cell => value.agrees (Cell.toValue cell) = true)
        (t.cells spec row) record := by
  rw [h.deduplicates.matches_iff_kept (h.length_eq hfits), hfits.keptValues_eq,
    List.forall₂_map_right_iff]

theorem matches_of_cells (h : t.Keeps spec affinities) {record : Record}
    (hfits : Fits affinities record) {row : Row}
    (hcells : t.cells spec row = record.map Cell.toValue) :
    t.matchesRecord spec record row = true := by
  rw [h.matches_iff hfits, hcells, List.forall₂_map_left_iff]
  exact List.forall₂_same.2 fun c _ => Cell.agrees_toValue c

theorem matches_of_has (h : t.Keeps spec affinities) {record : Record}
    (hfits : Fits affinities record) {id : Int} (hhas : t.Has spec id record) :
    ∃ values, t.rows.get? id = some values ∧
      t.matchesRecord spec record (id, values) = true := by
  obtain ⟨values, hget, hcells⟩ := hhas
  exact ⟨values, hget, h.matches_of_cells hfits hcells⟩

/-- Rows of a table without broken indexes that agree in all columns are one row. -/
theorem eq_of_agree (h : t.Keeps spec affinities) (hu : t.Unique) {id id' : Int}
    {values values' : Values} (hget : t.rows.get? id = some values)
    (hget' : t.rows.get? id' = some values')
    (hagree : List.Forall₂ (fun a b => Value.agrees a b = true) (t.cells spec (id, values))
      (t.cells spec (id', values'))) : id = id' := by
  obtain ⟨index, hindex, hunique, hindexed⟩ := h.deduplicates.unique
  exact hu index hindex hunique _ (SortedMap.mem_entries_iff.2 hget) _
    (SortedMap.mem_entries_iff.2 hget') ((h.deduplicates.agreeIn_iff hindexed).2 hagree)

/-- A row that matches a record which another row holds is that row. -/
theorem eq_of_matches (h : t.Keeps spec affinities) (hu : t.Unique) {record : Record}
    (hfits : Fits affinities record) {id id' : Int} {values : Values}
    (hget : t.rows.get? id = some values)
    (hmatches : t.matchesRecord spec record (id, values) = true)
    (hhas : t.Has spec id' record) : id = id' := by
  obtain ⟨values', hget', hcells'⟩ := hhas
  refine h.eq_of_agree hu hget hget' ?_
  rw [hcells', List.forall₂_map_right_iff]
  exact (h.matches_iff hfits).1 hmatches

/-- Each record has at most one row. -/
theorem has_unique (h : t.Keeps spec affinities) (hu : t.Unique) {record : Record} {id id' : Int}
    (hhas : t.Has spec id record) (hhas' : t.Has spec id' record) : id = id' := by
  obtain ⟨values, hget, hcells⟩ := hhas
  obtain ⟨values', hget', hcells'⟩ := hhas'
  refine h.eq_of_agree hu hget hget' ?_
  rw [hcells, hcells', List.forall₂_map_left_iff, List.forall₂_map_right_iff]
  exact List.forall₂_same.2 fun c _ => Cell.agrees_toValue c

theorem exact_of_has (h : t.Keeps spec affinities) (hu : t.Unique) {record : Record}
    (hfits : Fits affinities record) {id : Int} (hhas : t.Has spec id record) :
    t.Exact spec record := by
  intro id' values' hget' hmatches
  obtain rfl := h.eq_of_matches hu hfits hget' hmatches hhas
  obtain ⟨values, hget, hcells⟩ := hhas
  rw [Option.some.inj (hget'.symm.trans hget)]
  exact hcells

/-- What comes back when a row is read. -/
theorem readRow_eq_ok_iff (h : t.Keeps spec affinities) {row : Row} {id : Int} {record : Record} :
    t.readRow spec row = .ok (id, record) ↔
      id = row.1 ∧ List.Forall₂ Cell.Reads (t.cells spec row) record := by
  have hid : readInt 0 (t.operand spec.idColumn).title ((t.operand spec.idColumn).value row)
      = .ok row.1 := by
    rw [operand_of_slot? h.numbered]
    rfl
  rw [cells, ← readCells_eq_ok_iff 1]
  unfold readRow
  simp only [hid, bind, Except.bind, pure, Except.pure]
  split
  · next hrecord => simp [hrecord]
  · next hrecord =>
    rw [hrecord]
    simp [Prod.ext_iff, eq_comm]

/-- A row that matches a record and can be read holds the record. -/
theorem cells_of_matches_of_readRow (h : t.Keeps spec affinities) {record record' : Record}
    (hfits : Fits affinities record) {row : Row} {id : Int}
    (hmatches : t.matchesRecord spec record row = true)
    (hread : t.readRow spec row = .ok (id, record')) :
    record' = record ∧ t.cells spec row = record.map Cell.toValue := by
  have hagree := (h.matches_iff hfits).1 hmatches
  have hreads := ((h.readRow_eq_ok_iff).1 hread).2
  generalize t.cells spec row = values at hagree hreads
  clear hread hmatches hfits
  induction hreads generalizing record with
  | nil =>
      cases hagree
      exact ⟨rfl, rfl⟩
  | cons hcell _ ih =>
      cases hagree with
      | cons hcell' hrest =>
          obtain ⟨rfl, hvalues⟩ := ih hrest
          obtain ⟨hvalue, rfl⟩ := hcell.eq_of_agrees hcell'
          exact ⟨rfl, by rw [hvalue, hvalues, List.map_cons]⟩

theorem readRow_of_cells (h : t.Keeps spec affinities) {record : Record} {row : Row}
    (hcells : t.cells spec row = record.map Cell.toValue) :
    t.readRow spec row = .ok (row.1, record) := by
  rw [h.readRow_eq_ok_iff, hcells, List.forall₂_map_left_iff]
  exact ⟨rfl, List.forall₂_same.2 fun c _ => Cell.reads_toValue c⟩

end Keeps

end Table

end TermStore.Storage
