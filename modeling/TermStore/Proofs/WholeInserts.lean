import TermStore.Proofs.Savepoints
import TermStore.Proofs.Schema

/-!
# Inserts are done as a whole

What an insert of records adds to a table is said row by row by `Table.AddsRows`: the old rows
stay, and each new row is made of a listed record that had none, at most one row for all records
that the columns keep alike. The records need not be of the columns' types, and the table may have
more columns and more unique indexes than those of the records (`Table.Deduplicates`). With these a
record may be left out that no row matches, so that each listed record has a row afterwards is said
only where they keep no record out (`Table.Unhindered`). One record adds such rows (`adds_add`,
`adds_counted`), and what is added one after the other is added together (`AddsRows.append`), so the
loop over the records is an induction.

On a connection the records go in one by one inside a savepoint. `Connection.insertIgnoring_eq` says
that this comes to the insert into a database as a whole: the statements change one table, and going
back to the savepoint undoes what they did (`Marked.release_rollBack_after`). Only a table without
numbers left behaves otherwise, as the database gives up a transaction that was begun before the
call.
-/

namespace TermStore.Storage

/-! ### Records that are kept alike -/

/-- Two records whose values agree once columns of given types keep them. -/
def KeptAlike (affinities : List Affinity) (x y : Record) : Prop :=
  List.Forall₂ (fun a b => Value.agrees a b = true) (keptValues affinities x)
    (keptValues affinities y)

theorem Value.agrees_self {value : Value} (h : value ≠ .null) : value.agrees value = true := by
  cases value with
  | null => exact absurd rfl h
  | integer n => simp
  | real x => exact beq_self_eq_true x
  | text s => simp
  | blob bytes => exact beq_self_eq_true bytes

theorem KeptAlike.refl (affinities : List Affinity) (record : Record) :
    KeptAlike affinities record record := by
  refine List.forall₂_same.2 fun value hmem => Value.agrees_self ?_
  unfold keptValues at hmem
  obtain ⟨i, hi, rfl⟩ := List.getElem_of_mem hmem
  rw [List.getElem_zipWith]
  exact Cell.adopt_toValue_ne_null _ _

namespace Table

variable {t t' t'' : Table} {spec : TableSpec} {affinities : List Affinity}

theorem Alike.rowOf (h : t.Alike t') (spec : TableSpec) (record : Record) :
    t'.rowOf spec record = t.rowOf spec record := by
  rw [h]
  rfl

/-- A row made of one record matches another one when they are kept alike. -/
theorem Deduplicates.matches_rowOf_iff (h : t.Deduplicates spec affinities) {x y : Record}
    (hx : x.length = spec.columns.length) (hy : y.length = spec.columns.length) (number : Int) :
    t.matchesRecord spec y (number, t.rowOf spec x) = true ↔ KeptAlike affinities x y := by
  rw [h.matches_iff_kept hy, h.cells_rowOf_kept hx]
  rfl

/-! ### The rows that an insert adds -/

/-- An insert of records adds some rows to a table, each with the record that it was made of: at
most one for each record that had no row, however often it is listed, and exactly one where nothing
else keeps a record out. -/
structure AddsRows (spec : TableSpec) (affinities : List Affinity) (records : List Record)
    (added : List (Int × Record)) (t t' : Table) : Prop where
  later : t.Later t'
  rows : ∀ id values, t'.rows.get? id = some values ↔
    t.rows.get? id = some values ∨ ∃ entry ∈ added, entry.1 = id ∧ t.rowOf spec entry.2 = values
  numbers : (added.map Prod.fst).Nodup
  fresh : ∀ entry ∈ added, t.rows.get? entry.1 = none
  counted : ∀ record ∈ records, record.length = spec.columns.length
  listed : ∀ entry ∈ added, entry.2 ∈ records
  absent : ∀ entry ∈ added, ∀ row ∈ t.rows.entries, t.matchesRecord spec entry.2 row = false
  distinct : added.Pairwise fun x y => ¬ KeptAlike affinities x.2 y.2
  covered : t.Unhindered spec → ∀ record ∈ records,
    (∃ row ∈ t.rows.entries, t.matchesRecord spec record row = true) ∨
      ∃ entry ∈ added, KeptAlike affinities entry.2 record

namespace AddsRows

variable {records records' : List Record} {added added' : List (Int × Record)}

theorem nil (t : Table) : AddsRows spec affinities [] [] t t where
  later := Later.refl t
  rows id values := by simp
  numbers := List.nodup_nil
  fresh := nofun
  counted := nofun
  listed := nofun
  absent := nofun
  distinct := List.Pairwise.nil
  covered _ := nofun

/-- Old rows stay. -/
theorem get?_of_get? (h : t.AddsRows spec affinities records added t') {id : Int} {values : Values}
    (hget : t.rows.get? id = some values) : t'.rows.get? id = some values :=
  (h.rows id values).2 (Or.inl hget)

/-- The rows that are added hold their records. -/
theorem get?_of_mem (h : t.AddsRows spec affinities records added t') {entry : Int × Record}
    (hentry : entry ∈ added) : t'.rows.get? entry.1 = some (t.rowOf spec entry.2) :=
  (h.rows _ _).2 (Or.inr ⟨entry, hentry, rfl, rfl⟩)

theorem length_eq (h : t.AddsRows spec affinities records added t') {entry : Int × Record}
    (hentry : entry ∈ added) : entry.2.length = spec.columns.length :=
  h.counted _ (h.listed entry hentry)

/-- Inserts one after the other add what each of them adds. -/
theorem append (hunique : t.Deduplicates spec affinities)
    (h : t.AddsRows spec affinities records added t')
    (h' : t'.AddsRows spec affinities records' added' t'') :
    t.AddsRows spec affinities (records ++ records') (added ++ added') t'' where
  later := h.later.trans h'.later
  rows id values := by
    simp only [h'.rows, h.rows, h.later.alike.rowOf, List.mem_append, or_and_right, exists_or,
      or_assoc]
  numbers := by
    rw [List.map_append]
    refine h.numbers.append h'.numbers fun number hmem hmem' => ?_
    obtain ⟨entry, hentry, rfl⟩ := List.mem_map.1 hmem
    obtain ⟨entry', hentry', hsame⟩ := List.mem_map.1 hmem'
    have hnone := h'.fresh entry' hentry'
    rw [hsame, h.get?_of_mem hentry] at hnone
    cases hnone
  fresh entry hentry := by
    rcases List.mem_append.1 hentry with hentry | hentry
    · exact h.fresh entry hentry
    · rw [Option.eq_none_iff_forall_ne_some]
      intro values hget
      have hnone := h'.fresh entry hentry
      rw [h.get?_of_get? hget] at hnone
      cases hnone
  counted record hrecord := (List.mem_append.1 hrecord).elim (h.counted record) (h'.counted record)
  listed entry hentry := by
    rcases List.mem_append.1 hentry with hentry | hentry
    · exact List.mem_append_left _ (h.listed entry hentry)
    · exact List.mem_append_right _ (h'.listed entry hentry)
  absent entry hentry row hrow := by
    rcases List.mem_append.1 hentry with hentry | hentry
    · exact h.absent entry hentry row hrow
    · rw [← h.later.alike.matchesRecord]
      exact h'.absent entry hentry row
        (SortedMap.mem_entries_iff.2 (h.get?_of_get? (SortedMap.mem_entries_iff.1 hrow)))
  distinct := by
    refine List.pairwise_append.2 ⟨h.distinct, h'.distinct, fun x hx y hy halike => ?_⟩
    -- the row of `x` was there when `y` was added
    have hno := h'.absent y hy _ (SortedMap.mem_entries_iff.2 (h.get?_of_mem hx))
    rw [h.later.alike.matchesRecord,
      (hunique.matches_rowOf_iff (h.length_eq hx) (h'.length_eq hy) x.1).2 halike] at hno
    cases hno
  covered hfree record hrecord := by
    rcases List.mem_append.1 hrecord with hrecord | hrecord
    · rcases h.covered hfree record hrecord with hmatched | ⟨entry, hentry, halike⟩
      · exact Or.inl hmatched
      · exact Or.inr ⟨entry, List.mem_append_left _ hentry, halike⟩
    · rcases h'.covered (h.later.alike.unhindered hfree) record hrecord with
        ⟨row, hrow, hmatches⟩ | ⟨entry, hentry, halike⟩
      · rw [h.later.alike.matchesRecord] at hmatches
        rcases (h.rows row.1 row.2).1 (SortedMap.mem_entries_iff.1 hrow) with
          hold | ⟨entry, hentry, hid, hvalues⟩
        · exact Or.inl ⟨row, SortedMap.mem_entries_iff.2 hold, hmatches⟩
        · refine Or.inr ⟨entry, List.mem_append_left _ hentry, ?_⟩
          rw [← hunique.matches_rowOf_iff (h.length_eq hentry) (h'.counted record hrecord) row.1,
            hvalues]
          exact hmatches
      · exact Or.inr ⟨entry, List.mem_append_right _ hentry, halike⟩

/-- Where nothing else keeps a record out, a listed one has a row afterwards. -/
theorem exists_matching (hunique : t.Deduplicates spec affinities) (hfree : t.Unhindered spec)
    (h : t.AddsRows spec affinities records added t') {record : Record}
    (hrecord : record ∈ records) :
    ∃ row ∈ t'.rows.entries, t'.matchesRecord spec record row = true := by
  rcases h.covered hfree record hrecord with ⟨row, hrow, hmatches⟩ | ⟨entry, hentry, halike⟩
  · have hget := h.get?_of_get? (SortedMap.mem_entries_iff.1 hrow)
    refine ⟨row, SortedMap.mem_entries_iff.2 hget, ?_⟩
    rw [h.later.alike.matchesRecord]
    exact hmatches
  · refine ⟨_, SortedMap.mem_entries_iff.2 (h.get?_of_mem hentry), ?_⟩
    rw [h.later.alike.matchesRecord,
      hunique.matches_rowOf_iff (h.length_eq hentry) (h.counted record hrecord)]
    exact halike

/-- The numbers of added rows are above those that were ever given. -/
theorem counter_lt (h : t.AddsRows spec affinities records added t') {entry : Int × Record}
    (hentry : entry ∈ added) {counter : Int} (hcounter : t.counter = some counter) :
    counter < entry.1 := by
  rcases h.later.rows _ _ (h.get?_of_mem hentry) with hold | habove
  · rw [h.fresh entry hentry] at hold
    cases hold
  · exact habove counter hcounter

end AddsRows

/-! ### One record -/

section One

variable {record : Record} {number : Int}

/-- A record that is left out adds no row. -/
theorem adds_counted (hlength : record.length = spec.columns.length)
    (hmatched : t.Unhindered spec →
      ∃ row ∈ t.rows.entries, t.matchesRecord spec record row = true) :
    t.AddsRows spec affinities [record] [] (t.counted number) where
  later := later_counted
  rows id values := by simp [counted]
  numbers := List.nodup_nil
  fresh := nofun
  counted other hother := List.mem_singleton.1 hother ▸ hlength
  listed := nofun
  absent := nofun
  distinct := List.Pairwise.nil
  covered hfree other hother := Or.inl (List.mem_singleton.1 hother ▸ hmatched hfree)

/-- A record that no row matches is added under the next number. -/
theorem adds_add (hlength : record.length = spec.columns.length)
    (hnumber : t.nextNumber? = some number)
    (hnew : ∀ row ∈ t.rows.entries, t.matchesRecord spec record row = false) :
    t.AddsRows spec affinities [record] [(number, record)]
      (t.add number (t.rowOf spec record)) where
  later := later_add hnumber _
  rows id values := by
    simp only [get?_add, List.mem_singleton, exists_eq_left]
    by_cases hid : id = number
    · subst hid
      simp [get?_nextNumber hnumber]
    · simp [hid, Ne.symm hid]
  numbers := List.nodup_singleton number
  fresh entry hentry := by
    rw [List.mem_singleton.1 hentry]
    exact get?_nextNumber hnumber
  counted other hother := List.mem_singleton.1 hother ▸ hlength
  listed entry hentry := by
    rw [List.mem_singleton.1 hentry]
    exact List.mem_singleton_self record
  absent entry hentry := by
    rw [List.mem_singleton.1 hentry]
    exact hnew
  distinct := List.pairwise_singleton _ _
  covered _ other hother := by
    rw [List.mem_singleton.1 hother]
    exact Or.inr ⟨_, List.mem_singleton_self _, KeptAlike.refl affinities record⟩

end One

end Table

namespace Database

variable {db db' : Database} {t : Table} {spec : TableSpec} {affinities : List Affinity}
  {records : List Record}

/-! ### Several records -/

/-- One record adds at most one row, and is counted if it does. -/
theorem exists_adds_of_insertOne (h : t.Deduplicates spec affinities) {record : Record}
    {state : Table × Nat} {count : Nat}
    (hinsert : db.insertOne spec (t, count) record = .ok state) :
    ∃ added, t.AddsRows spec affinities [record] added state.1 ∧
      state.2 = count + added.length := by
  obtain ⟨hlength, inserted, hadd, hcount⟩ := insertOne_eq_ok hinsert
  obtain ⟨number, hnumber, ⟨hcheck, htable, hinserted⟩ | ⟨hcheck, htable, hinserted⟩⟩ :=
    Table.addIgnoring_cases hadd
  · refine ⟨[(number, record)], ?_, by simp [hcount, hinserted]⟩
    rw [htable]
    exact Table.adds_add hlength hnumber (h.not_matches_of_check hlength hcheck)
  · refine ⟨[], ?_, by simp [hcount, hinserted]⟩
    rw [htable]
    exact Table.adds_counted hlength fun hfree =>
      hfree.exists_matching h hlength (Table.get?_nextNumber hnumber) hcheck

/-- Records that are inserted one after the other add rows, which are counted. -/
theorem exists_adds_of_foldlM (h : t.Deduplicates spec affinities) {count : Nat}
    {state : Table × Nat}
    (hfold : records.foldlM (db.insertOne spec) (t, count) = .ok state) :
    ∃ added, t.AddsRows spec affinities records added state.1 ∧
      state.2 = count + added.length := by
  induction records generalizing t count with
  | nil =>
      cases hfold
      exact ⟨[], .nil t, rfl⟩
  | cons record rest ih =>
      rw [List.foldlM_cons] at hfold
      obtain ⟨middle, hone, hfold⟩ := bind_eq_ok_iff.1 hfold
      obtain ⟨first, hfirst, hcount⟩ := exists_adds_of_insertOne h hone
      obtain ⟨others, hothers, hcounts⟩ := ih (hfirst.later.alike.deduplicates h) hfold
      exact ⟨first ++ others, hfirst.append h hothers,
        by rw [hcounts, hcount, List.length_append, Nat.add_assoc]⟩

/-! ### Tables put back -/

/-- A table that is put where it is changes nothing. -/
theorem setTable_self (htable : db.table spec.name = .ok t)
    (hname : foldName t.name = foldName spec.name) : db.setTable t = db := by
  have hget : db.tables.get? (foldName t.name) = some t := by
    rw [hname]
    unfold table at htable
    split at htable
    · next hfound => rw [hfound, Except.ok.inj htable]
    · cases htable
  have htables : db.tables.put (foldName t.name) t = db.tables := by
    refine SortedMap.ext_get? fun key => ?_
    rw [SortedMap.get?_put]
    split
    · next hkey => rw [hkey, hget]
    · rfl
  unfold setTable
  rw [htables]

/-- Of two tables of one name the later one counts. -/
theorem setTable_setTable {t' : Table} (hname : foldName t'.name = foldName t.name) :
    (db.setTable t).setTable t' = db.setTable t' := by
  have htables : (db.tables.put (foldName t.name) t).put (foldName t'.name) t' =
      db.tables.put (foldName t'.name) t' := by
    refine SortedMap.ext_get? fun key => ?_
    simp only [SortedMap.get?_put, hname]
    split <;> rfl
  unfold setTable
  rw [htables]

/-- The count is only added to. -/
theorem insertOne_count (db : Database) (spec : TableSpec) (t : Table) (count : Nat)
    (record : Record) :
    db.insertOne spec (t, count) record =
      (db.insertOne spec (t, 0) record).map fun state => (state.1, count + state.2) := by
  unfold insertOne
  cases checkCount record.length spec.columns.length with
  | error fault => rfl
  | ok _ =>
      cases db.checkWritable with
      | error fault => rfl
      | ok _ =>
          cases t.addIgnoring (t.arrange spec.columns (record.map Cell.toValue)) with
          | error fault => simp [bind, Except.bind, Except.map]
          | ok result =>
              obtain ⟨t', added⟩ := result
              cases added <;> simp [bind, Except.bind, Except.map, pure, Except.pure]

theorem name_of_insertOne {record : Record} {state : Table × Nat} {count : Nat}
    (hinsert : db.insertOne spec (t, count) record = .ok state) : state.1.name = t.name := by
  obtain ⟨-, added, hadd, -⟩ := insertOne_eq_ok hinsert
  obtain ⟨number, -, ⟨-, htable, -⟩ | ⟨-, htable, -⟩⟩ := Table.addIgnoring_cases hadd
  · rw [htable]
    rfl
  · rw [htable]
    rfl

/-- An insert into a database adds rows to one table, and counts them. -/
theorem exists_adds_of_insert (htable : db.table spec.name = .ok t)
    (hname : foldName t.name = foldName spec.name) (h : t.Deduplicates spec affinities)
    {count : Nat} (hinsert : db.insertIgnoring spec records = .ok (count, db')) :
    ∃ t' added, t.AddsRows spec affinities records added t' ∧ added.length = count ∧
      foldName t'.name = foldName spec.name ∧ db' = db.setTable t' := by
  unfold insertIgnoring at hinsert
  by_cases hempty : records.isEmpty = true
  · rw [if_pos hempty] at hinsert
    cases hinsert
    rw [List.isEmpty_iff.1 hempty]
    exact ⟨t, [], .nil t, rfl, hname, (setTable_self htable hname).symm⟩
  · rw [if_neg hempty, htable] at hinsert
    obtain ⟨t', hsame, hinsert⟩ := bind_eq_ok_iff.1 hinsert
    obtain rfl := Except.ok.inj hsame
    obtain ⟨_, -, hinsert⟩ := bind_eq_ok_iff.1 hinsert
    obtain ⟨state, hfold, hinsert⟩ := bind_eq_ok_iff.1 hinsert
    cases hinsert
    obtain ⟨added, hadds, hcount⟩ := exists_adds_of_foldlM h hfold
    refine ⟨state.1, added, hadds, ?_, ?_, rfl⟩
    · rw [hcount, Nat.zero_add]
    · rw [hadds.later.alike]
      exact hname

end Database

end TermStore.Storage

namespace TermStore.Session

open Storage (TableSpec Database Table Column Slot Value Values Record Fault Affinity foldName)

/-! ### Inside the savepoint -/

namespace Marked

/-- Statements that insert record by record do what is done to the table of the records; where one
fails, some of the tables are left as the statements before it made them. -/
theorem insertAll_eq (marked : Marked) {spec : TableSpec} {t : Table}
    (htable : marked.connection.database.table spec.name = .ok t)
    (hname : foldName t.name = foldName spec.name) (count : Nat) (records : List Record) :
    (∃ state, records.foldlM (marked.connection.database.insertOne spec) (t, count) = .ok state ∧
      foldName state.1.name = foldName spec.name ∧
      marked.insertAll spec count records = (.ok state.2,
        { marked with connection.database := marked.connection.database.setTable state.1 })) ∨
    ∃ fault tables,
      records.foldlM (marked.connection.database.insertOne spec) (t, count) = .error fault ∧
      marked.insertAll spec count records =
        (.error fault, ({ marked with connection.database.tables := tables }).after fault) := by
  induction records generalizing marked t count with
  | nil =>
      refine Or.inl ⟨(t, count), rfl, hname, ?_⟩
      rw [Database.setTable_self htable hname]
      rfl
  | cons record rest ih =>
      rw [List.foldlM_cons, Database.insertOne_count, insertAll]
      cases hone : marked.connection.database.insertOne spec (t, 0) record with
      | error fault =>
          have hexecute : marked.execute (insertStatement spec record) =
              (.error fault, marked.after fault) := by
            simp [execute, insertStatement, htable, hone, bind, Except.bind]
          rw [hexecute]
          exact Or.inr ⟨fault, marked.connection.database.tables, rfl, rfl⟩
      | ok state =>
          obtain ⟨t', added⟩ := state
          have hname' : foldName t'.name = foldName spec.name := by
            rw [Database.name_of_insertOne hone]
            exact hname
          have hexecute : marked.execute (insertStatement spec record) = (.ok added,
              { marked with
                connection.database := marked.connection.database.setTable t' }) := by
            simp [execute, insertStatement, htable, hone, bind, Except.bind, pure, Except.pure]
          have hput : (marked.connection.database.setTable t').table spec.name = .ok t' := by
            rw [Database.table_setTable, if_pos hname'.symm]
          rw [hexecute]
          rcases ih { marked with
              connection.database := marked.connection.database.setTable t' } hput hname'
              (count + added) with
            ⟨state, hfold, hstate, hall⟩ | ⟨fault, tables, hfold, hall⟩
          · refine Or.inl ⟨state, hfold, hstate, hall.trans ?_⟩
            rw [Database.setTable_setTable (hstate.trans hname'.symm)]
          · exact Or.inr ⟨fault, tables, hfold, hall⟩

end Marked

namespace Connection

variable {connection connection' : Connection} {spec : TableSpec} {records : List Record}

/-- The program around a savepoint does what is done to a database, as a whole. -/
theorem insertIgnoring_eq (hname : ∀ t, connection.database.table spec.name = .ok t →
      foldName t.name = foldName spec.name) :
    connection.insertIgnoring spec records =
      match connection.database.insertIgnoring spec records with
      | .ok (added, database) => (.ok added, { connection with database := database })
      | .error fault => (.error fault, connection.after fault) := by
  have hrefused : ∀ fault, prepareInsert spec connection.database = .error fault →
      connection.setMark.execute (prepareInsert spec) =
        (.error fault, connection.setMark.after fault) := by
    intro fault hfault
    simp [Marked.execute, setMark, hfault]
  have hfailed : ∀ fault, (connection.setMark.after fault).rollBack.release =
      connection.after fault :=
    Marked.release_rollBack_after connection rfl
  unfold insertIgnoring Database.insertIgnoring
  by_cases hempty : records.isEmpty = true
  · rw [if_pos hempty, if_pos hempty]
  rw [if_neg hempty, if_neg hempty]
  cases htable : connection.database.table spec.name with
  | error fault =>
      rw [hrefused fault (by simp [prepareInsert, htable, bind, Except.bind])]
      exact Prod.ext rfl (hfailed fault)
  | ok t =>
      cases hcolumns : Database.checkInserted t spec.name spec.columns with
      | error fault =>
          rw [hrefused fault (by simp [prepareInsert, htable, hcolumns, bind, Except.bind])]
          simp only [hcolumns, bind, Except.bind]
          exact Prod.ext rfl (hfailed fault)
      | ok _ =>
          have hprepare : connection.setMark.execute (prepareInsert spec) =
              (.ok (), connection.setMark) := by
            simp [Marked.execute, setMark, prepareInsert, htable, hcolumns, bind, Except.bind,
              pure, Except.pure]
          rw [hprepare]
          rcases Marked.insertAll_eq connection.setMark htable (hname t htable) 0 records with
            ⟨state, hfold, -, hall⟩ | ⟨fault, tables, hfold, hall⟩
          · have hstate : records.foldlM (connection.database.insertOne spec) (t, 0) =
                .ok state := hfold
            simp only [hcolumns, hstate, hall, bind, Except.bind, pure, Except.pure]
            rfl
          · have hfault : records.foldlM (connection.database.insertOne spec) (t, 0) =
                .error fault := hfold
            simp only [hcolumns, hfault, hall, bind, Except.bind]
            have hreadOnly : ({ connection.database with tables := tables } : Database).readOnly =
                connection.database.readOnly := rfl
            exact Prod.ext rfl (Marked.release_rollBack_after connection hreadOnly fault)

/-- An insert that succeeds into a table that is unique in its records leaves all old rows, adds at
most one row for each record that had none, under a number that was never given, and says how many
rows these are; where nothing else keeps a record out, each of the records then has a row. An insert
that fails leaves the connection as it was, whatever the table is, so that what follows is as if it
had not been tried; only where no number is left, a transaction around it is given up and all is as
when that began. -/
theorem insertIgnoring_all_or_nothing {t : Table}
    (htable : connection.database.table spec.name = .ok t)
    (hname : foldName t.name = foldName spec.name) (records : List Record) :
    (∀ affinities, t.Deduplicates spec affinities → ∀ count connection',
      connection.insertIgnoring spec records = (.ok count, connection') →
      ∃ t' added, t.AddsRows spec affinities records added t' ∧ added.length = count ∧
        (∀ entry ∈ added, ∀ counter, t.counter = some counter → counter < entry.1) ∧
        connection'.database.table spec.name = .ok t' ∧
        connection' = { connection with database := connection.database.setTable t' } ∧
        (t.Unhindered spec →
          ∀ record ∈ records, ∃ row ∈ t'.rows.entries, t'.matchesRecord spec record row = true)) ∧
    ∀ fault connection', connection.insertIgnoring spec records = (.error fault, connection') →
      (fault ≠ .full ∨ connection.saved = none → connection' = connection) ∧
      ∀ begun, fault = .full → connection.saved = some begun →
        connection' = ⟨{ connection.database with tables := begun }, none⟩ := by
  rw [insertIgnoring_eq fun t' htable' => Except.ok.inj (htable.symm.trans htable') ▸ hname]
  refine ⟨fun affinities h count connection' hinsert => ?_, fun fault connection' hinsert => ?_⟩
  · split at hinsert
    · next added database hadded =>
      cases hinsert
      obtain ⟨t', added, hadds, hcount, hname', hdatabase⟩ :=
        Database.exists_adds_of_insert htable hname h hadded
      refine ⟨t', added, hadds, hcount, fun entry hentry counter => hadds.counter_lt hentry, ?_,
        by rw [hdatabase], fun hfree record hrecord => hadds.exists_matching h hfree hrecord⟩
      rw [hdatabase, Database.table_setTable, if_pos hname'.symm]
    · cases hinsert
  · split at hinsert
    · cases hinsert
    · cases hinsert
      exact after_all_or_nothing connection fault

/-- A table of pairs, keyed and unique in them, with further columns and further unique indexes. -/
def pairTable (columns : List Column) (indexes : List (List String)) (rows : List (Int × Values)) :
    Table where
  name := "pair_records"
  key := some "id"
  columns := ⟨"left_id", .integer, false⟩ :: ⟨"right_name", .text, false⟩ :: columns
  counter := some rows.length
  rows := .ofList rows
  indexes := ⟨"pairs_once", ["left_id", "right_name"], true⟩ ::
    indexes.map fun names => ⟨"once", names, true⟩

/-- A connection to one table. -/
def holding (t : Table) : Connection := .of (Database.empty.setTable t)

/-- A table with a pair and a note about it; no note is made twice, nor twice on the left. -/
def notedPairs : Table :=
  pairTable [⟨"note", .text, false⟩] [["note"], ["left_id", "note"]]
    [(1, [.integer 1, .text "a", .text "x"])]

/-- Of three listed pairs one is new, and it needs no note; a record of one value undoes the pair
before it. -/
theorem insertIgnoring_all_or_nothing_notedPairs :
    notedPairs.Deduplicates pairs [.integer, .text] ∧ notedPairs.Unhindered pairs ∧
    (∃ t' added connection', (holding notedPairs).insertIgnoring pairs
        [[.integer 1, .text "b"], [.integer 1, .text "a"], [.integer 1, .text "b"]] =
        (.ok 1, connection') ∧
      notedPairs.AddsRows pairs [.integer, .text]
        [[.integer 1, .text "b"], [.integer 1, .text "a"], [.integer 1, .text "b"]] added t' ∧
      added.length = 1 ∧
      ∃ row ∈ t'.rows.entries, t'.matchesRecord pairs [.integer 1, .text "b"] row = true) ∧
    (holding notedPairs).insertIgnoring pairs [[.integer 1, .text "b"], [.integer 1]] =
      (.error (.valueCount 1 2), holding notedPairs) := by
  have hunique : notedPairs.Deduplicates pairs [.integer, .text] := by
    refine ⟨rfl, fun name hname => ?_, by decide, rfl, _, List.mem_cons_self, rfl,
      Table.indexedBy_of_columns_eq rfl⟩
    rcases List.mem_cons.1 hname with rfl | hname
    · exact ⟨0, by decide⟩
    · rw [List.mem_singleton.1 hname]
      exact ⟨1, by decide⟩
  have hfree : notedPairs.Unhindered pairs := by
    refine ⟨by decide, fun index hindex _ hslots => ?_⟩
    have hnote : some (Slot.column 2) ∉ pairs.columns.map notedPairs.slot? := by decide
    simp only [notedPairs, pairTable, List.map_cons, List.map_nil, List.mem_cons,
      List.not_mem_nil, or_false] at hindex
    rcases hindex with rfl | rfl | rfl
    · exact Table.indexedBy_of_columns_eq rfl
    · exact absurd (hslots (.column 2) (by decide)) hnote
    · exact absurd (hslots (.column 2) (by decide)) hnote
  have hcount : ((holding notedPairs).insertIgnoring pairs
      [[.integer 1, .text "b"], [.integer 1, .text "a"], [.integer 1, .text "b"]]).1 = .ok 1 := by
    decide +kernel
  have hfault : ((holding notedPairs).insertIgnoring pairs
      [[.integer 1, .text "b"], [.integer 1]]).1 = .error (.valueCount 1 2) := by decide +kernel
  have htable : (holding notedPairs).database.table pairs.name = .ok notedPairs := rfl
  obtain ⟨t', added, hadds, hlength, -, -, -, hall⟩ :=
    (insertIgnoring_all_or_nothing htable rfl
      [[.integer 1, .text "b"], [.integer 1, .text "a"], [.integer 1, .text "b"]]).1 _ hunique 1 _
      (Prod.ext hcount rfl)
  have hkept := (insertIgnoring_all_or_nothing htable rfl
    [[.integer 1, .text "b"], [.integer 1]]).2 (.valueCount 1 2) _ (Prod.ext hfault rfl)
  exact ⟨hunique, hfree,
    ⟨t', added, _, Prod.ext hcount rfl, hadds, hlength, hall hfree _ List.mem_cons_self⟩,
    Prod.ext hfault (hkept.1 (Or.inl nofun))⟩

/-! ### Where an insert falls short -/

/-- Has the table of a specification a unique index over the columns of its records? -/
def uniqueIn (connection : Connection) (spec : TableSpec) : Bool :=
  match connection.database.table spec.name with
  | .ok t => t.indexes.any fun index =>
      index.unique && index.columns.all spec.columns.contains &&
        spec.columns.all index.columns.contains
  | .error _ => false

/-- What an insert returns, and the rows that are there afterwards. -/
def afterInsert (connection : Connection) (spec : TableSpec) (records : List Record) :
    Except Fault Nat × Except Fault (List (Value × Values)) :=
  ((connection.insertIgnoring spec records).1,
    (connection.insertIgnoring spec records).2.database.rowsOf spec)

/-- A connection with a transaction open in which the last number was given to a text. -/
def crowded : Connection :=
  (Action.performAll ⟨.of Database.migrated, none⟩ [.begin .primary,
    .put .primary .texts (.integer 5) [.text "x"],
    .put .primary .texts (.integer Decimal.maxInt64) [.text "top"]]).2.primary

/-- The pairs as records with the left value twice. -/
def doubled : TableSpec := ⟨"pair_records", "id", ["left_id", "left_id"]⟩

/-- A table of pairs whose id is stored like any other value. -/
def unkeyedPairs : Table :=
  { pairTable [⟨"id", .integer, false⟩] [] [] with key := none }

/-- A unique index over the columns of the records is not all that it takes. Where no number is
left, the texts that were put there since the transaction began are gone. A further unique index, or
a further column that needs a value, leaves a listed pair without a row; the row of a pair is
without an id where the id column is not the key; and a record that gives a column two values is not
found again. -/
theorem insert_falls_short :
    (crowded.uniqueIn .texts = true ∧
      crowded.database.countRows "wbt_text" = .ok 2 ∧
      crowded.afterInsert .texts [[.text "p"]] = (.error .full, .ok [])) ∧
    ((holding (pairTable [] [["left_id"]] [])).uniqueIn pairs = true ∧
      (holding (pairTable [] [["left_id"]] [])).afterInsert pairs
          [[.integer 1, .text "a"], [.integer 1, .text "b"]] =
        (.ok 1, .ok [(.integer 1, [.integer 1, .text "a"])])) ∧
    ((holding (pairTable [⟨"note", .text, true⟩] [] [])).uniqueIn pairs = true ∧
      (holding (pairTable [⟨"note", .text, true⟩] [] [])).afterInsert pairs
          [[.integer 1, .text "a"]] = (.ok 0, .ok [])) ∧
    ((holding unkeyedPairs).uniqueIn pairs = true ∧
      (holding unkeyedPairs).afterInsert pairs [[.integer 1, .text "a"]] =
        (.ok 1, .ok [(.null, [.integer 1, .text "a"])])) ∧
    (holding (pairTable [] [["left_id"]] [])).uniqueIn doubled = true ∧
      (holding (pairTable [] [["left_id"]] [])).afterInsert doubled [[.integer 1, .integer 2]] =
        (.ok 1, .ok [(.integer 1, [.integer 1, .integer 1])]) := by
  refine ⟨⟨?_, ?_, ?_⟩, ⟨?_, ?_⟩, ⟨?_, ?_⟩, ⟨?_, ?_⟩, ?_, ?_⟩ <;> decide +kernel

end Connection

end TermStore.Session
