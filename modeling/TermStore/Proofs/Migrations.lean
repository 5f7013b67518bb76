import TermStore.Proofs.Savepoints
import TermStore.Proofs.Schema

/-!
# Migrations of any database

A run of migrations on a database of whatever tables: what its ledger says decides which migrations
are pending, and the run either applies all of these, in ascending order, or stops at the first one
that fails, with the database as the ones before it left it (`Database.Stopped`). Each is applied by
a program inside a savepoint, of which only `Connection.applyMigration_of` is used here. Tables only
gain indexes, so all rows of the terms stay; and the ledger gains the versions that were applied
(`Database.Applied`), from which follows the version that the next run meets. What the largest
version is (`IsLargest`) is said of versions of any kind, as they may have been put there by others.
-/

namespace TermStore.Storage

open Database (setTable table_setTable)
open Session (Connection)

/-! ### The largest version -/

/-- Numbers are in the order of the fractions that they are. -/
theorem Value.before_of_fractions {value other : Value} {x y : Int × Nat}
    (hx : value.fraction? = some x) (hy : other.fraction? = some y) :
    value.before other = decide (x.1 * y.2 < y.1 * x.2) := by
  unfold before
  split
  · cases hx
  · cases hx
  · simp only [hx, hy]

/-- What is before something that does not exceed a number is before the number. -/
theorem Value.before_integer {version : Int} {value other : Value}
    (hbefore : value.before other = true)
    (hexceeds : (Value.integer version).before other = false) :
    value.before (.integer version) = true := by
  have hversion : (Value.integer version).fraction? = some (version, 1) := rfl
  cases hx : value.fraction? with
  | none => cases value <;> cases other <;> simp_all [before, fraction?, kind, ValueKind.rank]
  | some x =>
      cases hy : other.fraction? with
      | none => cases value <;> cases other <;> simp_all [before, fraction?, kind, ValueKind.rank]
      | some y =>
          rw [before_of_fractions hx hy, decide_eq_true_eq] at hbefore
          rw [before_of_fractions hversion hy, decide_eq_false_iff_not] at hexceeds
          dsimp only at hexceeds
          rw [before_of_fractions hx hversion, decide_eq_true_eq]
          -- both sides are scaled by the denominator of the third number
          have hscaled : x.1 * y.2 < version * x.2 * y.2 := calc
            x.1 * y.2 < y.1 * x.2 := hbefore
            _ ≤ version * y.2 * x.2 :=
              Int.mul_le_mul_of_nonneg_right (by omega) (Int.natCast_nonneg x.2)
            _ = version * x.2 * y.2 := Int.mul_right_comm _ _ _
          rw [Int.natCast_one, Int.mul_one]
          exact Int.lt_of_mul_lt_mul_right hscaled (Int.natCast_nonneg y.2)

/-- A number is not before what is before it. -/
theorem Value.not_before_of_before {version : Int} {value : Value}
    (h : value.before (.integer version) = true) :
    (Value.integer version).before value = false := by
  have hversion : (Value.integer version).fraction? = some (version, 1) := rfl
  cases hx : value.fraction? with
  | none => cases value <;> simp_all [before, fraction?, kind, ValueKind.rank]
  | some x =>
      rw [before_of_fractions hx hversion, decide_eq_true_eq] at h
      rw [before_of_fractions hversion hx, decide_eq_false_iff_not]
      omega

theorem Value.before_self (version : Int) :
    (Value.integer version).before (.integer version) = false := by
  simp [before, fraction?]

/-- Is a number the largest of some versions, and the first of those that are equal to it? Nulls are
none, and of no versions zero counts as the largest. -/
def IsLargest (version : Int) (values : List Value) : Prop :=
  (∃ earlier later, values = earlier ++ .integer version :: later ∧
    (∀ value ∈ earlier, value.before (.integer version) = true) ∧
    ∀ value ∈ later, (Value.integer version).before value = false) ∨
  version = 0 ∧ ∀ value ∈ values, value = .null

namespace IsLargest

variable {version other : Int} {values : List Value}

/-- The largest version is one of the versions, if there are any. -/
theorem mem_or_null (h : IsLargest version values) :
    .integer version ∈ values ∨ version = 0 ∧ ∀ value ∈ values, value = .null := by
  rcases h with ⟨earlier, later, rfl, -, -⟩ | hnull
  · exact Or.inl (List.mem_append_right _ List.mem_cons_self)
  · exact Or.inr hnull

/-- No version is larger than the largest one. -/
theorem not_before (h : IsLargest version values) {value : Value} (hmem : value ∈ values) :
    (Value.integer version).before value = false := by
  rcases h with ⟨earlier, later, rfl, hearlier, hlater⟩ | ⟨-, hnull⟩
  · rcases List.mem_append.1 hmem with hmem | hmem
    · exact Value.not_before_of_before (hearlier value hmem)
    · rcases List.mem_cons.1 hmem with rfl | hmem
      · exact Value.before_self version
      · exact hlater value hmem
  · rw [hnull value hmem]
    rfl

theorem le (h : IsLargest version values) (hmem : .integer other ∈ values) : other ≤ version := by
  simpa [Value.before, Value.fraction?] using h.not_before hmem

/-- Versions that are texts have no largest one. -/
theorem text_not_mem (h : IsLargest version values) (text : String) : .text text ∉ values := by
  intro hmem
  cases h.not_before hmem

end IsLargest

/-- The search for the largest version finds a number exactly where this is the largest. -/
theorem largestVersion_eq_ok_iff {version : Int} {values : List Value} :
    Database.largestVersion values = .ok version ↔ IsLargest version values := by
  unfold Database.largestVersion
  by_cases hnull : ∀ value ∈ values, value = .null
  · rw [if_pos (by simpa using hnull)]
    refine ⟨fun h => Or.inr ⟨(Except.ok.inj h).symm, hnull⟩, fun h => ?_⟩
    rcases h.mem_or_null with hmem | ⟨rfl, -⟩
    · cases hnull _ hmem
    · rfl
  rw [if_neg (by simpa using hnull)]
  constructor
  · intro h
    split at h
    · next found hfound =>
      obtain rfl := Except.ok.inj h
      obtain ⟨hlargest, earlier, later, rfl, hearlier⟩ := List.find?_eq_some_iff_append.1 hfound
      simp only [List.all_eq_true, Bool.not_eq_true'] at hlargest
      refine Or.inl ⟨earlier, later, rfl, fun value hmem => ?_, fun value hmem =>
        hlargest value (List.mem_append_right _ (List.mem_cons_of_mem _ hmem))⟩
      -- an earlier version was passed over for one that does not exceed the number found
      have hpassed := hearlier value hmem
      rw [Bool.not_eq_true', List.all_eq_false] at hpassed
      obtain ⟨above, habove, hnot⟩ := hpassed
      exact Value.before_integer (by simpa using hnot) (hlargest above habove)
    · cases h
  · intro h
    have hlargest : (values.all fun other => !(Value.integer version).before other) = true := by
      rw [List.all_eq_true]
      intro other hmem
      rw [h.not_before hmem]
      rfl
    rcases h with ⟨earlier, later, rfl, hearlier, -⟩ | ⟨-, hall⟩
    · have hfound : (earlier ++ .integer version :: later).find? (fun value =>
          (earlier ++ .integer version :: later).all fun other => !value.before other) =
          some (.integer version) := by
        refine List.find?_eq_some_iff_append.2
          ⟨hlargest, earlier, later, rfl, fun value hmem => ?_⟩
        rw [Bool.not_eq_true', List.all_eq_false]
        refine ⟨_, List.mem_append_right _ List.mem_cons_self, ?_⟩
        rw [hearlier value hmem]
        exact Bool.false_ne_true
      rw [hfound]
    · exact absurd hall hnull

/-- Numbers are compared by value, whole or not; a text is larger than all of them. -/
example : (Database.largestVersion [.integer 3, .real (.finite false ⟨5, -1⟩), .null] = .ok 3) ∧
    Database.largestVersion [.integer 3, .text "1"] = .error .versionUnreadable := by
  decide +kernel

/-! ### Tables under their names -/

namespace Database

variable {db db' db'' : Database}

/-- Is each table kept under its own name? -/
def Named (db : Database) : Prop :=
  ∀ name t, db.table name = .ok t → foldName t.name = foldName name

theorem Named.setTable {t : Table} (h : db.Named) : (db.setTable t).Named := by
  intro name found hfound
  rw [table_setTable] at hfound
  split at hfound
  · next hname =>
    rw [← Except.ok.inj hfound, hname]
  · exact h name found hfound

/-- A database whose tables stand under their own names. -/
theorem named_of_entries (h : ∀ entry ∈ db.tables.entries, foldName entry.2.name = entry.1) :
    db.Named := by
  intro name t htable
  unfold table at htable
  split at htable
  · next found hget =>
    obtain rfl := Except.ok.inj htable
    exact h (foldName name, found) (SortedMap.mem_entries_iff.2 hget)
  · cases htable

theorem hasTable_iff {name : String} : db.hasTable name = true ↔ ∃ t, db.table name = .ok t := by
  unfold hasTable table
  rw [SortedMap.contains_iff]
  cases db.tables.get? (foldName name) with
  | none => simp
  | some t => simp

theorem hasTable_congr {name other : String} (h : foldName name = foldName other) :
    db.hasTable name = db.hasTable other := by
  unfold hasTable
  rw [h]

theorem table_congr {name other : String} (h : foldName name = foldName other) {t : Table}
    (htable : db.table name = .ok t) : db.table other = .ok t := by
  unfold table at htable ⊢
  rw [← h]
  split at htable
  · exact htable
  · cases htable

/-- Is the table of a name, if there is one, kept with no change but new indexes? -/
def KeepsTable (db : Database) (name : String) (db' : Database) : Prop :=
  ∀ t, db.table name = .ok t → ∃ more, db'.table name = .ok { t with indexes := t.indexes ++ more }

theorem KeepsTable.refl (db : Database) (name : String) : db.KeepsTable name db :=
  fun t htable => ⟨[], by rw [List.append_nil]; exact htable⟩

theorem KeepsTable.trans {name : String} (h : db.KeepsTable name db')
    (h' : db'.KeepsTable name db'') : db.KeepsTable name db'' := by
  intro t htable
  obtain ⟨more, hmore⟩ := h t htable
  obtain ⟨others, hothers⟩ := h' _ hmore
  exact ⟨more ++ others, by rw [← List.append_assoc]; exact hothers⟩

/-! ### Statements -/

theorem keepsTable_of_ensureTable {name key : String} {columns : List Column}
    {counter : Option Int} (h : db.ensureTable name key columns counter = .ok db')
    (other : String) : db.KeepsTable other db' := by
  rcases ensureTable_cases h with ⟨-, rfl⟩ | ⟨hnot, rfl⟩
  · exact .refl db' other
  · intro t htable
    refine ⟨[], ?_⟩
    rw [List.append_nil, table_setTable, if_neg, htable]
    intro hname
    rw [← hasTable_congr hname, hasTable_iff.2 ⟨t, htable⟩] at hnot
    cases hnot

/-- An index is added to its table, whose rows and columns stay; all other tables stay as they are.
-/
theorem keepsTable_of_ensureIndex (hnamed : db.Named) {name : String} {index : Index}
    (h : db.ensureIndex name index = .ok db') (other : String) : db.KeepsTable other db' := by
  rcases ensureIndex_cases h with rfl | ⟨t, htable, rfl⟩
  · exact .refl db' other
  · intro found hfound
    rw [table_setTable]
    by_cases hname : foldName other = foldName t.name
    · rw [if_pos hname]
      have hsame := table_congr (hname.trans (hnamed name t htable)).symm htable
      obtain rfl := Except.ok.inj (hfound.symm.trans hsame)
      exact ⟨[index], rfl⟩
    · rw [if_neg hname]
      exact KeepsTable.refl db other found hfound

/-- A statement that is carried out changes no table but by new indexes. -/
theorem execute_spec (hnamed : db.Named) {statement : Statement}
    (h : db.execute statement = .ok db') : db'.Named ∧ ∀ name, db.KeepsTable name db' := by
  cases statement with
  | makeTable name key columns =>
      refine ⟨?_, keepsTable_of_ensureTable h⟩
      rcases ensureTable_cases h with ⟨-, rfl⟩ | ⟨-, rfl⟩
      · exact hnamed
      · exact hnamed.setTable
  | makeIndex name index =>
      refine ⟨?_, keepsTable_of_ensureIndex hnamed h⟩
      rcases ensureIndex_cases h with rfl | ⟨t, -, rfl⟩
      · exact hnamed
      · exact hnamed.setTable

/-- So the statements of a migration, in whatever order, take no table and no row away. -/
theorem foldlM_execute_spec {statements : List Statement} (hnamed : db.Named)
    (h : statements.foldlM execute db = .ok db') :
    db'.Named ∧ ∀ name, db.KeepsTable name db' := by
  -- on the statements, from any database whose tables stand under their own names
  induction statements generalizing db with
  | nil =>
      obtain rfl := Except.ok.inj h
      exact ⟨hnamed, .refl db⟩
  | cons statement rest ih =>
      rw [List.foldlM_cons] at h
      obtain ⟨middle, hfirst, hrest⟩ := bind_eq_ok_iff.1 h
      obtain ⟨hmiddle, hkept⟩ := execute_spec hnamed hfirst
      obtain ⟨hnamed', hkept'⟩ := ih hmiddle hrest
      exact ⟨hnamed', fun name => (hkept name).trans (hkept' name)⟩

/-! ### The ledger -/

end Database

/-- The versions in a ledger. -/
def Table.versions (ledger : Table) : List Value :=
  match ledger.slot? "version" with
  | none => []
  | some slot => ledger.rows.entries.map fun row => slot.value row

/-- Indexes have no part in what the versions are. -/
theorem Table.versions_indexes (ledger : Table) (indexes : List Index) :
    ({ ledger with indexes := indexes } : Table).versions = ledger.versions := rfl

/-- How entering versions changes those in a ledger: some columns turn them into texts. -/
structure Entered (versions : List Int) (before after : List Value) : Prop where
  kept : ∀ value ∈ before, value ∈ after
  gained : ∀ value ∈ after, value ∈ before ∨ (∃ text, value = .text text) ∨
    ∃ version ∈ versions, value = .integer version
  entered : ∀ version ∈ versions, .integer version ∈ after ∨ ∃ text, .text text ∈ after

theorem Entered.refl (values : List Value) : Entered [] values values where
  kept _ hmem := hmem
  gained _ hmem := Or.inl hmem
  entered _ hmem := absurd hmem List.not_mem_nil

/-- What is entered in two steps is entered in one. -/
theorem Entered.append {versions versions' : List Int} {before middle after : List Value}
    (h : Entered versions before middle) (h' : Entered versions' middle after) :
    Entered (versions ++ versions') before after where
  kept value hmem := h'.kept value (h.kept value hmem)
  gained value hmem := by
    rcases h'.gained value hmem with hmiddle | htext | ⟨version, hversion, rfl⟩
    · rcases h.gained value hmiddle with hbefore | htext | ⟨version, hversion, rfl⟩
      · exact Or.inl hbefore
      · exact Or.inr (Or.inl htext)
      · exact Or.inr (Or.inr ⟨version, List.mem_append_left _ hversion, rfl⟩)
    · exact Or.inr (Or.inl htext)
    · exact Or.inr (Or.inr ⟨version, List.mem_append_right _ hversion, rfl⟩)
  entered version hversion := by
    rcases List.mem_append.1 hversion with hversion | hversion
    · exact (h.entered version hversion).imp (h'.kept _) fun ⟨text, htext⟩ =>
        ⟨text, h'.kept _ htext⟩
    · exact h'.entered version hversion

/-- The largest version afterwards is the one before or one of those that were entered, and the
largest among these. -/
theorem Entered.isLargest {versions : List Int} {before after : List Value} {version last : Int}
    (h : Entered versions before after) (hversions : ∀ entered ∈ versions, 0 ≤ entered)
    (hbefore : IsLargest version before) (hafter : IsLargest last after) :
    version ≤ last ∧ (∀ entered ∈ versions, entered ≤ last) ∧
      (last = version ∨ last ∈ versions) := by
  have hentered : ∀ entered ∈ versions, entered ≤ last := by
    intro entered hmem
    rcases h.entered entered hmem with hmem | ⟨text, htext⟩
    · exact hafter.le hmem
    · exact absurd htext (hafter.text_not_mem text)
  have hcases : .integer last ∈ before ∨ last ∈ versions ∨
      last = 0 ∧ ∀ value ∈ after, value = .null := by
    rcases hafter.mem_or_null with hmem | hnull
    · rcases h.gained _ hmem with hbefore | ⟨text, htext⟩ | ⟨entered, hentered, heq⟩
      · exact Or.inl hbefore
      · cases htext
      · cases heq
        exact Or.inr (Or.inl hentered)
    · exact Or.inr (Or.inr hnull)
  rcases hbefore.mem_or_null with hmem | ⟨rfl, hnull⟩
  · have hle := hafter.le (h.kept _ hmem)
    refine ⟨hle, hentered, ?_⟩
    rcases hcases with hlast | hlast | ⟨-, hnull⟩
    · exact Or.inl (Int.le_antisymm (hbefore.le hlast) hle)
    · exact Or.inr hlast
    · cases hnull _ (h.kept _ hmem)
  · rcases hcases with hlast | hlast | ⟨rfl, -⟩
    · cases hnull _ hlast
    · exact ⟨hversions last hlast, hentered, Or.inr hlast⟩
    · exact ⟨Int.le_refl _, hentered, Or.inl rfl⟩

namespace Database

variable {db db' db'' : Database} {migration : Migration} {version : Nat}

/-- The versions in the ledger of a database. -/
def ledgerVersions (db : Database) : List Value :=
  match db.table ledgerName with
  | .error _ => []
  | .ok ledger => ledger.versions

theorem versions_of_table {ledger : Table} (htable : db.table ledgerName = .ok ledger) :
    db.ledgerVersions = ledger.versions := by
  unfold ledgerVersions
  rw [htable]

theorem KeepsTable.ledgerVersions_eq (h : db.KeepsTable ledgerName db')
    (hledger : db.hasTable ledgerName = true) : db'.ledgerVersions = db.ledgerVersions := by
  obtain ⟨ledger, htable⟩ := hasTable_iff.1 hledger
  obtain ⟨more, hmore⟩ := h ledger htable
  rw [versions_of_table hmore, versions_of_table htable, Table.versions_indexes]

/-- What it comes to that a row is put. -/
theorem put_cases {spec : TableSpec} {id : Value} {given : Values}
    (h : db.put spec id given = .ok db') :
    ∃ t number, db.table spec.name = .ok t ∧ t.hasColumn spec.idColumn = true ∧
      numberFor t spec id = .ok number ∧ t.rows.get? number = none ∧
      db' = db.setTable
        (t.add number (t.arrange (spec.idColumn :: spec.columns) (id :: given))) := by
  unfold put at h
  obtain ⟨t, htable, h⟩ := bind_eq_ok_iff.1 h
  obtain ⟨_, hcolumns, h⟩ := bind_eq_ok_iff.1 h
  obtain ⟨_, -, h⟩ := bind_eq_ok_iff.1 h
  obtain ⟨_, -, h⟩ := bind_eq_ok_iff.1 h
  obtain ⟨number, hnumber, h⟩ := bind_eq_ok_iff.1 h
  split at h
  · cases h
  · split at h
    · cases h
    · next hfree =>
      obtain ⟨_, -, h⟩ := bind_eq_ok_iff.1 h
      refine ⟨t, number, htable, ?_, hnumber, ?_, (Except.ok.inj h).symm⟩
      · unfold checkInserted at hcolumns
        split at hcolumns
        · cases hcolumns
        · next hnone =>
          simpa using List.find?_eq_none.1 hnone _ List.mem_cons_self
      · exact SortedMap.contains_eq_false_iff.1 (Bool.eq_false_iff.2 hfree)

end Database

namespace Table

variable {ledger : Table} {version number : Int} {name : Value} {slot : Slot}

/-- What the ledger keeps in a row of a version. -/
def entryOf (ledger : Table) (version : Int) (name : Value) : Values :=
  ledger.arrange ["version", "name", "applied_at_unix"] [.integer version, name, .integer 0]

/-- The row of a version shows it, or a text in its place. -/
theorem value_entryOf (name : Value) (hslot : ledger.slot? "version" = some slot)
    (hnumber : Database.numberFor ledger ledgerSpec (.integer version) = .ok number) :
    slot.value (number, ledger.entryOf version name) = .integer version ∨
      ∃ text, slot.value (number, ledger.entryOf version name) = .text text := by
  cases slot with
  | number =>
      unfold Database.numberFor at hnumber
      rw [show ledger.slot? ledgerSpec.idColumn = some .number from hslot, if_pos rfl] at hnumber
      exact Or.inl (congrArg Value.integer (Except.ok.inj hnumber).symm)
  | column index =>
      obtain ⟨column, hcolumn, hname⟩ := exists_column_of_slot? hslot
      have hvalue : Slot.value (number, ledger.entryOf version name) (.column index) =
          column.affinity.adopt (.integer version) := by
        show ((ledger.entryOf version name)[index]?).getD .null = _
        unfold entryOf arrange
        rw [List.getElem?_map, hcolumn]
        simp only [List.zip_cons_cons, List.find?_cons, hname, Option.map_some, Option.getD_some]
      rw [hvalue]
      cases column.affinity with
      | integer => exact Or.inl rfl
      | text => exact Or.inr ⟨_, rfl⟩
      | untyped => exact Or.inl rfl

/-- A row that is added to the ledger adds its version to those that are entered. In a column of
texts the version is kept as one. -/
theorem entered_add (hcolumn : ledger.hasColumn "version" = true)
    (hnumber : Database.numberFor ledger ledgerSpec (.integer version) = .ok number)
    (hfree : ledger.rows.get? number = none) :
    Entered [version] ledger.versions
      (ledger.add number (ledger.entryOf version name)).versions := by
  obtain ⟨slot, hslot⟩ := Option.isSome_iff_exists.1 hcolumn
  have hbefore : ledger.versions = ledger.rows.entries.map fun row => slot.value row := by
    unfold versions
    rw [hslot]
  have hafter : (ledger.add number (ledger.entryOf version name)).versions =
      (ledger.add number (ledger.entryOf version name)).rows.entries.map
        fun row => slot.value row := by
    unfold versions
    rw [show (ledger.add number (ledger.entryOf version name)).slot? "version" = some slot
      from hslot]
  have hentry : slot.value (number, ledger.entryOf version name) ∈
      (ledger.add number (ledger.entryOf version name)).versions := by
    rw [hafter]
    exact List.mem_map_of_mem
      (SortedMap.mem_entries_iff.2 ((get?_add ledger number number _).trans (if_pos rfl)))
  refine ⟨fun value hmem => ?_, fun value hmem => ?_, fun entered hmem => ?_⟩
  · rw [hbefore] at hmem
    obtain ⟨⟨id, values⟩, hrow, rfl⟩ := List.mem_map.1 hmem
    have hget := SortedMap.mem_entries_iff.1 hrow
    rw [hafter]
    refine List.mem_map_of_mem
      (SortedMap.mem_entries_iff.2 ((get?_add ledger number id _).trans ?_))
    rw [if_neg, hget]
    rintro rfl
    rw [hfree] at hget
    cases hget
  · rw [hafter] at hmem
    obtain ⟨⟨id, values⟩, hrow, rfl⟩ := List.mem_map.1 hmem
    rcases get?_add_cases (SortedMap.mem_entries_iff.1 hrow) with hold | ⟨rfl, rfl⟩
    · rw [hbefore]
      exact Or.inl (List.mem_map_of_mem (SortedMap.mem_entries_iff.2 hold))
    · rcases value_entryOf name hslot hnumber with hvalue | ⟨text, htext⟩
      · exact Or.inr (Or.inr ⟨version, List.mem_singleton_self _, hvalue⟩)
      · exact Or.inr (Or.inl ⟨text, htext⟩)
  · obtain rfl := List.mem_singleton.1 hmem
    rcases value_entryOf name hslot hnumber with hvalue | ⟨text, htext⟩
    · exact Or.inl (hvalue ▸ hentry)
    · exact Or.inr ⟨text, htext ▸ hentry⟩

end Table

namespace Database

variable {db db' db'' : Database} {migration : Migration} {version : Nat}

/-- Entering a version changes the ledger and no other table, and leaves all that is entered there
already. -/
theorem enterVersion_spec (hnamed : db.Named) {name : Value}
    (h : db.enterVersion version name = .ok db') :
    db'.Named ∧ (∀ other, foldName other ≠ foldName ledgerName → db.KeepsTable other db') ∧
      db'.hasTable ledgerName = true ∧
      Entered [(version : Int)] db.ledgerVersions db'.ledgerVersions := by
  obtain ⟨ledger, number, htable, hcolumn, hnumber, hfree, rfl⟩ := put_cases h
  have hname := hnamed _ _ htable
  have hledger : (db.setTable (ledger.add number (ledger.entryOf version name))).table ledgerName =
      .ok (ledger.add number (ledger.entryOf version name)) :=
    (table_setTable _ _ _).trans (if_pos hname.symm)
  refine ⟨hnamed.setTable, fun other hother t hfound => ⟨[], ?_⟩, hasTable_iff.2 ⟨_, hledger⟩, ?_⟩
  · rw [List.append_nil, table_setTable, if_neg, hfound]
    exact fun hsame => hother (hsame.trans hname)
  · rw [versions_of_table htable]
    refine (versions_of_table hledger).symm ▸ ?_
    exact Table.entered_add hcolumn hnumber hfree

/-! ### Applying migrations -/

/-- What it comes to that migrations of some versions were applied: tables only gained indexes, and
the ledger gained the versions. -/
structure Applied (versions : List Int) (db db' : Database) : Prop where
  named : db'.Named
  tables : ∀ name, foldName name ≠ foldName ledgerName → db.KeepsTable name db'
  ledger : db'.hasTable ledgerName = true
  entered : Entered versions db.ledgerVersions db'.ledgerVersions

theorem Applied.append {versions versions' : List Int} (h : Applied versions db db')
    (h' : Applied versions' db' db'') : Applied (versions ++ versions') db db'' where
  named := h'.named
  tables name hname := (h.tables name hname).trans (h'.tables name hname)
  ledger := h'.ledger
  entered := h.entered.append h'.entered

/-- One migration that goes through: its statements keep the tables, and then its version is in the
ledger. -/
theorem applied_of_apply (hnamed : db.Named) (hledger : db.hasTable ledgerName = true)
    (h : db.apply migration = .ok db') : Applied [(migration.version : Int)] db db' := by
  unfold apply at h
  cases hstatements : migration.statements.foldlM execute db with
  | error fault =>
      rw [hstatements] at h
      cases h
  | ok changed =>
      simp only [hstatements] at h
      cases hentered : changed.enterVersion migration.version (.text migration.name) with
      | error fault =>
          rw [hentered] at h
          cases h
      | ok entered =>
          simp only [hentered] at h
          obtain rfl := Except.ok.inj h
          obtain ⟨hchanged, hkept⟩ := foldlM_execute_spec hnamed hstatements
          obtain ⟨hnamed', hothers, hledger', hversions⟩ := enterVersion_spec hchanged hentered
          refine ⟨hnamed', fun name hname => (hkept name).trans (hothers name hname), hledger', ?_⟩
          rw [← (hkept ledgerName).ledgerVersions_eq hledger]
          exact hversions

/-- The versions of some migrations. -/
def versionsOf (migrations : List Migration) : List Int :=
  migrations.map fun migration => (migration.version : Int)

/-- Several migrations, one after the other, enter all of their versions. -/
theorem applied_of_foldlM {migrations : List Migration} (hnamed : db.Named)
    (hledger : db.hasTable ledgerName = true) (h : migrations.foldlM apply db = .ok db') :
    Applied (versionsOf migrations) db db' := by
  -- on the migrations; what one of them leaves still has its ledger and its names
  induction migrations generalizing db with
  | nil =>
      obtain rfl := Except.ok.inj h
      exact ⟨hnamed, fun name _ => .refl db name, hledger, .refl _⟩
  | cons migration rest ih =>
      rw [List.foldlM_cons] at h
      obtain ⟨middle, hfirst, hrest⟩ := bind_eq_ok_iff.1 h
      have happlied := applied_of_apply hnamed hledger hfirst
      exact happlied.append (ih happlied.named happlied.ledger hrest)

/-- How migrations are listed once they are applied. -/
def titles (migrations : List Migration) : List (Nat × String) :=
  migrations.map fun migration => (migration.version, migration.name)

/-- Migrations are applied up to the first one that fails, which leaves nothing behind. -/
theorem applyAll_cases {migrations : List Migration} {applied applied' : List (Nat × String)}
    {connection : Connection} {stopped : Option MigrationFault}
    (h : (Connection.of db).applyAll applied migrations = (connection, applied', stopped)) :
    ∃ done, done.foldlM apply db = .ok connection.database ∧ applied' = applied ++ titles done ∧
      (stopped = none ∧ done = migrations ∨
        ∃ failed rest fault, migrations = done ++ failed :: rest ∧ stopped = some fault ∧
          connection.database.apply failed = .error fault) := by
  induction migrations generalizing db applied with
  | nil =>
      cases h
      exact ⟨[], rfl, (List.append_nil _).symm, Or.inl ⟨rfl, rfl⟩⟩
  | cons migration rest ih =>
      rw [Connection.applyAll, Connection.applyMigration_of] at h
      cases hfirst : db.apply migration with
      | error fault =>
          simp only [hfirst] at h
          cases h
          exact ⟨[], rfl, (List.append_nil _).symm,
            Or.inr ⟨migration, rest, fault, rfl, rfl, hfirst⟩⟩
      | ok changed =>
          simp only [hfirst] at h
          obtain ⟨done, hdone, rfl, hcases⟩ := ih h
          refine ⟨migration :: done, ?_, List.append_assoc _ _ _, ?_⟩
          · rw [List.foldlM_cons, hfirst]
            exact hdone
          · rcases hcases with ⟨hnone, rfl⟩ | ⟨failed, later, fault, rfl, hstopped, hfailed⟩
            · exact Or.inl ⟨hnone, rfl⟩
            · exact Or.inr ⟨failed, later, fault, rfl, hstopped, hfailed⟩

/-! ### Runs of migrations -/

/-- The ledger has a largest version, and one that fits. -/
def AtVersion (db : Database) (version : Nat) : Prop :=
  ∃ ledger slot, db.table ledgerName = .ok ledger ∧ ledger.slot? "version" = some slot ∧
    IsLargest version (ledger.rows.entries.map fun row => slot.value row) ∧ version ≤ 4294967295

/-- There is no ledger yet, or it has a largest version, and one that fits. -/
def StartsAt (db : Database) (version : Nat) : Prop :=
  db.hasTable ledgerName = false ∧ version = 0 ∨ db.AtVersion version

theorem currentVersion_eq_ok_iff : db.currentVersion = .ok version ↔ db.AtVersion version := by
  constructor
  · intro h
    unfold currentVersion at h
    split at h
    · cases h
    · next ledger htable =>
      split at h
      · cases h
      · next slot hslot =>
        obtain ⟨largest, hlargest, h⟩ := bind_eq_ok_iff.1 h
        replace hlargest := largestVersion_eq_ok_iff.1 hlargest
        split at h
        · cases h
        · split at h
          · cases h
          · obtain rfl := Except.ok.inj h
            refine ⟨ledger, slot, htable, hslot, ?_, by omega⟩
            rw [Int.toNat_of_nonneg (by omega)]
            exact hlargest
  · rintro ⟨ledger, slot, htable, hslot, hlargest, hfits⟩
    unfold currentVersion
    simp only [htable, hslot]
    refine bind_eq_ok_iff.2 ⟨version, largestVersion_eq_ok_iff.2 hlargest, ?_⟩
    rw [if_neg (by omega), if_neg (by omega)]
    rfl

theorem AtVersion.isLargest (h : db.AtVersion version) : IsLargest version db.ledgerVersions := by
  obtain ⟨ledger, slot, htable, hslot, hlargest, -⟩ := h
  rw [versions_of_table htable]
  unfold Table.versions
  rw [hslot]
  exact hlargest

theorem AtVersion.hasLedger (h : db.AtVersion version) : db.hasTable ledgerName = true := by
  obtain ⟨ledger, -, htable, -⟩ := h
  exact hasTable_iff.2 ⟨ledger, htable⟩

theorem AtVersion.functional {other : Nat} (h : db.AtVersion version) (h' : db.AtVersion other) :
    version = other :=
  Except.ok.inj ((currentVersion_eq_ok_iff.2 h).symm.trans (currentVersion_eq_ok_iff.2 h'))

/-- A ledger that is there is left alone. -/
theorem ensureLedger_of_hasTable (h : db.hasTable ledgerName = true) :
    db.ensureLedger = .ok db := by
  unfold ensureLedger ensureTable
  rw [if_pos h]

/-- The ledger that is made holds no version. -/
theorem ensureLedger_spec (hnamed : db.Named) (hstarts : db.StartsAt version)
    (h : db.ensureLedger = .ok db') :
    db'.Named ∧ db'.AtVersion version ∧
      ∀ name t, db.table name = .ok t → db'.table name = .ok t := by
  unfold ensureLedger at h
  split at h
  · next made hmade =>
    obtain rfl := Except.ok.inj h
    rcases ensureTable_cases hmade with ⟨hhas, rfl⟩ | ⟨hnot, rfl⟩
    · refine ⟨hnamed, hstarts.resolve_left fun hnone => ?_, fun _ _ htable => htable⟩
      rw [hhas] at hnone
      exact absurd hnone.1 (by decide)
    · refine ⟨hnamed.setTable, ?_, fun name t htable => ?_⟩
      · rcases hstarts with ⟨-, rfl⟩ | hat
        · refine ⟨_, .number, (table_setTable _ _ _).trans (if_pos rfl), by decide, ?_, by decide⟩
          exact largestVersion_eq_ok_iff.1 rfl
        · rw [hat.hasLedger] at hnot
          cases hnot
      · rw [table_setTable, if_neg, htable]
        intro hname
        rw [← hasTable_congr hname, hasTable_iff.2 ⟨t, htable⟩] at hnot
        cases hnot
  · cases h

/-- The migrations that are pending at a version. -/
def pendingAt (version : Nat) : List Migration :=
  Migration.all.filter fun migration => version < migration.version

theorem pendingCount_of_ledger {ledgered : Database} (hledger : db.ensureLedger = .ok ledgered)
    (hat : ledgered.AtVersion version) :
    db.pendingCount = (.ok (pendingAt version).length, ledgered) := by
  unfold pendingCount
  simp only [hledger, currentVersion_eq_ok_iff.2 hat]
  rfl

theorem pendingCount_of_atVersion (h : db.AtVersion version) :
    db.pendingCount = (.ok (pendingAt version).length, db) :=
  pendingCount_of_ledger (ensureLedger_of_hasTable h.hasLedger) h

theorem mem_pendingAt : migration ∈ pendingAt version ↔
    migration ∈ Migration.all ∧ version < migration.version := by
  unfold pendingAt
  rw [List.mem_filter, decide_eq_true_eq]

/-- There is no migration after the second one. -/
theorem version_le_two (h : migration ∈ Migration.all) : migration.version ≤ 2 := by
  have hall : ∀ migration ∈ Migration.all, migration.version ≤ 2 := by decide
  exact hall migration h

theorem pendingAt_eq_nil (h : 2 ≤ version) : pendingAt version = [] := by
  refine List.eq_nil_iff_forall_not_mem.2 fun migration hmem => ?_
  obtain ⟨hall, hlater⟩ := mem_pendingAt.1 hmem
  have hle := version_le_two hall
  omega

theorem titles_ascending (version : Nat) :
    (titles (pendingAt version)).Pairwise fun first second => first.1 < second.1 := by
  have hall : Migration.all.Pairwise fun first second => first.version < second.version := by
    decide
  exact List.pairwise_map.2 (hall.filter _)

/-- Once all pending migrations are applied, the second version is reached, or the one before stays
where it is later. -/
theorem Applied.version_eq {last : Nat} (h : Applied (versionsOf (pendingAt version)) db db')
    (hat : db.AtVersion version) (hlast : db'.AtVersion last) : last = max version 2 := by
  obtain ⟨hle, hentered, hcases⟩ := h.entered.isLargest (fun entered hmem => by
    obtain ⟨migration, -, rfl⟩ := List.mem_map.1 hmem
    exact Int.natCast_nonneg _) hat.isLargest hlast.isLargest
  rcases Nat.lt_or_ge version 2 with hearly | hlate
  · have htwo : Migration.termIndexes ∈ pendingAt version :=
      mem_pendingAt.2 ⟨by decide, hearly⟩
    have hreached := hentered _ (List.mem_map_of_mem htwo)
    have htop : last ≤ 2 := by
      rcases hcases with hsame | hmem
      · omega
      · obtain ⟨migration, hmigration, heq⟩ := List.mem_map.1 hmem
        have hbound := version_le_two (mem_pendingAt.1 hmigration).1
        omega
    have hindexes : Migration.termIndexes.version = 2 := rfl
    omega
  · rw [pendingAt_eq_nil hlate] at hcases
    rcases hcases with hsame | hmem
    · omega
    · cases hmem

/-- A migration that is not applied has no row in the ledger. -/
theorem Applied.not_mem {done : List Migration} (h : Applied (versionsOf done) db db')
    (hat : db.AtVersion version) (hlater : version < migration.version)
    (hnot : ∀ other ∈ done, other.version ≠ migration.version) :
    .integer migration.version ∉ db'.ledgerVersions := by
  intro hmem
  rcases h.entered.gained _ hmem with hbefore | ⟨text, htext⟩ | ⟨entered, hentered, heq⟩
  · have hle := hat.isLargest.le hbefore
    omega
  · cases htext
  · obtain ⟨other, hother, rfl⟩ := List.mem_map.1 hentered
    exact hnot other hother (by injection heq with heq; omega)

/-- How a run on a database at a version can end with a fault. In each case the database is as the
migrations before left it. -/
inductive Stopped (db : Database) (version : Nat) (fault : MigrationFault) : Prop
  /-- The ledger is neither there nor can it be made. -/
  | atLedger (hledger : db.ensureLedger = .error fault) (hdatabase : db.migrate.database = db)
      (happlied : db.migrate.applied = [])
  /-- A migration fails, and neither its version nor any later one is entered. -/
  | atMigration {ledgered : Database} {done rest : List Migration} {failed : Migration}
      (hledger : db.ensureLedger = .ok ledgered)
      (hpending : pendingAt version = done ++ failed :: rest)
      (hdatabase : done.foldlM apply ledgered = .ok db.migrate.database)
      (happlied : db.migrate.applied = titles done)
      (hfailed : db.migrate.database.apply failed = .error fault)
      (hentered : ∀ migration ∈ failed :: rest,
        .integer migration.version ∉ db.migrate.database.ledgerVersions)
  /-- All migrations are applied, but the ledger has turned their versions into texts. -/
  | atEnd {ledgered : Database} (hledger : db.ensureLedger = .ok ledgered)
      (hdatabase : (pendingAt version).foldlM apply ledgered = .ok db.migrate.database)
      (happlied : db.migrate.applied = titles (pendingAt version))
      (hversion : db.migrate.database.currentVersion = .error fault)

/-- A run that gets past the ledger. -/
theorem migrate_of_ledger {ledgered : Database} (hledger : db.ensureLedger = .ok ledgered)
    (hat : ledgered.AtVersion version) : db.migrate =
      match (Connection.of ledgered).applyAll [] (pendingAt version) with
      | (connection, applied, some fault) => ⟨connection.database, applied, .error fault⟩
      | (connection, applied, none) =>
        ⟨connection.database, applied,
          connection.database.currentVersion.map fun version => ⟨applied, version⟩⟩ := by
  unfold migrate
  simp only [hledger, currentVersion_eq_ok_iff.2 hat]
  rfl

/-- A run at the second version or a later one does nothing. -/
theorem migrate_of_current (hat : db.AtVersion version) (hcurrent : 2 ≤ version) :
    db.migrate = ⟨db, [], .ok ⟨[], version⟩⟩ := by
  rw [migrate_of_ledger (ensureLedger_of_hasTable hat.hasLedger) hat, pendingAt_eq_nil hcurrent]
  show MigrationRun.mk db [] (db.currentVersion.map _) = _
  rw [currentVersion_eq_ok_iff.2 hat]
  rfl

/-- A run that gets past the ledger applies all pending migrations, or those before the first one
that fails. -/
theorem migrate_cases {ledgered : Database} (hledger : db.ensureLedger = .ok ledgered)
    (hat : ledgered.AtVersion version) :
    ∃ done, done.foldlM apply ledgered = .ok db.migrate.database ∧
      db.migrate.applied = titles done ∧
      (done = pendingAt version ∧ db.migrate.outcome =
          db.migrate.database.currentVersion.map (fun version => ⟨titles done, version⟩) ∨
        ∃ failed rest fault, pendingAt version = done ++ failed :: rest ∧
          db.migrate.database.apply failed = .error fault ∧ db.migrate.outcome = .error fault) := by
  rw [migrate_of_ledger hledger hat]
  rcases hresult : (Connection.of ledgered).applyAll [] (pendingAt version) with
    ⟨connection, applied, stopped⟩
  obtain ⟨done, hdone, rfl, ⟨rfl, rfl⟩ | ⟨failed, rest, fault, hpending, rfl, hfailed⟩⟩ :=
    applyAll_cases hresult
  · exact ⟨_, hdone, rfl, Or.inl ⟨rfl, rfl⟩⟩
  · exact ⟨done, hdone, rfl, Or.inr ⟨failed, rest, fault, hpending, hfailed, rfl⟩⟩

/-- Of the migrations in their order, no later one has the version of one that was applied. -/
theorem version_ne_of_pendingAt {done rest : List Migration} (h : pendingAt version = done ++ rest)
    {other : Migration} (hmigration : migration ∈ rest) (hother : other ∈ done) :
    other.version ≠ migration.version := by
  have hascending := titles_ascending version
  unfold titles at hascending
  rw [h, List.pairwise_map] at hascending
  exact Nat.ne_of_lt ((List.pairwise_append.1 hascending).2.2 other hother migration hmigration)

section Ledgered

variable {ledgered : Database} (hledger : db.ensureLedger = .ok ledgered)
  (hat : ledgered.AtVersion version)

include hledger hat

/-- A run that succeeds has applied all pending migrations, and reports the version then reached. -/
theorem complete_of_outcome (hnamed : ledgered.Named) {report : MigrationReport}
    (h : db.migrate.outcome = .ok report) :
    (pendingAt version).foldlM apply ledgered = .ok db.migrate.database ∧
      report = ⟨titles (pendingAt version), max version 2⟩ ∧
      db.migrate.database.AtVersion (max version 2) := by
  obtain ⟨done, hdone, -, hcases⟩ := migrate_cases hledger hat
  have hrun := applied_of_foldlM hnamed hat.hasLedger hdone
  rcases hcases with ⟨rfl, houtcome⟩ | ⟨failed, rest, fault, -, -, houtcome⟩
  · rw [houtcome] at h
    cases hversion : db.migrate.database.currentVersion with
    | error fault =>
        rw [hversion] at h
        cases h
    | ok last =>
        rw [hversion] at h
        obtain rfl := Except.ok.inj h
        have hlast := currentVersion_eq_ok_iff.1 hversion
        obtain rfl := hrun.version_eq hat hlast
        exact ⟨hdone, rfl, hlast⟩
  · cases houtcome.symm.trans h

/-- A run that gets past the ledger and fails has stopped at a migration, or when it asked for the
version in the end. -/
theorem stopped_of_outcome (hnamed : ledgered.Named) {fault : MigrationFault}
    (h : db.migrate.outcome = .error fault) : db.Stopped version fault := by
  obtain ⟨done, hdone, happlied, hcases⟩ := migrate_cases hledger hat
  have hrun := applied_of_foldlM hnamed hat.hasLedger hdone
  rcases hcases with ⟨rfl, houtcome⟩ | ⟨failed, rest, other, hsplit, hfailed, houtcome⟩
  · rw [houtcome] at h
    cases hversion : db.migrate.database.currentVersion with
    | ok last =>
        rw [hversion] at h
        cases h
    | error other =>
        rw [hversion] at h
        obtain rfl := Except.error.inj h
        exact .atEnd hledger hdone happlied hversion
  · obtain rfl := Except.error.inj (houtcome.symm.trans h)
    refine .atMigration hledger hsplit hdone happlied hfailed fun migration hmigration => ?_
    refine hrun.not_mem hat ?_ fun other hother =>
      version_ne_of_pendingAt hsplit hmigration hother
    exact (mem_pendingAt.1 (hsplit ▸ List.mem_append_right _ hmigration)).2

end Ledgered

/-- Whatever tables a database has, and whatever is in them, if its ledger is missing or at some
version, then counting the pending migrations changes no table that is there, and a run leaves the
tables of the terms as they are but for new indexes. A run that succeeds has made the ledger where
there was none and applied as many migrations as were counted, namely all those above the version,
in ascending order, and reports the version that is then the largest; afterwards none is pending,
and a second run does nothing. Any other run has stopped at a migration that fails, or at the
ledger. -/
theorem migrate_complete_or_stopped (hnamed : db.Named) (hstarts : db.StartsAt version) :
    (∀ name t, db.table name = .ok t → db.pendingCount.2.table name = .ok t) ∧
    (∀ spec ∈ TableSpec.all, db.KeepsTable spec.name db.migrate.database) ∧
    (∀ report, db.migrate.outcome = .ok report →
      (∃ ledgered, db.ensureLedger = .ok ledgered ∧
        (pendingAt version).foldlM apply ledgered = .ok db.migrate.database) ∧
      db.pendingCount.1 = .ok report.applied.length ∧
      report.applied = titles (pendingAt version) ∧
      report.applied.Pairwise (fun first second => first.1 < second.1) ∧
      report.version = max version 2 ∧
      db.migrate.database.pendingCount = (.ok 0, db.migrate.database) ∧
      db.migrate.database.migrate = ⟨db.migrate.database, [], .ok ⟨[], max version 2⟩⟩) ∧
    ∀ fault, db.migrate.outcome = .error fault → db.Stopped version fault := by
  cases hledger : db.ensureLedger with
  | error fault =>
      have hpending : db.pendingCount = (.error fault, db) := by
        unfold pendingCount
        rw [hledger]
      have hrun : db.migrate = ⟨db, [], .error fault⟩ := by
        unfold migrate
        rw [hledger]
      rw [hpending, hrun]
      refine ⟨fun _ _ htable => htable, fun spec _ => .refl db spec.name, nofun,
        fun other hother => ?_⟩
      obtain rfl := Except.error.inj hother
      exact .atLedger hledger (congrArg MigrationRun.database hrun)
        (congrArg MigrationRun.applied hrun)
  | ok ledgered =>
      obtain ⟨hnamed', hat, hsame⟩ := ensureLedger_spec hnamed hstarts hledger
      have hpending := pendingCount_of_ledger hledger hat
      obtain ⟨done, hdone, -, -⟩ := migrate_cases hledger hat
      have hrun := applied_of_foldlM hnamed' hat.hasLedger hdone
      refine ⟨fun name t htable => hpending ▸ hsame name t htable, fun spec hspec t htable =>
        hrun.tables spec.name ?_ t (hsame spec.name t htable), fun report hreport => ?_,
        fun fault hfault => stopped_of_outcome hledger hat hnamed' hfault⟩
      · have hother : ∀ spec ∈ TableSpec.all, foldName spec.name ≠ foldName ledgerName := by
          decide +kernel
        exact hother spec hspec
      · obtain ⟨hall, rfl, hlast⟩ := complete_of_outcome hledger hat hnamed' hreport
        refine ⟨⟨ledgered, rfl, hall⟩, ?_, rfl, titles_ascending version, rfl, ?_, ?_⟩
        · rw [hpending]
          exact congrArg Except.ok (List.length_map _).symm
        · rw [pendingCount_of_atVersion hlast, pendingAt_eq_nil (Nat.le_max_right _ _)]
          rfl
        · exact migrate_of_current hlast (Nat.le_max_right _ _)

/-- A database with a table of texts only, which has neither key nor index, and holds a text. -/
def loneTexts : Database where
  tables := ⟨[("wbt_text", {
    name := "wbt_text"
    key := none
    columns := [⟨"wbx_text", .untyped, false⟩]
    counter := none
    rows := .ofList [(1, [.text "Berlin"])]
    indexes := [] })], by decide⟩
  readOnly := false

/-- Its text stays, and the other tables are made beside it. -/
theorem lone_texts_migrated :
    loneTexts.Named ∧ loneTexts.StartsAt 0 ∧
    loneTexts.migrate.outcome = .ok ⟨[(1, "term_store"), (2, "term_indexes")], 2⟩ ∧
    (∃ ledgered, loneTexts.ensureLedger = .ok ledgered ∧
      Migration.all.foldlM apply ledgered = .ok loneTexts.migrate.database) ∧
    loneTexts.pendingCount.1 = .ok 2 ∧
    (∀ spec ∈ TableSpec.all, loneTexts.KeepsTable spec.name loneTexts.migrate.database) ∧
    loneTexts.migrate.database.migrate = ⟨loneTexts.migrate.database, [], .ok ⟨[], 2⟩⟩ := by
  have hnamed : loneTexts.Named := by
    refine named_of_entries ?_
    decide +kernel
  have hstarts : loneTexts.StartsAt 0 := Or.inl ⟨by decide +kernel, rfl⟩
  have houtcome : loneTexts.migrate.outcome =
      .ok ⟨[(1, "term_store"), (2, "term_indexes")], 2⟩ := by decide +kernel
  obtain ⟨-, hkeeps, hsucceeds, -⟩ := migrate_complete_or_stopped hnamed hstarts
  obtain ⟨hledgered, hcount, -, -, -, -, hagain⟩ := hsucceeds _ houtcome
  rw [Nat.max_eq_right (by decide)] at hagain
  exact ⟨hnamed, hstarts, houtcome, hledgered, hcount, hkeeps, hagain⟩

end Database

end TermStore.Storage
