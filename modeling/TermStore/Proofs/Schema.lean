import TermStore.Session.Migrating
import TermStore.Proofs.Insertion
import TermStore.Proofs.Lookups

/-!
# Databases of terms

A database is *sound* when it has the four tables of a term store, each of which keeps the records
of its specification without repetition; migrations make a sound one. What is known of single tables
is lifted here to sound databases: what look-ups find, what inserts change, and how databases
compare. `Database.LeadsTo` says of an id that its three rows tell a term.
-/

namespace TermStore.Storage

/-! ### The columns of the four tables -/

/-- The columns that hold texts. -/
def textColumns : List String := ["wby_name", "wbx_text", "wbxl_language"]

/-- The types of a specification's columns. -/
def TableSpec.affinities (spec : TableSpec) : List Affinity :=
  spec.columns.map fun name => if textColumns.contains name then .text else .integer

/-- Has a record the cells that its table wants? -/
def TableSpec.Takes (spec : TableSpec) (record : Record) : Prop := Fits spec.affinities record

instance (spec : TableSpec) (record : Record) : Decidable (spec.Takes record) :=
  inferInstanceAs (Decidable (Fits _ _))

namespace TableSpec

theorem takes_kinds (name : String) : kinds.Takes [.text name] := by rfl

theorem takes_texts (text : String) : texts.Takes [.text text] := by rfl

theorem takes_textsInLanguage (textId : Int) (language : String) :
    textsInLanguage.Takes [.integer textId, .text language] := by rfl

theorem takes_termsInLanguage (middleId kindId : Int) :
    termsInLanguage.Takes [.integer middleId, .integer kindId] := by rfl

theorem mem_all_kinds : kinds ∈ all := by decide

theorem mem_all_texts : texts ∈ all := by decide

theorem mem_all_textsInLanguage : textsInLanguage ∈ all := by decide

theorem mem_all_termsInLanguage : termsInLanguage ∈ all := by decide

/-- Each of the four tables has a name of its own. -/
theorem eq_of_foldName_eq {spec other : TableSpec} (h : spec ∈ all) (h' : other ∈ all)
    (hname : foldName spec.name = foldName other.name) : spec = other := by
  have hall : ∀ spec ∈ all, ∀ other ∈ all, foldName spec.name = foldName other.name →
      spec = other := by decide +kernel
  exact hall spec h other h' hname

end TableSpec

namespace Table

variable {t t' : Table} {spec : TableSpec} {affinities : List Affinity}

/-- A table keeps the records of a specification without repetition. -/
structure Sound (spec : TableSpec) (t : Table) : Prop where
  named : foldName t.name = foldName spec.name
  keeps : t.Keeps spec spec.affinities
  unique : t.Unique

/-- What is to be checked of a table whose columns are at given positions, for it to keep the
records of a specification. -/
def Laid (positions : List Nat) (spec : TableSpec) (t : Table) : Prop :=
  t.slot? spec.idColumn = some .number ∧
  positions ≠ [] ∧ positions.Nodup ∧
  spec.columns.map t.slot? = positions.map (fun i => some (Slot.column i)) ∧
  (∀ column ∈ t.columns, ∃ name ∈ spec.columns, sameName name column.name = true) ∧
  spec.columns.map (fun name => (t.operand name).affinity) = spec.affinities ∧
  (∀ index ∈ t.indexes, index.unique = true → t.indexSlots index = positions.map Slot.column) ∧
  ∃ index ∈ t.indexes, index.unique = true

instance (positions : List Nat) (spec : TableSpec) (t : Table) :
    Decidable (t.Laid positions spec) :=
  inferInstanceAs (Decidable (_ ∧ _))

theorem Laid.keeps {positions : List Nat} (h : t.Laid positions spec) :
    t.Keeps spec spec.affinities := by
  obtain ⟨hnumbered, hnonempty, hnodup, hslots, hcovered, htyped, hindexed, hunique⟩ := h
  have hmem : ∀ slot, slot ∈ spec.columns.map t.slot? ↔
      ∃ i ∈ positions, some (Slot.column i) = slot := by
    intro slot
    rw [hslots, List.mem_map]
  refine ⟨hnumbered, ?nonempty, ?stored, ?distinct, hcovered, htyped, ?indexed, hunique⟩
  case nonempty =>
    intro hnil
    rw [hnil, List.map_nil] at hslots
    exact hnonempty (List.map_eq_nil_iff.1 hslots.symm)
  case stored =>
    intro name hname
    obtain ⟨index, -, hslot⟩ := (hmem (t.slot? name)).1 (List.mem_map_of_mem hname)
    exact ⟨index, hslot.symm⟩
  case distinct =>
    rw [hslots]
    refine List.Pairwise.map _ (fun i j hij heq => hij ?_) hnodup
    cases heq
    rfl
  case indexed =>
    intro index hindex hu slot
    rw [hindexed index hindex hu, hmem]
    simp only [List.mem_map, Option.some.injEq]

/-- The text columns hold texts; the others may hold anything. -/
def Textual (spec : TableSpec) (t : Table) : Prop :=
  ∀ id values, t.rows.get? id = some values →
    List.Forall₂ (fun affinity value => affinity = .text → ∃ text, value = Value.text text)
      spec.affinities (t.cells spec (id, values))

/-- Every row holds a record of the specification. -/
def Typed (spec : TableSpec) (t : Table) : Prop :=
  ∀ id values, t.rows.get? id = some values →
    ∃ record, spec.Takes record ∧ t.cells spec (id, values) = record.map Cell.toValue

/-- In a row that reads as a record all texts are texts and not bytes. -/
theorem Textual.has_of_reads (h : t.Textual spec) {id : Int} {record : Record}
    (htakes : spec.Takes record) (hreads : t.Reads spec id record) : t.Has spec id record := by
  obtain ⟨values, hget, hcells⟩ := hreads
  have htexts := h id values hget
  refine ⟨values, hget, ?_⟩
  unfold TableSpec.Takes Fits at htakes
  generalize t.cells spec (id, values) = kept at hcells htexts
  generalize spec.affinities = types at htexts htakes
  induction hcells generalizing types with
  | nil => rfl
  | @cons value cell _ _ hcell hrest ih =>
      cases htakes
      obtain ⟨htext, htexts⟩ := List.forall₂_cons.1 htexts
      rw [List.map_cons, ih _ htexts rfl]
      congr 1
      cases hcell with
      | integer n => rfl
      | text s => rfl
      | blob hdecode =>
          obtain ⟨text, htext⟩ := htext rfl
          cases htext

theorem textual_of_cells {record : Record} (htakes : spec.Takes record) :
    List.Forall₂ (fun affinity value => affinity = .text → ∃ text, value = Value.text text)
      spec.affinities (record.map Cell.toValue) := by
  rw [← show record.map Cell.affinity = spec.affinities from htakes, List.forall₂_map_left_iff,
    List.forall₂_map_right_iff, List.forall₂_same]
  intro cell _ htext
  cases cell with
  | integer n => cases htext
  | text s => exact ⟨s, rfl⟩

theorem Typed.textual (h : t.Typed spec) : t.Textual spec := by
  intro id values hget
  obtain ⟨record, htakes, hcells⟩ := h id values hget
  rw [hcells]
  exact textual_of_cells htakes

/-- Look-ups of a typed table never meet a value that they cannot read. -/
theorem Gains.sound {records : List Record} (h : t.Gains spec records t') (hsound : t.Sound spec) :
    t'.Sound spec := by
  have halike := h.kept.1
  refine ⟨?_, halike.keeps hsound.keeps, h.unique hsound.unique⟩
  rw [halike]
  exact hsound.named

section Gains

variable {records : List Record} (htakes : ∀ record ∈ records, spec.Takes record)

include htakes

theorem Gains.textual (h : t.Gains spec records t') (htextual : t.Textual spec) :
    t'.Textual spec := by
  intro id values hget
  rcases h.gained id values hget with hold | ⟨record, hrecord, hcells⟩
  · rw [h.kept.1.cells]
    exact htextual id values hold
  · rw [hcells]
    exact textual_of_cells (htakes record hrecord)

theorem Gains.typed (h : t.Gains spec records t') (htyped : t.Typed spec) : t'.Typed spec := by
  intro id values hget
  rcases h.gained id values hget with hold | ⟨record, hrecord, hcells⟩
  · rw [h.kept.1.cells]
    exact htyped id values hold
  · exact ⟨record, htakes record hrecord, hcells⟩

end Gains

/-- A table as a migration makes it: without rows, and with a counter. -/
structure Fresh (spec : TableSpec) (t : Table) : Prop where
  sound : t.Sound spec
  rows : t.rows = .empty
  counter : t.counter = some 0

/-- A table without rows, with columns that all have to have values. -/
def blank (name key : String) (columns : List (String × Affinity)) (indexes : List Index) :
    Table where
  name := name
  key := some key
  columns := columns.map fun (column, affinity) => ⟨column, affinity, true⟩
  counter := some 0
  rows := .empty
  indexes := indexes

theorem Fresh.typed (h : t.Fresh spec) : t.Typed spec := by
  intro id values hget
  rw [h.rows, SortedMap.get?_empty] at hget
  cases hget

theorem Fresh.remembers (h : t.Fresh spec) : t.Remembers := by
  refine ⟨0, h.counter, fun id values hget => ?_⟩
  rw [h.rows, SortedMap.get?_empty] at hget
  cases hget

end Table

namespace Database

variable {db db' db'' : Database} {spec : TableSpec} {records : List Record}

/-! ### Conditions on tables and relations between them -/

/-- Is there each of the four tables, and does it satisfy a condition? -/
def Each (P : TableSpec → Table → Prop) (db : Database) : Prop :=
  ∀ spec ∈ TableSpec.all, ∃ t, db.table spec.name = .ok t ∧ P spec t

/-- Are there the four tables in both databases, each related to its other state? -/
def Evolves (R : Table → Table → Prop) (db db' : Database) : Prop :=
  ∀ spec ∈ TableSpec.all, ∃ t t', db.table spec.name = .ok t ∧ db'.table spec.name = .ok t' ∧ R t t'

theorem Each.of_table {P : TableSpec → Table → Prop} (h : db.Each P) (hspec : spec ∈ TableSpec.all)
    {t : Table} (htable : db.table spec.name = .ok t) : P spec t := by
  obtain ⟨t', htable', hP⟩ := h spec hspec
  rw [Except.ok.inj (htable.symm.trans htable')]
  exact hP

theorem Each.evolves {R : Table → Table → Prop} {P : TableSpec → Table → Prop} (h : db.Each P)
    (hrefl : ∀ t, R t t) : db.Evolves R db := by
  intro spec hspec
  obtain ⟨t, htable, -⟩ := h spec hspec
  exact ⟨t, t, htable, htable, hrefl t⟩

theorem Evolves.trans {R : Table → Table → Prop} (hR : ∀ {t t' t''}, R t t' → R t' t'' → R t t'')
    (h : db.Evolves R db') (h' : db'.Evolves R db'') : db.Evolves R db'' := by
  intro spec hspec
  obtain ⟨t, middle, htable, hmiddle, hfirst⟩ := h spec hspec
  obtain ⟨middle', t', hmiddle', htable', hsecond⟩ := h' spec hspec
  obtain rfl := Except.ok.inj (hmiddle.symm.trans hmiddle')
  exact ⟨t, t', htable, htable', hR hfirst hsecond⟩

theorem Evolves.of_table {R : Table → Table → Prop} (h : db.Evolves R db')
    (hspec : spec ∈ TableSpec.all) {t : Table} (htable : db.table spec.name = .ok t) :
    ∃ t', db'.table spec.name = .ok t' ∧ R t t' := by
  obtain ⟨t₀, t', htable₀, htable', hR⟩ := h spec hspec
  rw [Except.ok.inj (htable.symm.trans htable₀)]
  exact ⟨t', htable', hR⟩

/-- Are all rows of a database still there? -/
abbrev Grows (db db' : Database) : Prop := db.Evolves Table.Extends db'

theorem Grows.trans (h : db.Grows db') (h' : db'.Grows db'') : db.Grows db'' :=
  Evolves.trans Table.Extends.trans h h'

/-! ### Rows of a database -/

/-- A row of a specification's table holds a record. -/
def Has (db : Database) (spec : TableSpec) (id : Int) (record : Record) : Prop :=
  ∃ t, db.table spec.name = .ok t ∧ t.Has spec id record

/-- A row of a specification's table reads as a record. -/
def Reads (db : Database) (spec : TableSpec) (id : Int) (record : Record) : Prop :=
  ∃ t, db.table spec.name = .ok t ∧ t.Reads spec id record

/-- Some row of a specification's table matches a record. -/
def Matches (db : Database) (spec : TableSpec) (record : Record) : Prop :=
  ∃ t, db.table spec.name = .ok t ∧ ∃ row ∈ t.rows.entries, t.matchesRecord spec record row = true

theorem Has.reads {id : Int} {record : Record} (h : db.Has spec id record) :
    db.Reads spec id record := by
  obtain ⟨t, htable, hhas⟩ := h
  exact ⟨t, htable, hhas.reads⟩

/-- The row of an id can be read, if there is one. -/
def Readable (db : Database) (spec : TableSpec) (id : Int) : Prop :=
  ∃ t, db.table spec.name = .ok t ∧
    ∀ values, t.rows.get? id = some values → ∃ record, t.Reads spec id record

theorem Has.readable {id : Int} {record : Record} (h : db.Has spec id record) :
    db.Readable spec id := by
  obtain ⟨t, htable, hhas⟩ := h
  exact ⟨t, htable, fun _ _ => ⟨record, hhas.reads⟩⟩

theorem Has.functional {id : Int} {record record' : Record} (h : db.Has spec id record)
    (h' : db.Has spec id record') : record = record' := by
  obtain ⟨t, htable, hhas⟩ := h
  obtain ⟨t', htable', hhas'⟩ := h'
  obtain rfl := Except.ok.inj (htable.symm.trans htable')
  exact hhas.functional hhas'

theorem Reads.functional {id : Int} {record record' : Record} (h : db.Reads spec id record)
    (h' : db.Reads spec id record') : record = record' := by
  obtain ⟨t, htable, hreads⟩ := h
  obtain ⟨t', htable', hreads'⟩ := h'
  obtain rfl := Except.ok.inj (htable.symm.trans htable')
  exact hreads.functional hreads'

theorem Grows.has (h : db.Grows db') (hspec : spec ∈ TableSpec.all) {id : Int} {record : Record}
    (hhas : db.Has spec id record) : db'.Has spec id record := by
  obtain ⟨t, htable, hhas⟩ := hhas
  obtain ⟨t', htable', hextends⟩ := h.of_table hspec htable
  exact ⟨t', htable', hextends.has hhas⟩

theorem Grows.matches (h : db.Grows db') (hspec : spec ∈ TableSpec.all) {record : Record}
    (hmatches : db.Matches spec record) : db'.Matches spec record := by
  obtain ⟨t, htable, row, hrow, hmatches⟩ := hmatches
  obtain ⟨t', htable', halike, hkept⟩ := h.of_table hspec htable
  refine ⟨t', htable', row, ?_, ?_⟩
  · exact SortedMap.mem_entries_iff.2 (hkept _ _ (SortedMap.mem_entries_iff.1 hrow))
  · rw [halike.matchesRecord]
    exact hmatches

/-! ### Sound databases -/

/-- A database has the four tables of a term store, each of them sound. -/
abbrev Sound (db : Database) : Prop := db.Each Table.Sound

/-- No table has a row that matches a record without holding it. -/
def Exact (db : Database) (spec : TableSpec) (record : Record) : Prop :=
  ∃ t, db.table spec.name = .ok t ∧ t.Exact spec record

namespace Sound

theorem grows_refl (h : db.Sound) : db.Grows db := Each.evolves h Table.Extends.refl

/-- A database whose rows are all in a sound one is sound. -/
theorem of_grows (h : db'.Sound) (hgrows : db.Grows db') : db.Sound := by
  intro spec hspec
  obtain ⟨t, t', htable, htable', halike, hkept⟩ := hgrows spec hspec
  have hsound := h.of_table hspec htable'
  refine ⟨t, htable, ?_, halike.symm.keeps hsound.keeps, ?_⟩
  · rw [halike.symm]
    exact hsound.named
  · intro index hindex hunique x hx y hy hagree
    have hslots : t'.indexSlots index = t.indexSlots index := by
      rw [halike]
      rfl
    have hindex' : index ∈ t'.indexes := by
      rw [halike]
      exact hindex
    refine hsound.unique index hindex' hunique x ?_ y ?_ (hslots ▸ hagree)
    · exact SortedMap.mem_entries_iff.2 (hkept _ _ (SortedMap.mem_entries_iff.1 hx))
    · exact SortedMap.mem_entries_iff.2 (hkept _ _ (SortedMap.mem_entries_iff.1 hy))

/-- No record has two rows. -/
theorem has_unique (h : db.Sound) (hspec : spec ∈ TableSpec.all) {record : Record} {id id' : Int}
    (hhas : db.Has spec id record) (hhas' : db.Has spec id' record) : id = id' := by
  obtain ⟨t, htable, hhas⟩ := hhas
  obtain ⟨t', htable', hhas'⟩ := hhas'
  obtain rfl := Except.ok.inj (htable.symm.trans htable')
  have hsound := h.of_table hspec htable
  exact hsound.keeps.has_unique hsound.unique hhas hhas'

theorem matches_of_has (h : db.Sound) (hspec : spec ∈ TableSpec.all) {record : Record}
    (htakes : spec.Takes record) {id : Int} (hhas : db.Has spec id record) :
    db.Matches spec record := by
  obtain ⟨t, htable, hhas⟩ := hhas
  obtain ⟨values, hget, hmatches⟩ := (h.of_table hspec htable).keeps.matches_of_has htakes hhas
  exact ⟨t, htable, _, SortedMap.mem_entries_iff.2 hget, hmatches⟩

theorem exact_of_has (h : db.Sound) (hspec : spec ∈ TableSpec.all) {record : Record}
    (htakes : spec.Takes record) {id : Int} (hhas : db.Has spec id record) :
    db.Exact spec record := by
  obtain ⟨t, htable, hhas⟩ := hhas
  have hsound := h.of_table hspec htable
  exact ⟨t, htable, hsound.keeps.exact_of_has hsound.unique htakes hhas⟩

/-! ### Look-ups in a sound database -/

section LookUps

variable {found : RecordIds}

/-- A look-up of records goes through exactly when rows that match one of them hold it. -/
theorem find_ok_iff (h : db.Sound) (hspec : spec ∈ TableSpec.all)
    (htakes : ∀ record ∈ records, spec.Takes record) :
    (∃ found, db.find spec records = .ok found) ↔ ∀ record ∈ records, db.Exact spec record := by
  obtain ⟨t, htable, hsound⟩ := h spec hspec
  constructor
  · rintro ⟨found, hfind⟩ record hrecord
    exact ⟨t, htable, exact_of_find htable hsound.keeps htakes hfind hrecord⟩
  · intro hexact
    refine exists_find htable hsound.keeps htakes fun record hrecord => ?_
    obtain ⟨t', htable', hexact⟩ := hexact record hrecord
    rw [Except.ok.inj (htable.symm.trans htable')]
    exact hexact

/-- What a look-up of records finds: the ids of the rows that hold them. -/
theorem find_iff (h : db.Sound) (hspec : spec ∈ TableSpec.all)
    (htakes : ∀ record ∈ records, spec.Takes record) (hfind : db.find spec records = .ok found)
    {record : Record} {id : Int} :
    found.get? record = some id ↔ record ∈ records ∧ db.Has spec id record := by
  obtain ⟨t, htable, hsound⟩ := h spec hspec
  rw [find_eq_some_iff htable hsound.keeps hsound.unique htakes hfind]
  refine and_congr_right fun _ => ⟨fun hhas => ⟨t, htable, hhas⟩, ?_⟩
  rintro ⟨t', htable', hhas⟩
  rw [Except.ok.inj (htable.symm.trans htable')]
  exact hhas

/-- A look-up that goes through finds each record that some row matches. -/
theorem exists_of_matches (h : db.Sound) (hspec : spec ∈ TableSpec.all)
    (htakes : ∀ record ∈ records, spec.Takes record) (hfind : db.find spec records = .ok found)
    {record : Record} (hrecord : record ∈ records) (hmatches : db.Matches spec record) :
    ∃ id, found.get? record = some id := by
  obtain ⟨t, htable, row, hrow, hmatches⟩ := hmatches
  obtain ⟨t', htable', hexact⟩ := (h.find_ok_iff hspec htakes).1 ⟨found, hfind⟩ record hrecord
  obtain rfl := Except.ok.inj (htable.symm.trans htable')
  have hget := SortedMap.mem_entries_iff.1 hrow
  refine ⟨row.1, (h.find_iff hspec htakes hfind).2 ⟨hrecord, t, htable, row.2, hget, ?_⟩⟩
  exact hexact row.1 row.2 hget hmatches

/-- A look-up of ids goes through exactly when their rows can be read, and finds what they read
as. -/
theorem readsEach_findIds (h : db.Sound) (hspec : spec ∈ TableSpec.all) :
    ReadsEach (db.findIds spec) (db.Readable spec) (db.Reads spec) := by
  obtain ⟨t, htable, hsound⟩ := h spec hspec
  refine (Database.readsEach_findIds htable hsound.keeps).congr (fun id => ⟨?_, ?_⟩)
    fun id record => ⟨fun hreads => ⟨t, htable, hreads⟩, ?_⟩
  · exact fun hreadable => ⟨t, htable, hreadable⟩
  · rintro ⟨t', htable', hreadable⟩
    exact Except.ok.inj (htable'.symm.trans htable) ▸ hreadable
  · rintro ⟨t', htable', hreads⟩
    exact Except.ok.inj (htable'.symm.trans htable) ▸ hreads

theorem findIds_iff (h : db.Sound) (hspec : spec ∈ TableSpec.all) {ids : List Int}
    {found : SortedMap Int Record} (hfind : db.findIds spec ids = .ok found) {id : Int}
    {record : Record} : found.get? id = some record ↔ id ∈ ids ∧ db.Reads spec id record :=
  (h.readsEach_findIds hspec).get?_iff hfind id record

theorem findIds_ok_iff (h : db.Sound) (hspec : spec ∈ TableSpec.all) {ids : List Int} :
    (∃ found, db.findIds spec ids = .ok found) ↔ ∀ id ∈ ids, db.Readable spec id :=
  (h.readsEach_findIds hspec).ok_iff ids

/-- A look-up of ids goes through when their rows hold records. -/
theorem exists_findIds_of_has (h : db.Sound) (hspec : spec ∈ TableSpec.all) {ids : List Int}
    (hhas : ∀ id ∈ ids, ∃ record, db.Has spec id record) :
    ∃ found, db.findIds spec ids = .ok found := by
  refine (h.findIds_ok_iff hspec).2 fun id hid => ?_
  obtain ⟨record, hid⟩ := hhas id hid
  exact hid.readable

end LookUps

end Sound

/-! ### Changes of one table -/

/-- One table changes in a given way, and no other one does. -/
structure Changes (R : Table → Table → Prop) (spec : TableSpec) (db db' : Database) : Prop where
  table : ∃ t t', db.table spec.name = .ok t ∧ db'.table spec.name = .ok t' ∧ R t t'
  others : ∀ name, foldName name ≠ foldName spec.name → db'.table name = db.table name

/-- A table put in place of an old one of its name is the only change. -/
theorem changes_setTable {R : Table → Table → Prop} {t t' : Table}
    (htable : db.table spec.name = .ok t) (hnamed : foldName t'.name = foldName spec.name)
    (hR : R t t') :
    db.Changes R spec (db.setTable t') := by
  refine ⟨⟨t, t', htable, ?_, hR⟩, fun name hname => ?_⟩
  · rw [table_setTable, if_pos hnamed.symm]
  · rw [table_setTable, if_neg (hnamed ▸ hname)]

namespace Changes

variable {R : Table → Table → Prop}

/-- A condition that the change keeps in its own table is kept in all of them. -/
theorem each {P : TableSpec → Table → Prop} (h : db.Changes R spec db')
    (hspec : spec ∈ TableSpec.all) (hP : db.Each P)
    (hstep : ∀ {t t'}, P spec t → R t t' → P spec t') : db'.Each P := by
  intro other hother
  obtain ⟨t, t', htable, htable', hchange⟩ := h.table
  obtain ⟨before, hbefore, hcondition⟩ := hP other hother
  by_cases hname : foldName other.name = foldName spec.name
  · obtain rfl := TableSpec.eq_of_foldName_eq hother hspec hname
    obtain rfl := Except.ok.inj (htable.symm.trans hbefore)
    exact ⟨t', htable', hstep hcondition hchange⟩
  · exact ⟨before, (h.others _ hname).trans hbefore, hcondition⟩

theorem evolves {R' : Table → Table → Prop} (h : db.Changes R spec db') (hdb : db.Sound)
    (hspec : spec ∈ TableSpec.all) (hrefl : ∀ t, R' t t) (hstep : ∀ {t t'}, R t t' → R' t t') :
    db.Evolves R' db' := by
  intro other hother
  obtain ⟨t, t', htable, htable', hchange⟩ := h.table
  obtain ⟨before, hbefore, -⟩ := hdb other hother
  by_cases hname : foldName other.name = foldName spec.name
  · obtain rfl := TableSpec.eq_of_foldName_eq hother hspec hname
    exact ⟨t, t', htable, htable', hstep hchange⟩
  · exact ⟨before, before, hbefore, (h.others _ hname).trans hbefore, hrefl before⟩

end Changes

/-! ### Inserts into a sound database -/

/-- What an insert of records makes of a database. -/
abbrev Gains (spec : TableSpec) (records : List Record) (db db' : Database) : Prop :=
  db.Changes (Table.Gains spec records) spec db'

theorem Sound.gains (h : db.Sound) (hspec : spec ∈ TableSpec.all)
    (htakes : ∀ record ∈ records, spec.Takes record) {added : Nat}
    (hinsert : db.insertIgnoring spec records = .ok (added, db')) :
    db.Gains spec records db' := by
  obtain ⟨t, htable, hsound⟩ := h spec hspec
  obtain ⟨t', hgains, htable', hothers⟩ :=
    gains_of_insert htable hsound.named hsound.keeps htakes hinsert
  exact ⟨⟨t, t', htable, htable', hgains⟩, hothers⟩

namespace Gains

theorem grows (h : db.Gains spec records db') (hdb : db.Sound) (hspec : spec ∈ TableSpec.all) :
    db.Grows db' :=
  h.evolves hdb hspec Table.Extends.refl fun hgains => hgains.kept

theorem sound (h : db.Gains spec records db') (hdb : db.Sound) (hspec : spec ∈ TableSpec.all) :
    db'.Sound :=
  h.each hspec hdb fun hsound hgains => hgains.sound hsound

/-- Afterwards a row matches each of the records. -/
theorem matched (h : db.Gains spec records db') {record : Record} (hrecord : record ∈ records) :
    db'.Matches spec record := by
  obtain ⟨t, t', -, htable', hgains⟩ := h.table
  exact ⟨t', htable', hgains.matched record hrecord⟩

/-- Rows that can be read are not changed, and new rows hold what was inserted. -/
theorem readable (h : db.Gains spec records db') (hspec : spec ∈ TableSpec.all) {other : TableSpec}
    (hother : other ∈ TableSpec.all) {id : Int} (hreadable : db.Readable other id) :
    db'.Readable other id := by
  obtain ⟨t₀, htable₀, hreads⟩ := hreadable
  obtain ⟨t, t', htable, htable', hgains⟩ := h.table
  by_cases hname : foldName other.name = foldName spec.name
  · obtain rfl := TableSpec.eq_of_foldName_eq hother hspec hname
    obtain rfl := Except.ok.inj (htable.symm.trans htable₀)
    refine ⟨t', htable', fun values hget => ?_⟩
    rcases hgains.gained id values hget with hold | ⟨record, -, hcells⟩
    · obtain ⟨record, hrecord⟩ := hreads values hold
      exact ⟨record, hgains.kept.reads hrecord⟩
    · exact ⟨record, Table.Has.reads ⟨values, hget, hcells⟩⟩
  · exact ⟨t₀, (h.others _ hname).trans htable₀, hreads⟩

/-- What is read of a row was read before, or it was inserted and is held. -/
theorem reads_cases (h : db.Gains spec records db') (hspec : spec ∈ TableSpec.all)
    {other : TableSpec} (hother : other ∈ TableSpec.all) {id : Int} {record : Record}
    (hreads : db'.Reads other id record) :
    db.Reads other id record ∨
      (other = spec ∧ record ∈ records ∧ db'.Has other id record) := by
  obtain ⟨t₀, htable₀, values, hget, hcells⟩ := hreads
  obtain ⟨t, t', htable, htable', hgains⟩ := h.table
  by_cases hname : foldName other.name = foldName spec.name
  · obtain rfl := TableSpec.eq_of_foldName_eq hother hspec hname
    obtain rfl := Except.ok.inj (htable'.symm.trans htable₀)
    rcases hgains.gained id values hget with hold | ⟨held, hheld, hcells'⟩
    · rw [hgains.kept.1.cells] at hcells
      exact Or.inl ⟨t, htable, values, hold, hcells⟩
    · have hhas : t'.Has other id held := ⟨values, hget, hcells'⟩
      obtain rfl := hhas.reads.functional ⟨values, hget, hcells⟩
      exact Or.inr ⟨rfl, hheld, t', htable₀, hhas⟩
  · exact Or.inl ⟨t₀, (h.others _ hname).symm.trans htable₀, values, hget, hcells⟩

end Gains

/-! ### Chains -/

/-- The three rows of an id tell a term. -/
def LeadsTo (db : Database) (id kindId : Int) (language text : String) : Prop :=
  ∃ middleId textId,
    db.Has .termsInLanguage id [.integer middleId, .integer kindId] ∧
    db.Has .textsInLanguage middleId [.integer textId, .text language] ∧
    db.Has .texts textId [.text text]

theorem Grows.leadsTo (h : db.Grows db') {id kindId : Int} {language text : String}
    (hleads : db.LeadsTo id kindId language text) : db'.LeadsTo id kindId language text := by
  obtain ⟨middleId, textId, hterm, hmiddle, htext⟩ := hleads
  exact ⟨middleId, textId, h.has TableSpec.mem_all_termsInLanguage hterm,
    h.has TableSpec.mem_all_textsInLanguage hmiddle, h.has TableSpec.mem_all_texts htext⟩

/-- An id leads to one term at most. -/
theorem LeadsTo.functional {id kindId kindId' : Int} {language language' text text' : String}
    (h : db.LeadsTo id kindId language text) (h' : db.LeadsTo id kindId' language' text') :
    kindId = kindId' ∧ language = language' ∧ text = text' := by
  obtain ⟨middleId, textId, hterm, hmiddle, htext⟩ := h
  obtain ⟨middleId', textId', hterm', hmiddle', htext'⟩ := h'
  have hterms := hterm.functional hterm'
  simp only [List.cons.injEq, Cell.integer.injEq, and_true] at hterms
  obtain ⟨rfl, rfl⟩ := hterms
  have hmiddles := hmiddle.functional hmiddle'
  simp only [List.cons.injEq, Cell.integer.injEq, Cell.text.injEq, and_true] at hmiddles
  obtain ⟨rfl, rfl⟩ := hmiddles
  have htexts := htext.functional htext'
  simp only [List.cons.injEq, Cell.text.injEq, and_true] at htexts
  exact ⟨rfl, rfl, htexts⟩

/-- One id at most leads to a term. -/
theorem Sound.leadsTo_unique (h : db.Sound) {id id' kindId : Int} {language text : String}
    (hleads : db.LeadsTo id kindId language text) (hleads' : db.LeadsTo id' kindId language text) :
    id = id' := by
  obtain ⟨middleId, textId, hterm, hmiddle, htext⟩ := hleads
  obtain ⟨middleId', textId', hterm', hmiddle', htext'⟩ := hleads'
  obtain rfl := h.has_unique TableSpec.mem_all_texts htext htext'
  obtain rfl := h.has_unique TableSpec.mem_all_textsInLanguage hmiddle hmiddle'
  exact h.has_unique TableSpec.mem_all_termsInLanguage hterm hterm'

/-! ### What columns hold -/

/-- The text columns of the four tables hold texts; the others may hold anything. -/
abbrev Textual (db : Database) : Prop := db.Each Table.Textual

/-- Every row of the four tables holds a record. -/
abbrev Typed (db : Database) : Prop := db.Each Table.Typed

theorem Typed.textual (h : db.Typed) : db.Textual := by
  intro spec hspec
  obtain ⟨t, htable, htyped⟩ := h spec hspec
  exact ⟨t, htable, htyped.textual⟩

/-- Where every row holds a record, every row can be read. -/
theorem Typed.readable (h : db.Typed) (hspec : spec ∈ TableSpec.all) (id : Int) :
    db.Readable spec id := by
  obtain ⟨t, htable, htyped⟩ := h spec hspec
  refine ⟨t, htable, fun values hget => ?_⟩
  obtain ⟨record, -, hcells⟩ := htyped id values hget
  exact ⟨record, Table.Has.reads ⟨values, hget, hcells⟩⟩

theorem Textual.has_of_reads (h : db.Textual) (hspec : spec ∈ TableSpec.all) {id : Int}
    {record : Record} (htakes : spec.Takes record) (hreads : db.Reads spec id record) :
    db.Has spec id record := by
  obtain ⟨t, htable, hreads⟩ := hreads
  exact ⟨t, htable, (h.of_table hspec htable).has_of_reads htakes hreads⟩

theorem Gains.textual (h : db.Gains spec records db') (hspec : spec ∈ TableSpec.all)
    (htakes : ∀ record ∈ records, spec.Takes record) (hdb : db.Textual) : db'.Textual :=
  h.each hspec hdb fun htextual hgains => hgains.textual htakes htextual

theorem Gains.typed (h : db.Gains spec records db') (hspec : spec ∈ TableSpec.all)
    (htakes : ∀ record ∈ records, spec.Takes record) (hdb : db.Typed) : db'.Typed :=
  h.each hspec hdb fun htyped hgains => hgains.typed htakes htyped

/-! ### Migrated databases -/

/-- The four tables are there as the migrations make them. -/
abbrev Fresh (db : Database) : Prop := db.Each Table.Fresh

theorem Fresh.sound (h : db.Fresh) : db.Sound := by
  intro spec hspec
  obtain ⟨t, htable, hfresh⟩ := h spec hspec
  exact ⟨t, htable, hfresh.sound⟩

theorem Fresh.typed (h : db.Fresh) : db.Typed := by
  intro spec hspec
  obtain ⟨t, htable, hfresh⟩ := h spec hspec
  exact ⟨t, htable, hfresh.typed⟩

/-- What the migrations make: a table of themselves, and the four tables without rows. -/
def migrated : Database where
  tables := ⟨[
    ("schema_migrations",
      { Table.blank "schema_migrations" "version"
          [("name", .text), ("applied_at_unix", .integer)] [] with
        counter := none
        rows := .ofList [(1, [.text "term_store", .integer 0]),
          (2, [.text "term_indexes", .integer 0])] }),
    ("wbt_term_in_lang",
      Table.blank "wbt_term_in_lang" "wbtl_id"
        [("wbtl_type_id", .integer), ("wbtl_text_in_lang_id", .integer)]
        [⟨"wbt_term_in_lang_text_in_lang_id_type_id",
            ["wbtl_text_in_lang_id", "wbtl_type_id"], true⟩,
          ⟨"wbt_term_in_lang_type_id", ["wbtl_type_id"], false⟩]),
    ("wbt_text",
      Table.blank "wbt_text" "wbx_id" [("wbx_text", .text)]
        [⟨"wbt_text_text", ["wbx_text"], true⟩]),
    ("wbt_text_in_lang",
      Table.blank "wbt_text_in_lang" "wbxl_id"
        [("wbxl_language", .text), ("wbxl_text_id", .integer)]
        [⟨"wbt_text_in_lang_text_id_language", ["wbxl_text_id", "wbxl_language"], true⟩,
          ⟨"wbt_text_in_lang_language", ["wbxl_language"], false⟩]),
    ("wbt_type",
      Table.blank "wbt_type" "wby_id" [("wby_name", .text)]
        [⟨"wbt_type_name", ["wby_name"], true⟩])], by decide⟩
  readOnly := false

/-- A database without tables is brought to the current schema. -/
theorem migrate_empty : Database.empty.migrate.database = migrated := by rfl

/-- The migrations make the four tables. -/
theorem fresh_migrated : migrated.Fresh := by
  have hfresh : ∀ {spec t} {positions : List Nat}, migrated.table spec.name = .ok t →
      foldName t.name = foldName spec.name → t.Laid positions spec → t.rows = .empty →
      t.counter = some 0 → ∃ t, migrated.table spec.name = .ok t ∧ t.Fresh spec := by
    intro spec t positions htable hnamed hlaid hrows hcounter
    refine ⟨t, htable, ⟨hnamed, hlaid.keeps, fun _ _ _ x hx => ?_⟩, hrows, hcounter⟩
    rw [hrows] at hx
    cases hx
  intro spec hspec
  simp only [TableSpec.all, List.mem_cons, List.not_mem_nil, or_false] at hspec
  -- the columns of the last two tables are in another order than in their specifications
  rcases hspec with rfl | rfl | rfl | rfl
  · exact hfresh rfl rfl (by decide : Table.Laid [0] _ _) rfl rfl
  · exact hfresh rfl rfl (by decide : Table.Laid [0] _ _) rfl rfl
  · exact hfresh rfl rfl (by decide : Table.Laid [1, 0] _ _) rfl rfl
  · exact hfresh rfl rfl (by decide : Table.Laid [1, 0] _ _) rfl rfl

/-- A migrated database with some records in its tables; those that cannot be inserted are left
out. -/
def stocked (contents : List (TableSpec × List Record)) : Database :=
  contents.foldl (fun db entry =>
    match db.insertIgnoring entry.1 entry.2 with
    | .ok (_, stocked) => stocked
    | .error _ => db) migrated

/-- Records that their tables take are kept in order. -/
theorem sound_typed_stocked {contents : List (TableSpec × List Record)}
    (h : ∀ entry ∈ contents, entry.1 ∈ TableSpec.all ∧ ∀ record ∈ entry.2, entry.1.Takes record) :
    (stocked contents).Sound ∧ (stocked contents).Typed := by
  unfold stocked
  refine List.foldlRecOn (motive := fun db : Database => db.Sound ∧ db.Typed) contents _
    ⟨fresh_migrated.sound, fresh_migrated.typed⟩ fun db hdb entry hentry => ?_
  obtain ⟨hspec, htakes⟩ := h entry hentry
  split
  · next hinsert =>
    have hgains := hdb.1.gains hspec htakes hinsert
    exact ⟨hgains.sound hdb.1 hspec, hgains.typed hspec htakes hdb.2⟩
  · exact hdb

end Database

end TermStore.Storage
