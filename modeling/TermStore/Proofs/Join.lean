import TermStore.Storage.Chain
import TermStore.Proofs.Schema

/-!
# What the join of the three tables finds

Chains are read by one statement that joins the three tables. Where the rows that the wanted ids
lead over hold records, as far as they are there (`Database.Clear`), the join does not fail, and it
finds for an id exactly the term to which the id leads. What other rows hold does not matter.
-/

namespace TermStore.Storage

/-! ### Names in a join -/

namespace Table

variable {t : Table} {spec : TableSpec} {affinities : List Affinity}

/-- A table has no slots but those of its specification. -/
theorem Keeps.slot?_eq_none (h : t.Keeps spec affinities) {name : String}
    (hname : ∀ own ∈ spec.idColumn :: spec.columns, sameName name own = false) :
    t.slot? name = none := by
  have hother : ∀ {own shown : String}, own ∈ spec.idColumn :: spec.columns →
      sameName own shown = true → sameName name shown = false := by
    intro own shown hown hshown
    rw [Bool.eq_false_iff]
    intro hsame
    have := sameName_trans hsame (sameName_symm hshown)
    rw [hname own hown] at this
    cases this
  have hkey : t.key.any (sameName name) = false := by
    have hnumbered := h.numbered
    unfold slot? at hnumbered
    split at hnumbered
    · next hany =>
      cases hk : t.key with
      | none => rfl
      | some shown =>
          rw [hk] at hany
          exact hother List.mem_cons_self hany
    · obtain ⟨index, -, hindex⟩ := Option.map_eq_some_iff.1 hnumbered
      cases hindex
  unfold slot?
  rw [hkey, if_neg (by decide), Option.map_eq_none_iff, List.findIdx?_eq_none_iff]
  intro column hcolumn
  obtain ⟨own, hown, hsame⟩ := h.covered column hcolumn
  exact hother (List.mem_cons_of_mem _ hown) hsame

theorem value_of_slot? {name : String} {slot : Slot} (h : t.slot? name = some slot) (row : Row) :
    slot.value row = (t.operand name).value row := by
  rw [operand_of_slot? h]
  rfl

end Table

/-! ### Choices of rows -/

section Choices

variable {a b c : Table} {name : String} {slot : Slot}

/-- A name that only one of three tables knows is not ambiguous in their join, and means its slot in
that table. -/
theorem slot_first (ha : a.slot? name = some slot) (hb : b.slot? name = none)
    (hc : c.slot? name = none) : Joined.slot [a, b, c] name = .ok ⟨0, slot⟩ := by
  simp [Joined.slot, Joined.slots, List.zipIdx, ha, hb, hc]

theorem slot_second (ha : a.slot? name = none) (hb : b.slot? name = some slot)
    (hc : c.slot? name = none) : Joined.slot [a, b, c] name = .ok ⟨1, slot⟩ := by
  simp [Joined.slot, Joined.slots, List.zipIdx, ha, hb, hc]

theorem slot_third (ha : a.slot? name = none) (hb : b.slot? name = none)
    (hc : c.slot? name = some slot) : Joined.slot [a, b, c] name = .ok ⟨2, slot⟩ := by
  simp [Joined.slot, Joined.slots, List.zipIdx, ha, hb, hc]

/-- The choices of one row each from three tables, with a condition on the first row, one on the
first two, and one on all three. -/
theorem mem_chooseRows {first second third : JoinCondition} (hfirst : first.reach = 1)
    (hsecond : second.reach = 2) (hthird : third.reach = 3) {rows : List Row} :
    rows ∈ chooseRows [first, second, third] [] [a, b, c] ↔
      ∃ x ∈ a.rows.entries, ∃ y ∈ b.rows.entries, ∃ z ∈ c.rows.entries, rows = [x, y, z] ∧
        first.holds [x] = true ∧ second.holds [x, y] = true ∧ third.holds [x, y, z] = true := by
  simp only [chooseRows, List.nil_append, List.length_cons, List.length_nil, Nat.zero_add, ne_eq,
    decide_not, List.all_cons, hfirst, decide_true, Bool.not_true, Bool.false_or, hsecond,
    Nat.succ_ne_self, decide_false, Bool.not_false, Bool.true_or, hthird, Nat.reduceEqDiff,
    List.all_nil, Bool.and_self, Bool.and_true, List.cons_append, Nat.reduceAdd, Bool.true_and,
    List.mem_flatMap, List.mem_ite_nil_right, List.mem_cons, List.not_mem_nil, or_false]
  constructor
  · rintro ⟨x, hx, hholds, y, hy, hholds', z, hz, hholds'', hrows⟩
    exact ⟨x, hx, y, hy, z, hz, hrows, hholds, hholds', hholds''⟩
  · rintro ⟨x, hx, y, hy, z, hz, hrows, hholds, hholds', hholds''⟩
    exact ⟨x, hx, hholds, y, hy, hholds', z, hz, hholds'', hrows⟩

end Choices

/-! ### Records of the three tables -/

theorem Cell.affinity_eq_integer_iff {cell : Cell} :
    cell.affinity = .integer ↔ ∃ value, cell = .integer value := by
  cases cell <;> simp [affinity]

theorem Cell.affinity_eq_text_iff {cell : Cell} :
    cell.affinity = .text ↔ ∃ value, cell = .text value := by
  cases cell <;> simp [affinity]

namespace TableSpec

/-- What a table takes has as many cells as the table has columns, each of the column's type; so the
records of the three tables can be told by their cells. -/
theorem exists_of_takes_texts {record : Record} (h : texts.Takes record) :
    ∃ text, record = [.text text] := by
  have hmap : record.map Cell.affinity = [Affinity.text] := h
  obtain ⟨cell, rest, rfl, hcell, hrest⟩ := List.map_eq_cons_iff.1 hmap
  obtain rfl := List.map_eq_nil_iff.1 hrest
  obtain ⟨text, rfl⟩ := Cell.affinity_eq_text_iff.1 hcell
  exact ⟨text, rfl⟩

theorem exists_of_takes_textsInLanguage {record : Record} (h : textsInLanguage.Takes record) :
    ∃ textId language, record = [.integer textId, .text language] := by
  have hmap : record.map Cell.affinity = [Affinity.integer, .text] := h
  obtain ⟨cell, rest, rfl, hcell, hrest⟩ := List.map_eq_cons_iff.1 hmap
  obtain ⟨cell', rest', rfl, hcell', hrest'⟩ := List.map_eq_cons_iff.1 hrest
  obtain rfl := List.map_eq_nil_iff.1 hrest'
  obtain ⟨textId, rfl⟩ := Cell.affinity_eq_integer_iff.1 hcell
  obtain ⟨language, rfl⟩ := Cell.affinity_eq_text_iff.1 hcell'
  exact ⟨textId, language, rfl⟩

theorem exists_of_takes_termsInLanguage {record : Record} (h : termsInLanguage.Takes record) :
    ∃ middleId kindId, record = [.integer middleId, .integer kindId] := by
  have hmap : record.map Cell.affinity = [Affinity.integer, .integer] := h
  obtain ⟨cell, rest, rfl, hcell, hrest⟩ := List.map_eq_cons_iff.1 hmap
  obtain ⟨cell', rest', rfl, hcell', hrest'⟩ := List.map_eq_cons_iff.1 hrest
  obtain rfl := List.map_eq_nil_iff.1 hrest'
  obtain ⟨middleId, rfl⟩ := Cell.affinity_eq_integer_iff.1 hcell
  obtain ⟨kindId, rfl⟩ := Cell.affinity_eq_integer_iff.1 hcell'
  exact ⟨middleId, kindId, rfl⟩

end TableSpec

namespace Database

variable {db : Database} {t : Table} {spec : TableSpec} {id : Int}

/-- The row of an id holds a record, if there is one. -/
def Held (db : Database) (spec : TableSpec) (id : Int) : Prop :=
  ∀ t values, db.table spec.name = .ok t → t.rows.get? id = some values →
    ∃ record, spec.Takes record ∧ db.Has spec id record

/-- The rows that an id leads over hold records, as far as they are there. -/
structure Clear (db : Database) (id : Int) : Prop where
  term : db.Held .termsInLanguage id
  middle : ∀ middleId kindId, db.Has .termsInLanguage id [.integer middleId, .integer kindId] →
    db.Held .textsInLanguage middleId
  text : ∀ middleId kindId textId language,
    db.Has .termsInLanguage id [.integer middleId, .integer kindId] →
    db.Has .textsInLanguage middleId [.integer textId, .text language] → db.Held .texts textId

/-- Where every row holds a record, that of an id does, and all that it leads over. -/
theorem Typed.held (h : db.Typed) (hspec : spec ∈ TableSpec.all) (id : Int) : db.Held spec id := by
  intro t values htable hget
  obtain ⟨record, htakes, hcells⟩ := h.of_table hspec htable id values hget
  exact ⟨record, htakes, t, htable, values, hget, hcells⟩

theorem Typed.clear (h : db.Typed) (id : Int) : db.Clear id where
  term := h.held TableSpec.mem_all_termsInLanguage id
  middle middleId _ _ := h.held TableSpec.mem_all_textsInLanguage middleId
  text _ _ textId _ _ _ := h.held TableSpec.mem_all_texts textId

theorem Held.of_mem (h : db.Held spec id) (htable : db.table spec.name = .ok t) {row : Row}
    (hrow : row ∈ t.rows.entries) (hid : row.1 = id) :
    ∃ record, spec.Takes record ∧ db.Has spec id record :=
  h t row.2 htable (hid ▸ SortedMap.mem_entries_iff.1 hrow)

theorem row_eq_of_fst {x y : Row} (hx : x ∈ t.rows.entries) (hy : y ∈ t.rows.entries)
    (h : x.1 = y.1) : x = y := by
  have hget := SortedMap.mem_entries_iff.1 hx
  rw [h, SortedMap.mem_entries_iff.1 hy] at hget
  exact Prod.ext h (Option.some.inj hget).symm

/-- What the row of an id shows in a column of a record that it holds. -/
theorem exists_row_of_has (htable : db.table spec.name = .ok t) {record : Record}
    (hhas : db.Has spec id record) : ∃ row ∈ t.rows.entries, row.1 = id ∧
      ∀ (i : Nat) (name : String) (slot : Slot) (cell : Cell), spec.columns[i]? = some name →
        t.slot? name = some slot → record[i]? = some cell → slot.value row = cell.toValue := by
  obtain ⟨t', htable', values, hget, hcells⟩ := hhas
  obtain rfl := Except.ok.inj (htable.symm.trans htable')
  refine ⟨(id, values), SortedMap.mem_entries_iff.2 hget, rfl, ?_⟩
  intro i name slot cell hname hslot hcell
  have hi := congrArg (fun cells : Values => cells[i]?) hcells
  simp only [Table.cells, List.getElem?_map, hname, hcell, Option.map_some,
    Option.some.injEq] at hi
  rw [Table.value_of_slot? hslot]
  exact hi

/-! ### The three tables -/

/-- The three tables that are joined, with the slots of the columns that the statement names. -/
structure JoinedTables (db : Database) where
  terms : Table
  inLanguage : Table
  texts : Table
  (middle kind text language content : Slot)
  termsTable : db.table TableSpec.termsInLanguage.name = .ok terms
  inLanguageTable : db.table TableSpec.textsInLanguage.name = .ok inLanguage
  textsTable : db.table TableSpec.texts.name = .ok texts
  termsKeeps : terms.Keeps .termsInLanguage TableSpec.termsInLanguage.affinities
  inLanguageKeeps : inLanguage.Keeps .textsInLanguage TableSpec.textsInLanguage.affinities
  textsKeeps : texts.Keeps .texts TableSpec.texts.affinities
  middleSlot : terms.slot? "wbtl_text_in_lang_id" = some middle
  kindSlot : terms.slot? "wbtl_type_id" = some kind
  textSlot : inLanguage.slot? "wbxl_text_id" = some text
  languageSlot : inLanguage.slot? "wbxl_language" = some language
  contentSlot : texts.slot? "wbx_text" = some content

/-- A sound database has the three tables, with the columns that the statement names. -/
theorem Sound.exists_joinedTables (h : db.Sound) : Nonempty (JoinedTables db) := by
  obtain ⟨terms, hterms, hsoundTerms⟩ := h _ TableSpec.mem_all_termsInLanguage
  obtain ⟨inLanguage, hinLanguage, hsoundInLanguage⟩ := h _ TableSpec.mem_all_textsInLanguage
  obtain ⟨texts, htexts, hsoundTexts⟩ := h _ TableSpec.mem_all_texts
  obtain ⟨_, hmiddle⟩ := hsoundTerms.keeps.stored "wbtl_text_in_lang_id" (by decide)
  obtain ⟨_, hkind⟩ := hsoundTerms.keeps.stored "wbtl_type_id" (by decide)
  obtain ⟨_, htext⟩ := hsoundInLanguage.keeps.stored "wbxl_text_id" (by decide)
  obtain ⟨_, hlanguage⟩ := hsoundInLanguage.keeps.stored "wbxl_language" (by decide)
  obtain ⟨_, hcontent⟩ := hsoundTexts.keeps.stored "wbx_text" (by decide)
  exact ⟨⟨terms, inLanguage, texts, _, _, _, _, _, hterms, hinLanguage, htexts, hsoundTerms.keeps,
    hsoundInLanguage.keeps, hsoundTexts.keeps, hmiddle, hkind, htext, hlanguage, hcontent⟩⟩

namespace JoinedTables

variable (j : JoinedTables db)

/-- The tables in the order of the join. -/
def tables : Joined := [j.terms, j.inLanguage, j.texts]

theorem mapM_table : ["wbt_term_in_lang", "wbt_text_in_lang", "wbt_text"].mapM db.table =
    .ok j.tables :=
  mapM_eq_ok_iff.2 (.cons j.termsTable (.cons j.inLanguageTable (.cons j.textsTable .nil)))

/-- A name of the first table means its slot there. -/
theorem slot_terms {name : String} {slot : Slot} (h : j.terms.slot? name = some slot)
    (hother : ∀ own ∈ ["wbxl_id", "wbxl_text_id", "wbxl_language", "wbx_id", "wbx_text"],
      sameName name own = false) : j.tables.slot name = .ok ⟨0, slot⟩ := by
  refine slot_first h (j.inLanguageKeeps.slot?_eq_none fun own hown => hother own ?_)
    (j.textsKeeps.slot?_eq_none fun own hown => hother own ?_)
  · exact List.mem_append_left ["wbx_id", "wbx_text"] hown
  · exact List.mem_append_right ["wbxl_id", "wbxl_text_id", "wbxl_language"] hown

theorem slot_inLanguage {name : String} {slot : Slot} (h : j.inLanguage.slot? name = some slot)
    (hother : ∀ own ∈ ["wbtl_id", "wbtl_text_in_lang_id", "wbtl_type_id", "wbx_id", "wbx_text"],
      sameName name own = false) : j.tables.slot name = .ok ⟨1, slot⟩ := by
  refine slot_second (j.termsKeeps.slot?_eq_none fun own hown => hother own ?_) h
    (j.textsKeeps.slot?_eq_none fun own hown => hother own ?_)
  · exact List.mem_append_left ["wbx_id", "wbx_text"] hown
  · exact List.mem_append_right ["wbtl_id", "wbtl_text_in_lang_id", "wbtl_type_id"] hown

theorem slot_texts {name : String} {slot : Slot} (h : j.texts.slot? name = some slot)
    (hother : ∀ own ∈ ["wbtl_id", "wbtl_text_in_lang_id", "wbtl_type_id", "wbxl_id",
      "wbxl_text_id", "wbxl_language"], sameName name own = false) :
    j.tables.slot name = .ok ⟨2, slot⟩ := by
  refine slot_third (j.termsKeeps.slot?_eq_none fun own hown => hother own ?_)
    (j.inLanguageKeeps.slot?_eq_none fun own hown => hother own ?_) h
  · exact List.mem_append_left ["wbxl_id", "wbxl_text_id", "wbxl_language"] hown
  · exact List.mem_append_right ["wbtl_id", "wbtl_text_in_lang_id", "wbtl_type_id"] hown

/-- The rows that the statement chooses. -/
def choices (ids : List Int) : List (List Row) :=
  chooseRows
    [.among j.tables ⟨0, .number⟩ ids, .equal j.tables ⟨0, j.middle⟩ ⟨1, .number⟩,
      .equal j.tables ⟨1, j.text⟩ ⟨2, .number⟩] [] j.tables

/-- What the statement reads of chosen rows. -/
def readChoice (rows : List Row) : Except Fault (Int × Chain) := do
  let title := fun slot => (j.tables.operand slot).title
  let found ← Table.readInt 0 (title ⟨0, .number⟩) (JoinedSlot.value ⟨0, .number⟩ rows)
  let kindId ← Table.readInt 1 (title ⟨0, j.kind⟩) (JoinedSlot.value ⟨0, j.kind⟩ rows)
  let language ← readText 2 (title ⟨1, j.language⟩) (JoinedSlot.value ⟨1, j.language⟩ rows)
  let text ← readText 3 (title ⟨2, j.content⟩) (JoinedSlot.value ⟨2, j.content⟩ rows)
  return (found, ⟨kindId, language, text⟩)

/-- For a sound database the statement finds all its names, so it comes to reading the rows that are
chosen. -/
theorem chainChunk_eq (ids : List Int) : db.chainChunk ids = (j.choices ids).mapM j.readChoice := by
  have hid := j.slot_terms j.termsKeeps.numbered (by decide)
  have hkind := j.slot_terms j.kindSlot (by decide)
  have hmiddle := j.slot_terms j.middleSlot (by decide)
  have hlanguage := j.slot_inLanguage j.languageSlot (by decide)
  have htext := j.slot_inLanguage j.textSlot (by decide)
  have hinLanguageId := j.slot_inLanguage j.inLanguageKeeps.numbered (by decide)
  have hcontent := j.slot_texts j.contentSlot (by decide)
  have htextId := j.slot_texts j.textsKeeps.numbered (by decide)
  unfold chainChunk
  -- the statement names the columns as they are written here
  have hid : j.tables.slot "wbtl_id" = _ := hid
  have hinLanguageId : j.tables.slot "wbxl_id" = _ := hinLanguageId
  have htextId : j.tables.slot "wbx_id" = _ := htextId
  simp only [j.mapM_table, bind, Except.bind, selected, hid, hkind, hmiddle, hlanguage, htext,
    hinLanguageId, hcontent, htextId]
  rfl

/-! ### Chosen rows -/

/-- Wanted ids are compared with row numbers, as whole numbers. -/
theorem holds_among {ids : List Int} {x : Row} :
    (JoinCondition.among j.tables ⟨0, .number⟩ ids).holds [x] = true ↔ x.1 ∈ ids := by
  show (ids.any fun id => (Value.integer x.1).agrees (.integer id)) = true ↔ _
  simp only [List.any_eq_true, Value.agrees_integer, decide_eq_true_eq]
  constructor
  · rintro ⟨id, hid, rfl⟩
    exact hid
  · intro hid
    exact ⟨x.1, hid, rfl⟩

/-- Whole numbers join when they are equal, whatever the column's type. -/
theorem joins_integer (affinity : Affinity) (x y : Int) :
    joins affinity (.integer x) .integer (.integer y) = true ↔ x = y := by
  simp only [joins, or_true, if_true, adopt_integer_integer, Value.agrees_integer,
    decide_eq_true_eq]

theorem holds_middle {x y : Row} {middleId : Int} (h : j.middle.value x = .integer middleId) :
    (JoinCondition.equal j.tables ⟨0, j.middle⟩ ⟨1, .number⟩).holds [x, y] = true ↔
      middleId = y.1 := by
  show joins _ (j.middle.value x) .integer (.integer y.1) = true ↔ _
  rw [h, joins_integer]

theorem holds_text {x y z : Row} {textId : Int} (h : j.text.value y = .integer textId) :
    (JoinCondition.equal j.tables ⟨1, j.text⟩ ⟨2, .number⟩).holds [x, y, z] = true ↔
      textId = z.1 := by
  show joins _ (j.text.value y) .integer (.integer z.1) = true ↔ _
  rw [h, joins_integer]

/-- The rows that are chosen, one of each table. -/
theorem mem_choices {ids : List Int} {rows : List Row} : rows ∈ j.choices ids ↔
    ∃ x ∈ j.terms.rows.entries, ∃ y ∈ j.inLanguage.rows.entries, ∃ z ∈ j.texts.rows.entries,
      rows = [x, y, z] ∧ x.1 ∈ ids ∧
      (JoinCondition.equal j.tables ⟨0, j.middle⟩ ⟨1, .number⟩).holds [x, y] = true ∧
      (JoinCondition.equal j.tables ⟨1, j.text⟩ ⟨2, .number⟩).holds [x, y, z] = true := by
  have hamong : ∀ x : Row, (JoinCondition.among [j.terms, j.inLanguage, j.texts]
      ⟨0, .number⟩ ids).holds [x] = true ↔ x.1 ∈ ids := fun x => j.holds_among
  rw [choices, tables, mem_chooseRows rfl rfl rfl]
  simp only [hamong]

/-- The rows of an id are chosen whatever other ids are wanted. -/
theorem mem_choices_iff {ids : List Int} {rows : List Row} :
    rows ∈ j.choices ids ↔ ∃ id ∈ ids, rows ∈ j.choices [id] := by
  simp only [mem_choices, List.mem_singleton]
  constructor
  · rintro ⟨x, hx, y, hy, z, hz, hrows, hid, hmiddle, htext⟩
    exact ⟨x.1, hid, x, hx, y, hy, z, hz, hrows, rfl, hmiddle, htext⟩
  · rintro ⟨_, hid, x, hx, y, hy, z, hz, hrows, rfl, hmiddle, htext⟩
    exact ⟨x, hx, y, hy, z, hz, hrows, hid, hmiddle, htext⟩

/-- Whatever a column holds, it joins one number at most. -/
theorem eq_of_joins {affinity : Affinity} {value : Value} {n m : Int}
    (h : joins affinity value .integer (.integer n) = true)
    (h' : joins affinity value .integer (.integer m) = true) : n = m := by
  simp only [joins, or_true, if_true, adopt_integer_integer] at h h'
  cases hadopt : Affinity.integer.adopt value with
  | null => simp [hadopt] at h
  | text => simp [hadopt, Value.agrees] at h
  | blob => simp [hadopt, Value.agrees] at h
  | integer own =>
      simp only [hadopt, Value.agrees_integer, decide_eq_true_eq] at h h'
      rw [← h, ← h']
  | real own =>
      simp only [hadopt, Value.agrees, beq_iff_eq] at h h'
      exact Option.some.inj (h.symm.trans h')

/-- One id leads over one row of each table at most. -/
theorem choices_unique {id : Int} {rows other : List Row} (h : rows ∈ j.choices [id])
    (h' : other ∈ j.choices [id]) : rows = other := by
  obtain ⟨x, hx, y, hy, z, hz, rfl, hid, hmiddle, htext⟩ := j.mem_choices.1 h
  obtain ⟨x', hx', y', hy', z', hz', rfl, hid', hmiddle', htext'⟩ := j.mem_choices.1 h'
  -- one row of the wanted id, hence one that it joins, hence one that this joins
  obtain rfl := row_eq_of_fst hx hx' ((List.mem_singleton.1 hid).trans
    (List.mem_singleton.1 hid').symm)
  obtain rfl := row_eq_of_fst hy hy' (eq_of_joins hmiddle hmiddle')
  obtain rfl := row_eq_of_fst hz hz' (eq_of_joins htext htext')
  rfl

/-- Rows of an id are read as a chain of the id. -/
theorem fst_of_readChoice {id found : Int} {rows : List Row} {chain : Chain}
    (h : rows ∈ j.choices [id]) (hread : j.readChoice rows = .ok (found, chain)) : found = id := by
  obtain ⟨x, -, y, -, z, -, rfl, hid, -, -⟩ := j.mem_choices.1 h
  obtain ⟨number, hnumber, hread⟩ := bind_eq_ok_iff.1 hread
  obtain ⟨kindId, -, hread⟩ := bind_eq_ok_iff.1 hread
  obtain ⟨language, -, hread⟩ := bind_eq_ok_iff.1 hread
  obtain ⟨text, -, hread⟩ := bind_eq_ok_iff.1 hread
  obtain ⟨rfl, -⟩ := Prod.mk.inj (Except.ok.inj hread)
  rw [← List.mem_singleton.1 hid]
  exact (Except.ok.inj hnumber).symm

/-- The join reads each id as if it were alone. -/
theorem readsEach_chains : ReadsEach db.chains
    (fun id => ∀ rows ∈ j.choices [id], ∃ entry, j.readChoice rows = .ok entry)
    (fun id chain => ∃ rows ∈ j.choices [id], j.readChoice rows = .ok (id, chain)) := by
  -- ids are read by the chunk; within a chunk the rows are chosen for each id as if it were alone
  refine readsEach_chunked (by decide : 0 < chunkSize) (fun ids => ?_) (fun hrows id chain => ?_) ?_
  · rw [j.chainChunk_eq]
    constructor
    · rintro ⟨found, hfound⟩ id hid rows hrows
      obtain ⟨entry, -, hread⟩ := exists_of_mapM_eq_ok hfound (j.mem_choices_iff.2 ⟨id, hid, hrows⟩)
      exact ⟨entry, hread⟩
    · intro hreadable
      refine exists_mapM_eq_ok fun rows hrows => ?_
      obtain ⟨id, hid, hrows⟩ := j.mem_choices_iff.1 hrows
      exact hreadable id hid rows hrows
  · rw [j.chainChunk_eq] at hrows
    constructor
    · intro hentry
      obtain ⟨rows, hchosen, hread⟩ := mem_of_mapM_eq_ok hrows hentry
      obtain ⟨own, hid, hchosen⟩ := j.mem_choices_iff.1 hchosen
      obtain rfl := j.fst_of_readChoice hchosen hread
      exact ⟨hid, rows, hchosen, hread⟩
    · rintro ⟨hid, rows, hchosen, hread⟩
      obtain ⟨entry, hentry, hread'⟩ := exists_of_mapM_eq_ok hrows
        (j.mem_choices_iff.2 ⟨id, hid, hchosen⟩)
      exact Except.ok.inj (hread.symm.trans hread') ▸ hentry
  · rintro id chain other ⟨rows, hrows, hread⟩ ⟨rows', hrows', hread'⟩
    rw [j.choices_unique hrows' hrows, hread] at hread'
    exact (Prod.mk.inj (Except.ok.inj hread')).2

/-- Rows that hold their records are read without a fault. -/
theorem readChoice_eq {x y z : Row} {kindId : Int} {language text : String}
    (hkind : j.kind.value x = .integer kindId) (hlanguage : j.language.value y = .text language)
    (htext : j.content.value z = .text text) :
    j.readChoice [x, y, z] = .ok (x.1, ⟨kindId, language, text⟩) := by
  have hkind : JoinedSlot.value ⟨0, j.kind⟩ [x, y, z] = _ := hkind
  have hlanguage : JoinedSlot.value ⟨1, j.language⟩ [x, y, z] = _ := hlanguage
  have htext : JoinedSlot.value ⟨2, j.content⟩ [x, y, z] = _ := htext
  unfold readChoice
  rw [hkind, hlanguage, htext]
  rfl

variable {id : Int}

/-- A record that has a row shows its cells in the slots of the join. -/
theorem exists_term_row {middleId kindId : Int}
    (h : db.Has .termsInLanguage id [.integer middleId, .integer kindId]) :
    ∃ x ∈ j.terms.rows.entries, x.1 = id ∧ j.middle.value x = .integer middleId ∧
      j.kind.value x = .integer kindId := by
  obtain ⟨x, hx, hid, hshows⟩ := exists_row_of_has j.termsTable h
  exact ⟨x, hx, hid, hshows 0 _ _ _ rfl j.middleSlot rfl, hshows 1 _ _ _ rfl j.kindSlot rfl⟩

theorem exists_middle_row {textId : Int} {language : String}
    (h : db.Has .textsInLanguage id [.integer textId, .text language]) :
    ∃ y ∈ j.inLanguage.rows.entries, y.1 = id ∧ j.text.value y = .integer textId ∧
      j.language.value y = .text language := by
  obtain ⟨y, hy, hid, hshows⟩ := exists_row_of_has j.inLanguageTable h
  exact ⟨y, hy, hid, hshows 0 _ _ _ rfl j.textSlot rfl, hshows 1 _ _ _ rfl j.languageSlot rfl⟩

theorem exists_text_row {text : String} (h : db.Has .texts id [.text text]) :
    ∃ z ∈ j.texts.rows.entries, z.1 = id ∧ j.content.value z = .text text := by
  obtain ⟨z, hz, hid, hshows⟩ := exists_row_of_has j.textsTable h
  exact ⟨z, hz, hid, hshows 0 _ _ _ rfl j.contentSlot rfl⟩

/-- What is chosen are rows that a wanted id leads over, and they read as its term. -/
theorem exists_of_mem_choices {ids : List Int} (hclear : ∀ id ∈ ids, db.Clear id)
    {rows : List Row} (hrows : rows ∈ j.choices ids) : ∃ id ∈ ids, ∃ kindId language text,
      db.LeadsTo id kindId language text ∧
        j.readChoice rows = .ok (id, ⟨kindId, language, text⟩) := by
  obtain ⟨x, hx, y, hy, z, hz, rfl, hid, hmiddle, htext⟩ := j.mem_choices.1 hrows
  -- down the chain: the row of a wanted id holds a record, which tells the next row, and so on
  obtain ⟨record, htakes, hterm⟩ := (hclear _ hid).term.of_mem j.termsTable hx rfl
  obtain ⟨middleId, kindId, rfl⟩ := TableSpec.exists_of_takes_termsInLanguage htakes
  obtain ⟨x', hx', hsame, hshowsMiddle, hshowsKind⟩ := j.exists_term_row hterm
  obtain rfl := row_eq_of_fst hx' hx hsame
  obtain rfl := (j.holds_middle hshowsMiddle).1 hmiddle
  obtain ⟨record, htakes, hinLanguage⟩ :=
    ((hclear _ hid).middle _ _ hterm).of_mem j.inLanguageTable hy rfl
  obtain ⟨textId, language, rfl⟩ := TableSpec.exists_of_takes_textsInLanguage htakes
  obtain ⟨y', hy', hsame, hshowsText, hshowsLanguage⟩ := j.exists_middle_row hinLanguage
  obtain rfl := row_eq_of_fst hy' hy hsame
  obtain rfl := (j.holds_text hshowsText).1 htext
  obtain ⟨record, htakes, hcontent⟩ :=
    ((hclear _ hid).text _ _ _ _ hterm hinLanguage).of_mem j.textsTable hz rfl
  obtain ⟨text, rfl⟩ := TableSpec.exists_of_takes_texts htakes
  obtain ⟨z', hz', hsame, hshowsContent⟩ := j.exists_text_row hcontent
  obtain rfl := row_eq_of_fst hz' hz hsame
  exact ⟨x'.1, hid, kindId, language, text, ⟨y'.1, z'.1, hterm, hinLanguage, hcontent⟩,
    j.readChoice_eq hshowsKind hshowsLanguage hshowsContent⟩

/-- The rows that a wanted id leads over are chosen. -/
theorem exists_choice {ids : List Int} (hid : id ∈ ids) {kindId : Int} {language text : String}
    (hleads : db.LeadsTo id kindId language text) :
    ∃ rows ∈ j.choices ids, j.readChoice rows = .ok (id, ⟨kindId, language, text⟩) := by
  obtain ⟨middleId, textId, hterm, hinLanguage, hcontent⟩ := hleads
  obtain ⟨x, hx, rfl, hshowsMiddle, hshowsKind⟩ := j.exists_term_row hterm
  obtain ⟨y, hy, rfl, hshowsText, hshowsLanguage⟩ := j.exists_middle_row hinLanguage
  obtain ⟨z, hz, rfl, hshowsContent⟩ := j.exists_text_row hcontent
  refine ⟨[x, y, z], ?_, j.readChoice_eq hshowsKind hshowsLanguage hshowsContent⟩
  exact j.mem_choices.2 ⟨x, hx, y, hy, z, hz, rfl, hid, (j.holds_middle hshowsMiddle).2 rfl,
    (j.holds_text hshowsText).2 rfl⟩

end JoinedTables

/-! ### What chains are found -/

/-- Where the rows that the wanted ids lead over hold records, the join goes through, and finds for
each of them the term that it leads to. -/
theorem exists_chains_of_clear (hsound : db.Sound) {ids : List Int}
    (hclear : ∀ id ∈ ids, db.Clear id) :
    ∃ found, db.chains ids = .ok found ∧ ∀ id chain, found.get? id = some chain ↔
      id ∈ ids ∧ db.LeadsTo id chain.kindId chain.language chain.text := by
  obtain ⟨j⟩ := hsound.exists_joinedTables
  have hchoice : ∀ id ∈ ids, ∀ rows ∈ j.choices [id], ∃ kindId language text,
      db.LeadsTo id kindId language text ∧
        j.readChoice rows = .ok (id, ⟨kindId, language, text⟩) := by
    intro id hid rows hrows
    obtain ⟨own, hown, hchoice⟩ := j.exists_of_mem_choices
      (fun _ hmem => List.mem_singleton.1 hmem ▸ hclear id hid) hrows
    exact List.mem_singleton.1 hown ▸ hchoice
  obtain ⟨found, hfound⟩ := (j.readsEach_chains.ok_iff ids).2 fun id hid rows hrows => by
    obtain ⟨_, _, _, -, hread⟩ := hchoice id hid rows hrows
    exact ⟨_, hread⟩
  refine ⟨found, hfound, fun id chain => ?_⟩
  rw [j.readsEach_chains.get?_iff hfound]
  refine and_congr_right fun hid => ⟨?_, fun hleads => ?_⟩
  · rintro ⟨rows, hrows, hread⟩
    obtain ⟨kindId, language, text, hleads, hread'⟩ := hchoice id hid rows hrows
    obtain ⟨-, rfl⟩ := Prod.mk.inj (Except.ok.inj (hread.symm.trans hread'))
    exact hleads
  · exact j.exists_choice (List.mem_singleton_self id) hleads

/-- Where every row holds a record, the join goes through for all ids. -/
theorem exists_chains (hsound : db.Sound) (htyped : db.Typed) (ids : List Int) :
    ∃ found, db.chains ids = .ok found ∧ ∀ id chain, found.get? id = some chain ↔
      id ∈ ids ∧ db.LeadsTo id chain.kindId chain.language chain.text :=
  exists_chains_of_clear hsound fun id _ => htyped.clear id

/-- Where every row holds a record, each id is read as the term that it leads to. -/
theorem Typed.readsEach_chains (htyped : db.Typed) (hsound : db.Sound) :
    ReadsEach db.chains (fun _ => True)
      (fun id chain => db.LeadsTo id chain.kindId chain.language chain.text) where
  ok_iff ids := by
    obtain ⟨found, hfound, -⟩ := exists_chains hsound htyped ids
    exact ⟨fun _ _ _ => trivial, fun _ => ⟨found, hfound⟩⟩
  get?_iff {ids found} hfound := by
    obtain ⟨found', hfound', hiff⟩ := exists_chains hsound htyped ids
    obtain rfl := Except.ok.inj (hfound.symm.trans hfound')
    exact hiff

/-- Whatever the rows hold, the join reads each id as if it were alone. -/
theorem Sound.exists_readsEach_chains (hsound : db.Sound) :
    ∃ readable reads, ReadsEach db.chains readable reads := by
  obtain ⟨j⟩ := hsound.exists_joinedTables
  exact ⟨_, _, j.readsEach_chains⟩

end Database

end TermStore.Storage
