import TermStore.SortedMap
import TermStore.Storage.Fault

/-!
# Records

A table of the store is deduplicated on all its columns but the id: the values of those columns
are a record, and each record has one id. A record is a list of cells in the order of the columns
of its `TableSpec`. Records have an order, cell by cell, integers before texts, so that the ids
found for some records can be kept in a sorted map.
-/

namespace TermStore.Storage

/-- One value of a record. -/
inductive Cell
  | integer (value : Int)
  | text (value : String)
  deriving DecidableEq, Repr

namespace Cell

/-- The value that stores the cell. -/
def toValue : Cell → Value
  | .integer value => .integer value
  | .text value => .text value

/-- The cell read from a stored value; bytes are read as text. -/
def ofValue (index : Nat) (column : String) : Value → Except Fault Cell
  | .integer value => .ok (.integer value)
  | .text value => .ok (.text value)
  | .blob bytes =>
    match Text.Utf8.decode bytes with
    | .ok value => .ok (.text value)
    | .error fault => .error (.notText index fault)
  | value => .error (.wrongKind value.kind index column)

/-- The order of cells: integers by value, then texts by their characters. -/
def before : Cell → Cell → Bool
  | .integer a, .integer b => decide (a < b)
  | .integer _, .text _ => true
  | .text _, .integer _ => false
  | .text a, .text b => decide (a < b)

instance : LT Cell := ⟨fun a b => before a b = true⟩

instance : LE Cell := ⟨fun a b => ¬ before b a = true⟩

instance : DecidableLT Cell := fun a b => inferInstanceAs (Decidable (before a b = true))

instance : DecidableLE Cell := fun a b => inferInstanceAs (Decidable (¬ before b a = true))

theorem lt_iff {a b : Cell} : a < b ↔ before a b = true := Iff.rfl

theorem before_asymm {a b : Cell} (h : before a b = true) : ¬ before b a = true := by
  cases a <;> cases b <;> simp only [before, decide_eq_true_eq, Bool.false_eq_true] at h ⊢
  · omega
  · exact not_false
  · exact String.lt_asymm h

theorem before_of_before_of_not {a b c : Cell} (h : before a b = true)
    (h' : ¬ before c b = true) : before a c = true := by
  cases a <;> cases b <;> cases c <;>
    simp only [before, decide_eq_true_eq, Bool.false_eq_true, not_true_eq_false] at h h' ⊢
  · omega
  · exact Std.lt_of_lt_of_le h (String.not_lt.1 h')

theorem eq_of_not_before {a b : Cell} (h : ¬ before a b = true) (h' : ¬ before b a = true) :
    a = b := by
  cases a <;> cases b <;>
    simp only [before, decide_eq_true_eq, Bool.false_eq_true, not_true_eq_false] at h h'
  · exact congrArg Cell.integer (by omega)
  · exact congrArg Cell.text (String.le_antisymm (String.not_lt.1 h') (String.not_lt.1 h))

instance : Std.IsLinearOrder Cell where
  le_refl a := fun h => before_asymm h h
  le_trans a b c hab hbc := fun h => hbc (before_of_before_of_not h hab)
  le_antisymm a b hab hba := eq_of_not_before hba hab
  le_total a b := by
    by_cases h : before b a = true
    · exact Or.inr (before_asymm h)
    · exact Or.inl h

instance : Std.LawfulOrderLT Cell where
  lt_iff a b := ⟨fun h => ⟨before_asymm h, fun hn => hn h⟩, fun h => by
    by_cases hb : before a b = true
    · exact hb
    · exact absurd hb h.2⟩

end Cell

/-- The values of one row apart from its id. Records are ordered cell by cell. -/
abbrev Record := List Cell

instance : Std.IsLinearOrder Record := List.instIsLinearOrder

instance : Std.LawfulOrderLT Record := List.instLawfulOrderLTOfAsymmLt

/-- The ids of some records. -/
abbrev RecordIds := SortedMap Record Int

/-- A table that is deduplicated on all of `columns` and keyed by `idColumn`. The order of `columns`
is that of the cells of a record; the table itself may have them in another one. -/
structure TableSpec where
  name : String
  idColumn : String
  columns : List String
  deriving DecidableEq, Repr

namespace TableSpec

/-- The names of the kinds of term. -/
def kinds : TableSpec := ⟨"wbt_type", "wby_id", ["wby_name"]⟩

/-- The texts of terms, without kind and language. -/
def texts : TableSpec := ⟨"wbt_text", "wbx_id", ["wbx_text"]⟩

/-- Texts, by id, in a language. -/
def textsInLanguage : TableSpec :=
  ⟨"wbt_text_in_lang", "wbxl_id", ["wbxl_text_id", "wbxl_language"]⟩

/-- Texts in a language, by id, as a kind of term. -/
def termsInLanguage : TableSpec :=
  ⟨"wbt_term_in_lang", "wbtl_id", ["wbtl_text_in_lang_id", "wbtl_type_id"]⟩

/-- The tables of a term store, from the ones that refer to nothing on. -/
def all : List TableSpec := [kinds, texts, textsInLanguage, termsInLanguage]

end TableSpec

end TermStore.Storage
