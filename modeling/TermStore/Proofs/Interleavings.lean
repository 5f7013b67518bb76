import TermStore.Proofs.JsonDocuments

/-!
# Texts added in any order of slots

A text that is added changes its own slot only. So each slot sees, of a whole sequence of texts,
those that are for it, and two sequences that differ only in how the texts of different slots
interleave lead to the same document, whatever document they start from.

In one slot the order counts. Aliases gather behind what is there, also behind a single text that
was read; of labels and descriptions the last one stays, also in place of a list that was read.
-/

namespace TermStore

/-! ### Sequences of terms -/

namespace Term

variable {terms others : List Term}

theorem SameSlots.mem_iff (h : SameSlots terms others) {term : Term} :
    term ∈ terms ↔ term ∈ others := by
  rw [mem_iff_text_mem, h, ← mem_iff_text_mem]

/-- Only the slots that occur need to be compared. -/
theorem sameSlots_iff : SameSlots terms others ↔ ∀ term ∈ terms ++ others,
    (terms.filter (isOf term.kind term.language)).map Term.text =
      (others.filter (isOf term.kind term.language)).map Term.text := by
  constructor
  · exact fun h term _ => h term.kind term.language
  · intro h kind language
    by_cases hslot : ∃ term ∈ terms ++ others, isOf kind language term = true
    · obtain ⟨term, hmem, hof⟩ := hslot
      obtain ⟨rfl, rfl⟩ := isOf_iff.1 hof
      exact h term hmem
    · have hnone : ∀ term ∈ terms ++ others, ¬ isOf kind language term = true :=
        fun term hmem hof => hslot ⟨term, hmem, hof⟩
      rw [List.filter_eq_nil_iff.2 fun term hmem => hnone term (List.mem_append_left _ hmem),
        List.filter_eq_nil_iff.2 fun term hmem => hnone term (List.mem_append_right _ hmem)]

instance : Decidable (SameSlots terms others) := decidable_of_iff _ sameSlots_iff.symm

end Term

theorem TermKind.holdsMany_eq_false_iff {kind : TermKind} :
    kind.holdsMany = false ↔ kind ≠ .aliases := by
  cases kind <;> decide

namespace Document

variable {d : Document} {terms others : List Term} {kind other : TermKind}

/-! ### One text -/

/-- A document became another one by a text: every other slot is as it was, aliases have the text
behind all those they had, and a label or description is the text alone. -/
structure AddsText (d e : Document) (kind : TermKind) (language text : String) : Prop where
  elsewhere : ∀ other wanted, (other, wanted) ≠ (kind, language) →
    e.get? other wanted = d.get? other wanted
  gathers : kind = .aliases →
    e.get? kind language = some (.several (d.textsAt kind language ++ [text]))
  replaces : kind ≠ .aliases → e.get? kind language = some (.single text)

theorem addsText_insert (d : Document) (kind : TermKind) (language text : String) :
    AddsText d (d.insert kind language text) kind language text where
  elsewhere other wanted hne := by
    rw [get?_insert, if_neg fun hslot => hne (Prod.ext hslot.1 hslot.2)]
  gathers hkind := by
    subst hkind
    rw [get?_insert, if_pos ⟨rfl, rfl⟩]
    rfl
  replaces hkind := by
    rw [get?_insert, if_pos ⟨rfl, rfl⟩, added, TermKind.holdsMany_eq_false_iff.2 hkind]
    rfl

/-- A kind is mentioned once a text of it is added. -/
theorem mem_kinds_insert (d : Document) (kind : TermKind) (language text : String) :
    other ∈ (d.insert kind language text).kinds ↔ other = kind ∨ other ∈ d.kinds := by
  rw [mem_kinds_iff, mem_kinds_iff, insert]
  by_cases hkind : other = kind
  · subst hkind
    rw [texts?_setTexts_self]
    exact iff_of_true ⟨_, rfl⟩ (Or.inl rfl)
  · rw [texts?_setTexts_of_ne d hkind]
    exact (or_iff_right hkind).symm

/-! ### Sequences of texts -/

/-- The document with the texts of some terms added, one after the other. -/
def insertAll (d : Document) (terms : List Term) : Document :=
  terms.foldl (fun d term => d.insert term.kind term.language term.text) d

theorem mem_kinds_insertAll (d : Document) (terms : List Term) :
    kind ∈ (d.insertAll terms).kinds ↔ (∃ term ∈ terms, term.kind = kind) ∨ kind ∈ d.kinds := by
  induction terms generalizing d with
  | nil => simp [insertAll]
  | cons term rest ih =>
      rw [insertAll, List.foldl_cons, ← insertAll, ih, mem_kinds_insert, List.exists_mem_cons_iff,
        or_assoc, or_left_comm, eq_comm (a := kind)]

/-- Aliases gather all texts of their slot, in the order in which they come. -/
theorem textsAt_insertAll_aliases (d : Document) (terms : List Term) (language : String) :
    (d.insertAll terms).textsAt .aliases language = d.textsAt .aliases language ++
      (terms.filter (Term.isOf .aliases language)).map Term.text := by
  rw [textsAt, insertAll, get?_foldl_insert]
  cases (terms.filter (Term.isOf .aliases language)).map Term.text with
  | nil => exact (List.append_nil _).symm
  | cons text rest =>
      rw [foldl_added_many rfl (List.cons_ne_nil text rest)]
      rfl

/-- The last text of its slot is the label or description, if there is one. -/
theorem get?_insertAll_of_ne (hkind : kind ≠ .aliases) (d : Document) (terms : List Term)
    (language : String) : (d.insertAll terms).get? kind language =
      (((terms.filter (Term.isOf kind language)).map Term.text).getLast?.map .single).or
        (d.get? kind language) := by
  rw [insertAll, get?_foldl_insert, foldl_added_last (TermKind.holdsMany_eq_false_iff.2 hkind)]

/-- Sequences with the same texts for each slot lead to the same document. -/
theorem insertAll_congr (h : Term.SameSlots terms others) (d : Document) :
    d.insertAll terms = d.insertAll others := by
  refine ext_slots (fun kind => ?_) fun kind language => ?_
  · rw [mem_kinds_insertAll, mem_kinds_insertAll]
    simp only [h.mem_iff]
  · rw [insertAll, insertAll, get?_foldl_insert, get?_foldl_insert, h]

/-- Texts are added to different slots independently: two sequences that have the same texts for
each slot, in the same order, lead from any document to the same one. Each text changes its own
slot only; aliases have in the end all texts that they had and that came, and a label or
description is the last one that came. The terms of the document, counted by `termCount`, come by
kind, then by the bytes of their language, and are in each slot its texts. -/
theorem insertAll_independent (d : Document) (h : Term.SameSlots terms others) :
    d.insertAll terms = d.insertAll others ∧
    (∀ before kind language text,
      AddsText before (before.insert kind language text) kind language text) ∧
    (∀ language, (d.insertAll terms).textsAt .aliases language =
      d.textsAt .aliases language ++
        (terms.filter (Term.isOf .aliases language)).map Term.text) ∧
    (∀ kind language, kind ≠ .aliases → (d.insertAll terms).get? kind language =
      (((terms.filter (Term.isOf kind language)).map Term.text).getLast?.map .single).or
        (d.get? kind language)) ∧
    (d.insertAll terms).terms.Pairwise Term.BytesBefore ∧
    (∀ kind language, ((d.insertAll terms).terms.filter (Term.isOf kind language)).map Term.text =
      (d.insertAll terms).textsAt kind language) ∧
    (d.insertAll terms).termCount = (d.insertAll terms).terms.length := by
  refine ⟨insertAll_congr h d, addsText_insert, textsAt_insertAll_aliases d terms,
    fun kind language hkind => ?_, pairwise_bytesBefore _, filter_terms _, rfl⟩
  exact get?_insertAll_of_ne hkind d terms language

/-- A list of labels, and an alias that is not in a list. -/
def readCityText : String :=
  "\x7b\"label\": \x7b\"en\": [\"Athens\", \"Athen\"]\x7d, \"alias\": \x7b\"en\": \"Athina\"\x7d\x7d"

/-- The document of that text. -/
def readCity : Document :=
  ⟨some (SortedMap.empty.put "en" (.several ["Athens", "Athen"])), none,
    some (SortedMap.empty.put "en" (.single "Athina"))⟩

/-- Labels, then aliases. -/
def labelsFirst : List Term :=
  [⟨.label, "en", "Athenai"⟩, ⟨.label, "en", "Athens"⟩, ⟨.label, "de", "Athen"⟩,
    ⟨.aliases, "en", "Athinai"⟩, ⟨.aliases, "en", "Athenae"⟩]

/-- The same texts for each slot, in turn. -/
def interleaved : List Term :=
  [⟨.aliases, "en", "Athinai"⟩, ⟨.label, "en", "Athenai"⟩, ⟨.label, "de", "Athen"⟩,
    ⟨.aliases, "en", "Athenae"⟩, ⟨.label, "en", "Athens"⟩]

/-- The list of labels that was read gives way to the last label, and the single alias stays as the
first one. -/
theorem insertAll_independent_readCity :
    ofText readCityText = .ok readCity ∧
      Term.SameSlots labelsFirst interleaved ∧
      readCity.insertAll labelsFirst = readCity.insertAll interleaved ∧
      (readCity.insertAll labelsFirst).textsAt .aliases "en" = ["Athina", "Athinai", "Athenae"] ∧
      (readCity.insertAll labelsFirst).get? .label "en" = some (.single "Athens") := by
  have hsame : Term.SameSlots labelsFirst interleaved := by
    decide +kernel
  obtain ⟨heq, -, haliases, hlabels, -⟩ := insertAll_independent readCity hsame
  refine ⟨by decide +kernel, hsame, heq, ?_, ?_⟩
  · rw [haliases]
    decide +kernel
  · rw [hlabels .label "en" (by decide)]
    decide +kernel

end Document

end TermStore
