import TermStore.Proofs.Maps
import TermStore.Term.Document

/-!
# Documents slot by slot

A document is told by the kinds that it mentions and by what its slots hold, and its terms are those
of its slots: they come by kind, then by language, and those of one slot in the order in which it
holds them. Adding a text changes one slot only, so a document that is made from a list of terms
(`Document.ofTerms`) holds in each slot what the terms of that slot make of it, and mentions no kind
without a term. A text that is cut twice is cut once.
-/

namespace TermStore

/-! ### Texts that are cut -/

namespace Text

/-- What was cut is not cut any shorter. -/
@[simp] theorem truncate_truncate (limit : Nat) (text : String) :
    truncate limit (truncate limit text) = truncate limit text := by
  unfold truncate
  rw [String.toList_ofList, fitting_fitting, Nat.min_self]

end Text

/-- A term is of one slot. -/
def Term.isOf (kind : TermKind) (language : String) (term : Term) : Bool :=
  term.kind == kind && term.language == language

@[simp] theorem Term.isOf_iff {kind : TermKind} {language : String} {term : Term} :
    Term.isOf kind language term = true ↔ term.kind = kind ∧ term.language = language := by
  simp [Term.isOf]

/-- A term is there exactly when its text is among those of its slot. -/
theorem Term.mem_iff_text_mem {terms : List Term} {term : Term} :
    term ∈ terms ↔
      term.text ∈ (terms.filter (Term.isOf term.kind term.language)).map Term.text := by
  rw [List.mem_map]
  constructor
  · intro hmem
    exact ⟨term, List.mem_filter.2 ⟨hmem, Term.isOf_iff.2 ⟨rfl, rfl⟩⟩, rfl⟩
  · rintro ⟨found, hfound, htext⟩
    obtain ⟨hmem, hslot⟩ := List.mem_filter.1 hfound
    obtain ⟨hkind, hlanguage⟩ := Term.isOf_iff.1 hslot
    have hsame : found = term := by
      cases found
      cases term
      simp_all
    exact hsame ▸ hmem

/-- Two sequences of terms have the same texts for each slot, in the same order. How the texts of
different slots interleave is left open. -/
def Term.SameSlots (terms others : List Term) : Prop :=
  ∀ kind language, (terms.filter (Term.isOf kind language)).map Term.text =
    (others.filter (Term.isOf kind language)).map Term.text

/-- The order of kinds, and of languages within a kind. -/
def Term.Before (first second : Term) : Prop :=
  first.kind.rank < second.kind.rank ∨
    first.kind = second.kind ∧ (first.language < second.language ∨
      first.language = second.language)

namespace Document

variable {d : Document} {kind other : TermKind} {language : String} {limit : Nat}

/-- The texts in a slot, as a list. -/
def textsAt (d : Document) (kind : TermKind) (language : String) : List String :=
  ((d.get? kind language).map Texts.toList).getD []

/-! ### The terms of the slots -/

theorem filter_entries {entries : List (String × Texts)}
    (hascending : entries.Pairwise fun a b => a.1 < b.1) :
    ((entries.flatMap fun slot => slot.2.toList.map fun text =>
        (⟨kind, slot.1, text⟩ : Term)).filter (Term.isOf kind language)).map Term.text =
      ((SortedMap.find? language entries).map Texts.toList).getD [] := by
  have hslot : ∀ (own : String) (texts : List String),
      ((texts.map fun text => (⟨kind, own, text⟩ : Term)).filter
        (Term.isOf kind language)).map Term.text = if language = own then texts else [] := by
    intro own texts
    by_cases hown : language = own
    · subst hown
      rw [if_pos rfl, List.filter_eq_self.2, List.map_map]
      · exact List.map_id _
      · intro term hmem
        obtain ⟨text, -, rfl⟩ := List.mem_map.1 hmem
        exact Term.isOf_iff.2 ⟨rfl, rfl⟩
    · rw [if_neg hown, List.filter_eq_nil_iff.2]
      · rfl
      · intro term hmem hslot
        obtain ⟨text, -, rfl⟩ := List.mem_map.1 hmem
        exact hown (Term.isOf_iff.1 hslot).2.symm
  induction entries with
  | nil => rfl
  | cons head rest ih =>
      obtain ⟨hhead, hrest⟩ := List.pairwise_cons.1 hascending
      rw [List.flatMap_cons, List.filter_append, List.map_append, hslot, ih hrest,
        SortedMap.find?]
      by_cases hlanguage : language = head.1
      · -- later slots are of larger languages
        have hnone : SortedMap.find? language rest = none := by
          rw [Option.eq_none_iff_forall_ne_some]
          intro texts hfind
          have hlt := hhead _ ((SortedMap.find?_eq_some_iff hrest).1 hfind)
          rw [hlanguage] at hlt
          exact absurd hlt (Std.lt_irrefl)
        rw [if_pos hlanguage, if_pos hlanguage, hnone]
        exact List.append_nil _
      · rw [if_neg hlanguage, if_neg hlanguage]
        rfl

/-- The terms of a slot are its texts, in their order. -/
theorem filter_terms (d : Document) (kind : TermKind) (language : String) :
    (d.terms.filter (Term.isOf kind language)).map Term.text = d.textsAt kind language := by
  have hkind : ∀ own, ((((d.texts? own).map (termsOf own)).getD []).filter
      (Term.isOf kind language)).map Term.text =
        if own = kind then d.textsAt kind language else [] := by
    intro own
    by_cases hown : own = kind
    · subst hown
      rw [if_pos rfl]
      unfold textsAt get?
      cases d.texts? own with
      | none => rfl
      | some texts => exact filter_entries texts.ascending
    · rw [if_neg hown]
      cases d.texts? own with
      | none => rfl
      | some texts =>
          rw [List.filter_eq_nil_iff.2]
          · rfl
          · intro term hmem
            obtain ⟨slot, -, hmem⟩ := List.mem_flatMap.1 hmem
            obtain ⟨text, -, rfl⟩ := List.mem_map.1 hmem
            exact fun h => hown (Term.isOf_iff.1 h).1
  unfold terms TermKind.all
  simp only [List.flatMap_cons, List.flatMap_nil, List.filter_append, List.map_append, hkind]
  cases kind <;> simp

/-- The terms are those of the slots. -/
theorem mem_terms_iff {term : Term} :
    term ∈ d.terms ↔ term.text ∈ d.textsAt term.kind term.language := by
  rw [Term.mem_iff_text_mem, filter_terms]

/-- Terms come by kind, then by language. -/
theorem pairwise_terms (d : Document) : d.terms.Pairwise Term.Before := by
  have hslot : ∀ (kind : TermKind) (language : String) (texts : List String),
      (texts.map fun text => (⟨kind, language, text⟩ : Term)).Pairwise Term.Before := by
    intro kind language texts
    exact List.pairwise_map.2 (List.pairwise_of_forall fun _ _ => Or.inr ⟨rfl, Or.inr rfl⟩)
  have hkind : ∀ kind, (((d.texts? kind).map (termsOf kind)).getD []).Pairwise Term.Before := by
    intro kind
    cases d.texts? kind with
    | none => exact List.Pairwise.nil
    | some texts =>
        refine List.pairwise_flatMap.2 ⟨fun slot _ => hslot kind slot.1 slot.2.toList, ?_⟩
        refine texts.ascending.imp fun hlanguage first hfirst second hsecond => ?_
        obtain ⟨_, -, rfl⟩ := List.mem_map.1 hfirst
        obtain ⟨_, -, rfl⟩ := List.mem_map.1 hsecond
        exact Or.inr ⟨rfl, Or.inl hlanguage⟩
  have hof : ∀ kind, ∀ term ∈ ((d.texts? kind).map (termsOf kind)).getD [], term.kind = kind := by
    intro kind term hmem
    cases htexts : d.texts? kind with
    | none =>
        rw [htexts] at hmem
        cases hmem
    | some texts =>
        rw [htexts] at hmem
        obtain ⟨slot, -, hmem⟩ := List.mem_flatMap.1 hmem
        obtain ⟨_, -, rfl⟩ := List.mem_map.1 hmem
        rfl
  have hranks : TermKind.all.Pairwise fun a b => a.rank < b.rank := by decide
  refine List.pairwise_flatMap.2 ⟨fun kind _ => hkind kind, ?_⟩
  refine hranks.imp fun hrank first hfirst second hsecond => Or.inl ?_
  rw [hof _ first hfirst, hof _ second hsecond]
  exact hrank

theorem filter_truncatedTerms (d : Document) (limit : Nat) (kind : TermKind) (language : String) :
    ((d.truncatedTerms limit).filter (Term.isOf kind language)).map Term.text =
      (d.textsAt kind language).map (Text.truncate limit) := by
  unfold truncatedTerms
  rw [← filter_terms, List.filter_map, List.map_map, List.map_map]
  rfl

theorem pairwise_truncatedTerms (d : Document) (limit : Nat) :
    (d.truncatedTerms limit).Pairwise Term.Before :=
  List.pairwise_map.2 d.pairwise_terms

theorem mem_truncatedTerms_iff {term : Term} :
    term ∈ d.truncatedTerms limit ↔
      ∃ text ∈ d.textsAt term.kind term.language, term.text = Text.truncate limit text := by
  unfold truncatedTerms
  rw [List.mem_map]
  constructor
  · rintro ⟨whole, hmem, rfl⟩
    exact ⟨whole.text, mem_terms_iff.1 hmem, rfl⟩
  · rintro ⟨text, hmem, htext⟩
    refine ⟨⟨term.kind, term.language, text⟩, mem_terms_iff.2 hmem, ?_⟩
    rw [← htext]

/-! ### Documents made from terms -/

/-- The document of some terms, added one after the other. -/
def ofTerms (terms : List Term) : Document :=
  terms.foldl (fun d term => d.insert term.kind term.language term.text) .empty

@[simp] theorem get?_empty (kind : TermKind) (language : String) :
    empty.get? kind language = none := by
  cases kind <;> rfl

theorem get?_insert (d : Document) (kind other : TermKind) (language wanted text : String) :
    (d.insert kind language text).get? other wanted =
      if other = kind ∧ wanted = language then some (added kind (d.get? kind language) text)
      else d.get? other wanted := by
  unfold insert
  by_cases hkind : other = kind
  · subst hkind
    have hget : ∀ wanted, d.get? other wanted = ((d.texts? other).getD .empty).get? wanted := by
      intro wanted
      unfold get?
      cases d.texts? other <;> rfl
    rw [hget, hget, get?, texts?_setTexts_self, Option.bind_some, SortedMap.get?_put]
    by_cases hwanted : wanted = language
    · rw [if_pos hwanted, if_pos ⟨rfl, hwanted⟩]
    · rw [if_neg hwanted, if_neg fun h => hwanted h.2]
  · rw [if_neg fun h => hkind h.1, get?, texts?_setTexts_of_ne d hkind]
    rfl

/-- Adding terms changes a slot by what the terms of that slot add to it. -/
theorem get?_foldl_insert (terms : List Term) (d : Document) (kind : TermKind) (language : String) :
    (terms.foldl (fun d term => d.insert term.kind term.language term.text) d).get? kind language =
      ((terms.filter (Term.isOf kind language)).map Term.text).foldl
        (fun present text => some (added kind present text)) (d.get? kind language) := by
  induction terms generalizing d with
  | nil => rfl
  | cons term rest ih =>
      rw [List.foldl_cons, ih, get?_insert]
      by_cases hslot : kind = term.kind ∧ language = term.language
      · obtain ⟨rfl, rfl⟩ := hslot
        rw [if_pos ⟨rfl, rfl⟩, List.filter_cons_of_pos (Term.isOf_iff.2 ⟨rfl, rfl⟩)]
        rfl
      · have hnot : ¬ Term.isOf kind language term = true := by
          rw [Term.isOf_iff]
          exact fun h => hslot ⟨h.1.symm, h.2.symm⟩
        rw [if_neg hslot, List.filter_cons_of_neg hnot]

/-- What a slot holds that some texts came to. -/
def gathered (kind : TermKind) : List String → Option Texts
  | [] => none
  | text :: rest => some (if kind.holdsMany then .several (text :: rest) else .single text)

theorem holdsMany_or_eq_nil {text : String} {rest : List String}
    (hone : kind.holdsMany = false → (text :: rest).length ≤ 1) :
    kind.holdsMany = true ∨ kind.holdsMany = false ∧ rest = [] := by
  cases hmany : kind.holdsMany with
  | true => exact Or.inl rfl
  | false =>
      have hlength := hone hmany
      rw [List.length_cons] at hlength
      exact Or.inr ⟨rfl, List.eq_nil_of_length_eq_zero (by omega)⟩

/-- Aliases gather the texts that come to them, behind those that are there. -/
theorem foldl_added_many (hmany : kind.holdsMany = true) {texts : List String} (hne : texts ≠ [])
    (present : Option Texts) :
    texts.foldl (fun present text => some (added kind present text)) present =
      some (.several ((present.map Texts.toList).getD [] ++ texts)) := by
  induction texts generalizing present with
  | nil => exact absurd rfl hne
  | cons text rest ih =>
      rw [List.foldl_cons, added, if_pos hmany]
      cases rest with
      | nil => rfl
      | cons next behind =>
          rw [ih (List.cons_ne_nil next behind), Option.map_some, Option.getD_some, Texts.toList,
            List.append_assoc]
          rfl

/-- Of labels and descriptions the last one stays. -/
theorem foldl_added_last (hkind : kind.holdsMany = false) (texts : List String)
    (present : Option Texts) :
    texts.foldl (fun present text => some (added kind present text)) present =
      (texts.getLast?.map .single).or present := by
  rcases List.eq_nil_or_concat texts with rfl | ⟨front, last, rfl⟩
  · rfl
  · rw [List.concat_eq_append, List.foldl_append, List.getLast?_concat]
    simp [added, hkind]

/-- Aliases gather, and a slot of another kind holds its one text. -/
theorem foldl_added {texts : List String} (hone : kind.holdsMany = false → texts.length ≤ 1) :
    texts.foldl (fun present text => some (added kind present text)) none =
      gathered kind texts := by
  cases texts with
  | nil => rfl
  | cons text rest =>
      rw [gathered]
      rcases holdsMany_or_eq_nil hone with hmany | ⟨hsingle, rfl⟩
      · rw [foldl_added_many hmany (List.cons_ne_nil text rest), if_pos hmany]
        rfl
      · rw [foldl_added_last hsingle, hsingle]
        rfl

/-- A slot of a document made from terms holds what the terms of the slot come to. -/
theorem get?_ofTerms {terms : List Term} (hone : kind.holdsMany = false →
      (terms.filter (Term.isOf kind language)).length ≤ 1) :
    (ofTerms terms).get? kind language =
      gathered kind ((terms.filter (Term.isOf kind language)).map Term.text) := by
  unfold ofTerms
  rw [get?_foldl_insert, get?_empty]
  exact foldl_added fun hkind => by
    rw [List.length_map]
    exact hone hkind

theorem toList_gathered {texts : List String} (hone : kind.holdsMany = false → texts.length ≤ 1) :
    ((gathered kind texts).map Texts.toList).getD [] = texts := by
  cases texts with
  | nil => rfl
  | cons text rest =>
      rw [gathered]
      rcases holdsMany_or_eq_nil hone with hmany | ⟨hsingle, rfl⟩
      · rw [if_pos hmany]
        rfl
      · rw [hsingle]
        rfl

/-! ### Documents with the same slots -/

/-- The kinds of a document are those that it mentions. -/
theorem mem_kinds_iff : kind ∈ d.kinds ↔ ∃ texts, d.texts? kind = some texts := by
  have hall : kind ∈ TermKind.all := by
    cases kind <;> decide
  rw [kinds, List.mem_filter, Option.isSome_iff_exists]
  exact and_iff_right hall

/-- A document is told by the kinds that it mentions and by what its slots hold. -/
theorem ext_slots {e : Document} (hkinds : ∀ kind, kind ∈ d.kinds ↔ kind ∈ e.kinds)
    (hslots : ∀ kind language, d.get? kind language = e.get? kind language) : d = e := by
  refine ext_texts fun kind => ?_
  have hmentions := hkinds kind
  have hheld := hslots kind
  rw [mem_kinds_iff, mem_kinds_iff] at hmentions
  unfold get? at hheld
  cases hkind : d.texts? kind with
  | none =>
      cases hother : e.texts? kind with
      | none => rfl
      | some others =>
          obtain ⟨texts, htexts⟩ := hmentions.2 ⟨others, hother⟩
          cases hkind.symm.trans htexts
  | some texts =>
      obtain ⟨others, hothers⟩ := hmentions.1 ⟨texts, hkind⟩
      rw [hkind, hothers] at hheld
      rw [hothers, Option.some.injEq]
      exact SortedMap.ext_get? hheld

/-- A kind that is mentioned has a text. -/
def Compact (d : Document) : Prop :=
  ∀ kind texts, d.texts? kind = some texts → texts.entries ≠ []

theorem Compact.insert (h : d.Compact) (kind : TermKind) (language text : String) :
    (d.insert kind language text).Compact := by
  intro other texts htexts hempty
  unfold Document.insert at htexts
  by_cases hkind : other = kind
  · subst hkind
    rw [texts?_setTexts_self, Option.some.injEq] at htexts
    have hmem := SortedMap.mem_entries_iff.2 (SortedMap.get?_put_self
      ((d.texts? other).getD .empty) language
      (added other (((d.texts? other).getD .empty).get? language) text))
    rw [htexts, hempty] at hmem
    cases hmem
  · rw [texts?_setTexts_of_ne d hkind] at htexts
    exact h other texts htexts hempty

theorem compact_empty : empty.Compact := by
  intro kind texts htexts
  cases kind <;> cases htexts

theorem compact_ofTerms (terms : List Term) : (ofTerms terms).Compact := by
  refine List.foldlRecOn (motive := Compact) terms _ compact_empty fun d hd term _ => ?_
  exact hd.insert term.kind term.language term.text

/-- A compact document mentions the kinds of its slots. -/
theorem Compact.mem_kinds_iff (h : d.Compact) :
    kind ∈ d.kinds ↔ ∃ language held, d.get? kind language = some held := by
  rw [Document.mem_kinds_iff]
  unfold get?
  constructor
  · rintro ⟨texts, htexts⟩
    obtain ⟨⟨language, held⟩, hslot⟩ := List.exists_mem_of_ne_nil _ (h kind texts htexts)
    refine ⟨language, held, ?_⟩
    rw [htexts, Option.bind_some]
    exact SortedMap.mem_entries_iff.1 hslot
  · rintro ⟨language, held, hheld⟩
    obtain ⟨texts, htexts, -⟩ := Option.bind_eq_some_iff.1 hheld
    exact ⟨texts, htexts⟩

/-- Compact documents whose slots hold the same are the same. -/
theorem Compact.ext {e : Document} (hd : d.Compact) (he : e.Compact)
    (h : ∀ kind language, d.get? kind language = e.get? kind language) : d = e := by
  refine ext_slots (fun kind => ?_) h
  rw [hd.mem_kinds_iff, he.mem_kinds_iff]
  simp only [h]

/-! ### Slots left out -/

/-- The slots of a kind whose languages are kept, if there are any. -/
def keptSlots (keep : String → Bool) (texts : Option LanguageMap) : Option LanguageMap :=
  texts.bind fun texts =>
    if (texts.filter fun slot => keep slot.1).entries.isEmpty then none
    else some (texts.filter fun slot => keep slot.1)

/-- The document with some of its slots only. Kinds of which no slot is left are not mentioned. -/
def restrict (d : Document) (keeps : TermKind → String → Bool) : Document :=
  ⟨keptSlots (keeps .label) d.label, keptSlots (keeps .description) d.description,
    keptSlots (keeps .aliases) d.aliases⟩

variable {keeps : TermKind → String → Bool}

theorem texts?_restrict (d : Document) (keeps : TermKind → String → Bool) (kind : TermKind) :
    (d.restrict keeps).texts? kind = keptSlots (keeps kind) (d.texts? kind) := by
  cases kind <;> rfl

theorem compact_restrict (d : Document) (keeps : TermKind → String → Bool) :
    (d.restrict keeps).Compact := by
  intro kind texts htexts hempty
  rw [texts?_restrict] at htexts
  obtain ⟨all, -, hkept⟩ := Option.bind_eq_some_iff.1 htexts
  split at hkept
  · cases hkept
  · next hsome =>
    obtain rfl := Option.some.inj hkept
    exact hsome (List.isEmpty_iff.2 hempty)

/-- The slots that are left hold what they held. -/
theorem get?_restrict (d : Document) (keeps : TermKind → String → Bool) (kind : TermKind)
    (language : String) : (d.restrict keeps).get? kind language =
      if keeps kind language = true then d.get? kind language else none := by
  unfold get?
  rw [texts?_restrict]
  cases d.texts? kind with
  | none => simp [keptSlots]
  | some texts =>
      have hfilter : (texts.filter fun slot => keeps kind slot.1).get? language =
          if keeps kind language = true then texts.get? language else none := by
        ext held
        rw [SortedMap.get?_filter_eq_some]
        split
        · next hkeep => exact and_iff_left hkeep
        · next hkeep =>
          exact ⟨fun h => absurd h.2 hkeep, fun h => absurd h.symm (Option.some_ne_none held)⟩
      rw [keptSlots, Option.bind_some, Option.bind_some, ← hfilter]
      split
      · next hempty =>
        rw [Option.bind_none, SortedMap.get?, List.isEmpty_iff.1 hempty]
        rfl
      · rfl

/-- To leave out the terms of some slots is to leave out the slots. -/
theorem ofTerms_filter (terms : List Term) (keeps : TermKind → String → Bool) :
    ofTerms (terms.filter fun term => keeps term.kind term.language) =
      (ofTerms terms).restrict keeps := by
  refine (compact_ofTerms _).ext (compact_restrict _ _) fun kind language => ?_
  have hslot : (terms.filter fun term => keeps term.kind term.language).filter
      (Term.isOf kind language) =
        if keeps kind language = true then terms.filter (Term.isOf kind language) else [] := by
    rw [List.filter_filter]
    split
    · next hkeep =>
      refine List.filter_congr fun term _ => ?_
      cases hof : Term.isOf kind language term with
      | false => rfl
      | true =>
          obtain ⟨rfl, rfl⟩ := Term.isOf_iff.1 hof
          rw [hkeep]
          rfl
    · next hkeep =>
      refine List.filter_eq_nil_iff.2 fun term _ hterm => ?_
      obtain ⟨hof, hkept⟩ := Bool.and_eq_true_iff.1 hterm
      obtain ⟨rfl, rfl⟩ := Term.isOf_iff.1 hof
      exact hkeep hkept
  rw [get?_restrict]
  unfold ofTerms
  rw [get?_foldl_insert, get?_foldl_insert, hslot, get?_empty]
  split
  · rfl
  · rfl

end Document

end TermStore
