import TermStore.Proofs.JsonDocuments
import TermStore.Proofs.RoundTrip
import Mathlib.Logic.Relation

/-!
# One label and one description

Adding texts keeps labels and descriptions single: what a call touches holds one text after it. So
a document whose labels and descriptions hold one text each keeps that, whatever is added to it,
and the new document is one. A document that is read may hold a list in their place, and nothing of
it is refused or changed; which values are read to single ones is told by `SaysOne`.

Terms in canonical order are told by those of each slot. So the terms of a document make the same
terms again exactly when no label or description has several of them. Where one has several, only
the last distinct one is left of them when the document is acquired and resolved.
-/

namespace TermStore

open Json (Value IsText)
open Storage (Database)

/-! ### Terms in canonical order -/

theorem Term.Before.slot_eq {first second : Term} (h : first.Before second)
    (h' : second.Before first) :
    first.kind = second.kind ∧ first.language = second.language := by
  rcases h with hrank | ⟨hkind, hlanguage⟩
  · rcases h' with hrank' | ⟨hkind, -⟩
    · exact absurd hrank (Nat.lt_asymm hrank')
    · rw [hkind] at hrank
      exact absurd hrank (Nat.lt_irrefl _)
  · refine ⟨hkind, ?_⟩
    rcases h' with hrank | ⟨-, hlanguage'⟩
    · rw [hkind] at hrank
      exact absurd hrank (Nat.lt_irrefl _)
    · rcases hlanguage with hlt | heq
      · rcases hlanguage' with hlt' | heq
        · exact absurd hlt (String.lt_asymm hlt')
        · exact heq.symm
      · exact heq

/-- Terms in canonical order are told by those of each slot. -/
theorem Term.eq_of_filter_isOf_eq {terms others : List Term} (hterms : terms.Pairwise Term.Before)
    (hothers : others.Pairwise Term.Before)
    (h : ∀ kind language, terms.filter (Term.isOf kind language) =
      others.filter (Term.isOf kind language)) : terms = others := by
  induction terms generalizing others with
  | nil =>
      refine (List.eq_nil_iff_forall_not_mem.2 fun term hterm => ?_).symm
      have hslot := List.mem_filter.2 ⟨hterm, Term.isOf_iff.2 ⟨rfl, rfl⟩⟩
      rw [← h] at hslot
      cases hslot
  | cons term rest ih =>
      have hmem : ∀ other, other ∈ others → other ∈ term :: rest := by
        intro other hother
        have hslot := List.mem_filter.2 ⟨hother, Term.isOf_iff.2 ⟨rfl, rfl⟩⟩
        rw [← h] at hslot
        exact (List.mem_filter.1 hslot).1
      have hterm : term ∈ others := by
        have hslot := List.mem_filter.2
          ⟨List.mem_cons_self (a := term) (l := rest), Term.isOf_iff.2 ⟨rfl, rfl⟩⟩
        rw [h] at hslot
        exact (List.mem_filter.1 hslot).1
      cases others with
      | nil => cases hterm
      | cons other behind =>
          obtain ⟨hfirst, hrest⟩ := List.pairwise_cons.1 hterms
          obtain ⟨hfirst', hbehind⟩ := List.pairwise_cons.1 hothers
          have hsame : term = other := by
            rcases List.mem_cons.1 hterm with hsame | hbehind
            · exact hsame
            rcases List.mem_cons.1 (hmem other List.mem_cons_self) with hsame | hrest
            · exact hsame.symm
            -- each comes before the other one, so they are the first ones of one slot
            obtain ⟨hkind, hlanguage⟩ := (hfirst other hrest).slot_eq (hfirst' term hbehind)
            have hslot := h other.kind other.language
            rw [List.filter_cons_of_pos (Term.isOf_iff.2 ⟨hkind, hlanguage⟩),
              List.filter_cons_of_pos (Term.isOf_iff.2 ⟨rfl, rfl⟩)] at hslot
            exact (List.cons.inj hslot).1
          subst hsame
          refine congrArg (term :: ·) (ih hrest hbehind fun kind language => ?_)
          have hslot := h kind language
          by_cases hof : Term.isOf kind language term = true
          · rw [List.filter_cons_of_pos hof, List.filter_cons_of_pos hof] at hslot
            exact (List.cons.inj hslot).2
          · rw [List.filter_cons_of_neg hof, List.filter_cons_of_neg hof] at hslot
            exact hslot

/-- Terms in canonical order are told by the texts of each slot. -/
theorem Term.eq_of_slots_eq {terms others : List Term} (hterms : terms.Pairwise Term.Before)
    (hothers : others.Pairwise Term.Before) (h : Term.SameSlots terms others) :
    terms = others := by
  have hslot : ∀ (terms : List Term) kind language, terms.filter (Term.isOf kind language) =
      ((terms.filter (Term.isOf kind language)).map Term.text).map
        fun text => ⟨kind, language, text⟩ := by
    intro terms kind language
    rw [List.map_map]
    refine ((List.map_congr_left fun term hterm => ?_).trans (List.map_id _)).symm
    obtain ⟨rfl, rfl⟩ := Term.isOf_iff.1 (List.mem_filter.1 hterm).2
    rfl
  refine Term.eq_of_filter_isOf_eq hterms hothers fun kind language => ?_
  rw [hslot terms, hslot others, h]

namespace Document

variable {start d e : Document} {kind : TermKind} {language text : String} {value : Value}

/-! ### Adding texts -/

/-- One call that adds texts to a document. -/
inductive Adds : Document → Document → Prop
  | insert (d : Document) (kind : TermKind) (language text : String) :
      Adds d (d.insert kind language text)
  | withLabel (d : Document) (language text : String) : Adds d (d.withLabel language text)
  | withDescription (d : Document) (language text : String) :
      Adds d (d.withDescription language text)
  | withAliases (d : Document) (language : String) (texts : List String) :
      Adds d (d.withAliases language texts)

/-- What a document becomes when texts are added to it, by any calls. -/
def Becomes : Document → Document → Prop := Relation.ReflTransGen Adds

/-- Labels and descriptions hold one text each. -/
def HoldsOne (d : Document) : Prop :=
  ∀ kind language texts, kind.holdsMany = false → d.get? kind language = some texts →
    ∃ text, texts.toList = [text]

/-- Of a label or description a document keeps what another one has, or it holds one text of its
own. -/
def SlotStays (d e : Document) (kind : TermKind) (language : String) : Prop :=
  e.get? kind language = d.get? kind language ∨ ∃ text, e.get? kind language = some (.single text)

theorem slotStays_insert (hkind : kind.holdsMany = false) (d : Document) (other : TermKind)
    (wanted text : String) : SlotStays d (d.insert other wanted text) kind language := by
  unfold SlotStays
  rw [get?_insert]
  split
  · next hslot =>
    rw [added, ← hslot.1, hkind]
    exact Or.inr ⟨text, rfl⟩
  · exact Or.inl rfl

theorem SlotStays.trans {middle : Document} (h : SlotStays d middle kind language)
    (hlater : SlotStays middle e kind language) : SlotStays d e kind language := by
  rcases hlater with hsame | hsingle
  · unfold SlotStays
    rw [hsame]
    exact h
  · exact Or.inr hsingle

theorem slotStays_withAliases (hkind : kind.holdsMany = false) (wanted : String)
    (texts : List String) (d : Document) :
    SlotStays d (d.withAliases wanted texts) kind language := by
  induction texts generalizing d with
  | nil => exact Or.inl rfl
  | cons text rest ih => exact (slotStays_insert hkind d .aliases wanted text).trans (ih _)

theorem slotStays_of_adds (hkind : kind.holdsMany = false) (h : Adds d e) :
    SlotStays d e kind language := by
  cases h with
  | insert other wanted text => exact slotStays_insert hkind d other wanted text
  | withLabel wanted text => exact slotStays_insert hkind d .label wanted text
  | withDescription wanted text => exact slotStays_insert hkind d .description wanted text
  | withAliases wanted texts => exact slotStays_withAliases hkind wanted texts d

theorem slotStays_of_becomes (hkind : kind.holdsMany = false) (h : Becomes d e) :
    SlotStays d e kind language := by
  induction h with
  | refl => exact Or.inl rfl
  | tail _ hadds ih => exact ih.trans (slotStays_of_adds hkind hadds)

theorem holdsOne_empty : empty.HoldsOne := by
  intro kind language texts _ htexts
  cases kind <;> cases htexts

theorem HoldsOne.becomes (h : d.HoldsOne) (hlater : Becomes d e) : e.HoldsOne := by
  intro kind language texts hkind htexts
  rcases slotStays_of_becomes hkind hlater with hsame | ⟨text, hsingle⟩
  · rw [hsame] at htexts
    exact h kind language texts hkind htexts
  · rw [hsingle] at htexts
    rw [← Option.some.inj htexts]
    exact ⟨text, rfl⟩

theorem HoldsOne.single (h : d.HoldsOne) : d.Single := by
  intro kind language hkind
  unfold textsAt
  cases hslot : d.get? kind language with
  | none => exact Nat.zero_le 1
  | some texts =>
      obtain ⟨text, htext⟩ := h kind language texts hkind hslot
      simp [htext]

/-! ### Terms added again -/

theorem single_ofTerms (terms : List Term) : (ofTerms terms).Single := by
  refine List.foldlRecOn (motive := Single) terms _ single_empty fun d hd term _ => ?_
  exact hd.insert term.kind term.language term.text

theorem textsAt_ofTerms_terms (h : d.Single) (kind : TermKind) (language : String) :
    (ofTerms d.terms).textsAt kind language = d.textsAt kind language := by
  have hone : kind.holdsMany = false → (d.textsAt kind language).length ≤ 1 := h kind language
  unfold textsAt
  rw [get?_ofTerms fun hkind => ?_, filter_terms, toList_gathered hone]
  · rfl
  · rw [← List.length_map Term.text, filter_terms]
    exact hone hkind

/-- The terms of a document make the same terms again exactly when no label or description has
several. -/
theorem terms_ofTerms_terms_eq_iff : (ofTerms d.terms).terms = d.terms ↔ d.Single := by
  constructor
  · intro hsame kind language hkind
    rw [← filter_terms, ← hsame, filter_terms]
    exact single_ofTerms d.terms kind language hkind
  · intro hsingle
    refine Term.eq_of_slots_eq (pairwise_terms _) (pairwise_terms _) fun kind language => ?_
    rw [filter_terms, filter_terms, textsAt_ofTerms_terms hsingle]

/-! ### Documents that are read -/

/-- What the members of an object that count say of a slot. -/
def Says (value : Value) (kind : TermKind) (language : String) (content : Value) : Prop :=
  ∃ members slots, value = .object members ∧ last? kind.name members = some (.object slots) ∧
    last? language slots = some content

/-- For each label and description a value says one text, by itself or in a list. -/
def SaysOne (value : Value) : Prop :=
  ∀ kind language content, kind.holdsMany = false → Says value kind language content →
    ∃ text, content = .text text ∨ content = .list [.text text]

theorem toList_eq_singleton_iff {texts : Texts} : texts.toList = [text] ↔
    texts.toValue = .text text ∨ texts.toValue = .list [.text text] := by
  cases texts with
  | single other => simp [Texts.toList, Texts.toValue]
  | several others => simp [Texts.toList, Texts.toValue, List.map_eq_cons_iff]

/-- A slot of a document that is read holds what its value says of it. -/
theorem Holds.says_iff (h : d.Holds value) {content : Value} :
    Says value kind language content ↔
      ∃ texts, d.get? kind language = some texts ∧ texts.toValue = content := by
  obtain ⟨members, rfl, hkinds⟩ := h
  have hkind := hkinds kind
  unfold Says get?
  simp only [Value.object.injEq, ↓existsAndEq, true_and]
  generalize last? kind.name members = said at hkind ⊢
  generalize d.texts? kind = texts at hkind ⊢
  cases hkind with
  | none => simp
  | some hslots =>
      obtain ⟨slots, rfl, hlanguages⟩ := hslots
      simp only [Option.some.injEq, Value.object.injEq, ↓existsAndEq, true_and, Option.bind_some]
      rw [← hlanguages language, Option.map_eq_some_iff]

theorem Holds.holdsOne_iff (h : d.Holds value) : d.HoldsOne ↔ SaysOne value := by
  constructor
  · intro hone kind language content hkind hsays
    obtain ⟨texts, htexts, rfl⟩ := h.says_iff.1 hsays
    obtain ⟨text, htext⟩ := hone kind language texts hkind htexts
    exact ⟨text, toList_eq_singleton_iff.1 htext⟩
  · intro hone kind language texts hkind htexts
    obtain ⟨text, htext⟩ := hone kind language _ hkind (h.says_iff.2 ⟨texts, htexts, rfl⟩)
    exact ⟨text, toList_eq_singleton_iff.2 htext⟩

/-! ### What comes back -/

/-- A label or description comes back as the last of its distinct texts. -/
theorem get?_returned_last (hkind : kind.holdsMany = false) (d : Document) (limit : Nat)
    (filter : ResolveFilter) (language : String) :
    (d.returned limit filter).get? kind language =
      if filter.accepts kind language then (d.cutTexts limit kind language).getLast?.map .single
      else none := by
  unfold returned ofTerms
  rw [get?_foldl_insert, get?_empty, filter_kept, foldl_added_last hkind, Option.or_none]
  split
  · rfl
  · rfl

theorem cutTexts_of_get? {texts : Texts} (h : d.get? kind language = some texts)
    (hone : texts.toList = [text]) (limit : Nat) :
    d.cutTexts limit kind language = [Text.truncate limit text] := by
  unfold cutTexts textsAt
  rw [h, Option.map_some, Option.getD_some, hone]
  exact eraseDups_of_length_le_one (Nat.le_refl 1)

end Document

namespace Acquisition

variable {limits : Limits} {document : Document} {ids : List Int} {reader : KindStore}
  {later : Databases}

/-- Both phases gave ids for a document, with a replica that lags and kinds that are told rightly,
and whoever resolves them later is told the kinds too. -/
inductive Gives (limits : Limits) (document : Document) :
    (ids : List Int) → (reader : KindStore) → (later : Databases) → Prop
  | mk {kinds : KindStore} {read : Side} {start after final later : Databases} {batch : Batch}
      {ids : List Int} {reader : KindStore} (hkinds : kinds.Faithful start)
      (hsound : start.primary.Sound) (hlags : start.Lags)
      (hacquire : (acquire read .primary kinds limits document).run Databases.handler start =
        (.ok batch, after))
      (hfinalize : (finalize .primary limits batch).run Databases.handler after = (.ok ids, final))
      (hreader : kinds.Shares final reader later) : Gives limits document ids reader later

/-- The ids of a document resolve to its distinct terms. -/
theorem Gives.exists_run_resolve (h : Gives limits document ids reader later) (side : Side)
    (filter : ResolveFilter) : ∃ last,
      (Resolution.resolve side .primary reader filter ids).run Databases.handler later =
        (.ok (document.returned limits.textBytes filter), last) := by
  obtain ⟨hkinds, hsound, hlags, hacquire, hfinalize, hreader⟩ := h
  rename_i kinds read start after final batch
  have honward := (asks_acquire hkinds.standard read limits document).onward_of_run hsound hacquire
  obtain ⟨_, _, _, hlifts⟩ := exists_lifts hkinds.standard hsound hlags hacquire
  rw [run_finalize_of_leads honward.sound hlifts.leads limits] at hfinalize
  cases hfinalize
  have hterms := (yields_acquire read .primary kinds limits document).run hacquire
  have hstored := hreader.stored (faithful_acquire hkinds hsound hlags hacquire) hlifts.leads
    hlifts.kindIds
  obtain ⟨hprimary, hreplica⟩ := hreader.same
  have hlags' : later.Lags := by
    unfold Databases.Lags
    rw [hreplica, hprimary]
    exact hlags.onward honward
  obtain ⟨kindIds, hrun, -⟩ :=
    Resolution.exists_run_resolve hstored (hprimary ▸ honward.sound) hlags' side filter
  rw [hterms] at hrun
  exact ⟨_, hrun⟩

end Acquisition

namespace Document

open Acquisition (Gives)

variable {start d : Document} {ids : List Int}

/-- No label or description is lost on the way through the databases: once the document is acquired,
its ids resolve to a document that has the text of each accepted slot, cut to the limit. -/
def Survives (d : Document) : Prop :=
  ∀ limits ids reader later, Gives limits d ids reader later → ∀ side filter, ∃ resolved last,
    (Resolution.resolve side .primary reader filter ids).run Databases.handler later =
        (.ok resolved, last) ∧
      ∀ (kind : TermKind) language texts, kind.holdsMany = false →
        filter.accepts kind language = true → d.get? kind language = some texts →
          ∃ text, texts.toList = [text] ∧
            resolved.get? kind language = some (.single (Text.truncate limits.textBytes text))

theorem HoldsOne.survives (h : d.HoldsOne) : d.Survives := by
  intro limits ids reader later hgives side filter
  obtain ⟨last, hrun⟩ := hgives.exists_run_resolve side filter
  refine ⟨_, last, hrun, fun kind language texts hkind haccepts htexts => ?_⟩
  obtain ⟨text, htext⟩ := h kind language texts hkind htexts
  refine ⟨text, htext, ?_⟩
  rw [get?_returned_last hkind, if_pos haccepts, cutTexts_of_get? htexts htext]
  rfl

/-- Of a document that is new or was read, the calls that add texts change no label or description
but to a single text. So all labels and descriptions are single, if the document is new or is read
from a value that says one text for each of them. The terms of a document make the same terms again
exactly when no label or description has several; and where each has one, none is lost in the
databases. -/
theorem single_texts_stay (h : start.Becomes d) :
    (∀ kind language, kind.holdsMany = false → SlotStays start d kind language) ∧
    (start = .empty ∨ start.HoldsOne → d.HoldsOne) ∧
    (∀ text value, ofText text = .ok start → IsText value text.toList →
      (start.HoldsOne ↔ SaysOne value)) ∧
    ((ofTerms d.terms).terms = d.terms ↔ d.Single) ∧
    (d.HoldsOne → (ofTerms d.terms).terms = d.terms ∧ d.Survives) := by
  refine ⟨fun kind language hkind => slotStays_of_becomes hkind h, ?_, ?_,
    terms_ofTerms_terms_eq_iff, fun hone => ?_⟩
  · intro hstart
    rcases hstart with rfl | hone
    · exact holdsOne_empty.becomes h
    · exact hone.becomes h
  · intro text value hread hvalue
    exact (holds_of_ofValue? ((ofText_eq_ok_iff hvalue).1 hread)).holdsOne_iff
  · exact ⟨terms_ofTerms_terms_eq_iff.2 hone.single, hone.survives⟩

/-- A label that is read from a list of one text. -/
def listedLabel : Document := ⟨some (SortedMap.empty.put "en" (.several ["Athens"])), none, none⟩

/-- The label with a description. -/
def listedCity : Document := listedLabel.withDescription "en" "a city"

/-- Both phases for a document, where no term is known yet. -/
def storedAlone (d : Document) : Except Failure (List Int) × Databases :=
  (Acquisition.acquire .replica .primary (.inTable .replica .primary) .default d >>=
    Acquisition.finalize .primary .default).run Databases.handler ⟨.migrated, none, .none⟩

theorem gives_storedAlone (h : (storedAlone d).1 = .ok ids) :
    Gives .default d ids (.inTable .replica .primary) (storedAlone d).2 := by
  obtain ⟨batch, after, hacquire, hfinalize⟩ :=
    Dialog.run_bind_eq_ok_iff.1 (Prod.fst_eq_iff.1 h)
  have hlags : Databases.Lags ⟨.migrated, none, .none⟩ := by
    intro replica hreplica
    cases hreplica
  exact .mk (KindStore.faithful_of_none (.inTable .replica) rfl) Database.fresh_migrated.sound
    hlags hacquire hfinalize (.itself _)

theorem holdsOne_listedLabel : listedLabel.HoldsOne := by
  intro kind language texts hkind htexts
  have hslot : listedLabel.get? .label language =
      if language = "en" then some (.several ["Athens"]) else none := by
    show (SortedMap.empty.put "en" (Texts.several ["Athens"])).get? language = _
    rw [SortedMap.get?_put]
    rfl
  cases kind with
  | label =>
      rw [hslot] at htexts
      split at htexts
      · exact ⟨"Athens", by rw [← Option.some.inj htexts]; rfl⟩
      · cases htexts
  | description => cases htexts
  | aliases => cases hkind

/-- The label that is read is single, and both texts come back. -/
theorem single_texts_stay_listedCity :
    ofText "\x7b\"label\": \x7b\"en\": [\"Athens\"]\x7d\x7d" = .ok listedLabel ∧
      listedCity.HoldsOne ∧ (ofTerms listedCity.terms).terms = listedCity.terms ∧
        ∃ resolved last, (Resolution.resolve .replica .primary (.inTable .replica .primary) .all
            [1, 2]).run Databases.handler (storedAlone listedCity).2 = (.ok resolved, last) ∧
          resolved.get? .label "en" = some (.single "Athens") := by
  have hread : ofText "\x7b\"label\": \x7b\"en\": [\"Athens\"]\x7d\x7d" = .ok listedLabel := by
    decide +kernel
  have hgives := gives_storedAlone (show (storedAlone listedCity).1 = .ok [1, 2] by decide +kernel)
  obtain ⟨-, hone, -, -, hstays⟩ :=
    single_texts_stay (.single (.withDescription listedLabel "en" "a city"))
  have hcity := hone (Or.inr holdsOne_listedLabel)
  obtain ⟨hterms, hsurvives⟩ := hstays hcity
  obtain ⟨resolved, last, hrun, hslots⟩ := hsurvives _ _ _ _ hgives .replica .all
  obtain ⟨text, htext, hslot⟩ :=
    hslots .label "en" (.several ["Athens"]) rfl rfl (by decide +kernel)
  obtain rfl := List.singleton_inj.1 htext
  exact ⟨hread, hcity, hterms, resolved, last, hrun, hslot⟩

/-- A label with two texts in one language. -/
def twoLabels : Document :=
  ⟨some (SortedMap.empty.put "en" (.several ["Athens", "Athen"])), none, none⟩

/-- A text with two labels in one language is accepted. Its terms do not make the same terms again,
and when it is acquired and resolved, one of the labels is lost. -/
theorem two_labels_lost :
    ofText "\x7b\"label\": \x7b\"en\": [\"Athens\", \"Athen\"]\x7d\x7d" = .ok twoLabels ∧
      ¬ twoLabels.HoldsOne ∧ (ofTerms twoLabels.terms).terms ≠ twoLabels.terms ∧
        (storedAlone twoLabels).1 = .ok [1, 2] ∧
          ((Resolution.resolve .replica .primary (.inTable .replica .primary) .all [1, 2]).run
            Databases.handler (storedAlone twoLabels).2).1 =
              .ok (empty.withLabel "en" "Athen") := by
  refine ⟨by decide +kernel, fun hone => ?_, by decide +kernel, by decide +kernel,
    by decide +kernel⟩
  obtain ⟨text, htext⟩ := hone .label "en" (.several ["Athens", "Athen"]) rfl (by decide +kernel)
  cases htext

end Document

end TermStore
