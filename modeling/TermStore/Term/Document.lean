import TermStore.SortedMap
import TermStore.Term.Kind
import TermStore.Text.Truncation

/-!
# Terms documents

A document holds, for each kind of term it mentions, the texts of each language. A slot, a kind
and a language, holds either a single text or a list of texts. The terms of a document come in
canonical order: by kind, then by language, then by the order of the texts in their slot.
-/

namespace TermStore

/-- The texts of one kind in one language. -/
inductive Texts
  | single (text : String)
  | several (texts : List String)
  deriving DecidableEq, Repr

/-- The texts as a list. -/
def Texts.toList : Texts → List String
  | .single text => [text]
  | .several texts => texts

/-- The texts of one kind by language. -/
abbrev LanguageMap := SortedMap String Texts

/-- A terms document: the texts of each kind that it mentions. -/
structure Document where
  label : Option LanguageMap
  description : Option LanguageMap
  aliases : Option LanguageMap
  deriving DecidableEq

/-- One term: a text of some kind in some language. -/
structure Term where
  kind : TermKind
  language : String
  text : String
  deriving DecidableEq, Repr

namespace Document

/-- The document that mentions no kind. -/
def empty : Document := ⟨none, none, none⟩

instance : EmptyCollection Document := ⟨empty⟩

/-- The texts of a kind, if the document mentions it. -/
def texts? (d : Document) : TermKind → Option LanguageMap
  | .label => d.label
  | .description => d.description
  | .aliases => d.aliases

/-- The document with the texts of one kind replaced. -/
def setTexts (d : Document) (kind : TermKind) (texts : LanguageMap) : Document :=
  match kind with
  | .label => { d with label := some texts }
  | .description => { d with description := some texts }
  | .aliases => { d with aliases := some texts }

/-- The texts in a slot. -/
def get? (d : Document) (kind : TermKind) (language : String) : Option Texts :=
  (d.texts? kind).bind fun texts => texts.get? language

/-- What a slot holds after a text came to it: aliases gather, other kinds keep the last text. -/
def added (kind : TermKind) (present : Option Texts) (text : String) : Texts :=
  if kind.holdsMany then .several ((present.map Texts.toList).getD [] ++ [text])
  else .single text

/-- The document with a text added. -/
def insert (d : Document) (kind : TermKind) (language text : String) : Document :=
  let texts := (d.texts? kind).getD .empty
  d.setTexts kind (texts.put language (added kind (texts.get? language) text))

/-- The document with a label. -/
def withLabel (d : Document) (language text : String) : Document := d.insert .label language text

/-- The document with a description. -/
def withDescription (d : Document) (language text : String) : Document :=
  d.insert .description language text

/-- The document with aliases added. -/
def withAliases (d : Document) (language : String) (texts : List String) : Document :=
  texts.foldl (fun d text => d.insert .aliases language text) d

/-- The kinds that the document mentions, also those without texts. -/
def kinds (d : Document) : List TermKind := TermKind.all.filter fun kind => (d.texts? kind).isSome

/-- The terms of one kind, by language and then in the order of their slot. -/
def termsOf (kind : TermKind) (texts : LanguageMap) : List Term :=
  texts.entries.flatMap fun slot => slot.2.toList.map fun text => ⟨kind, slot.1, text⟩

/-- The terms in canonical order. -/
def terms (d : Document) : List Term :=
  TermKind.all.flatMap fun kind => ((d.texts? kind).map (termsOf kind)).getD []

/-- The number of terms, repeated ones included. -/
def termCount (d : Document) : Nat := d.terms.length

/-- Has the document no term? It may still mention kinds. -/
def isEmpty (d : Document) : Bool := d.termCount == 0

/-- The terms with their texts cut to at most `limit` bytes. -/
def truncatedTerms (d : Document) (limit : Nat) : List Term :=
  d.terms.map fun term => { term with text := Text.truncate limit term.text }

@[simp] theorem texts?_setTexts_self (d : Document) (kind : TermKind) (texts : LanguageMap) :
    (d.setTexts kind texts).texts? kind = some texts := by
  cases kind <;> rfl

theorem texts?_setTexts_of_ne (d : Document) {kind other : TermKind} (h : other ≠ kind)
    (texts : LanguageMap) : (d.setTexts kind texts).texts? other = d.texts? other := by
  cases kind <;> cases other <;> first | rfl | exact absurd rfl h

/-- Two documents with the same texts of every kind are equal. -/
theorem ext_texts {d e : Document} (h : ∀ kind, d.texts? kind = e.texts? kind) : d = e := by
  have hl := h .label
  have hd := h .description
  have ha := h .aliases
  cases d
  cases e
  simp_all [texts?]

end Document

end TermStore
