/-!
# Kinds of term

A term is a label, a description or an alias. The kinds have a fixed order, in which documents
list them, and names by which documents and tables refer to them.
-/

namespace TermStore

/-- A kind of term. -/
inductive TermKind
  | label
  | description
  | aliases
  deriving DecidableEq, Repr

namespace TermKind

/-- The kinds in their order. -/
def all : List TermKind := [.label, .description, .aliases]

/-- The name by which documents and tables refer to the kind. -/
def name : TermKind → String
  | .label => "label"
  | .description => "description"
  | .aliases => "alias"

/-- The place of the kind in the order of the kinds. -/
def rank : TermKind → Nat
  | .label => 0
  | .description => 1
  | .aliases => 2

/-- Aliases hold a list of texts in each language; labels and descriptions hold one. -/
def holdsMany : TermKind → Bool
  | .aliases => true
  | _ => false

/-- The kind of a name. -/
def ofName? (name : String) : Option TermKind := all.find? fun kind => kind.name == name

@[simp] theorem ofName?_name (kind : TermKind) : ofName? kind.name = some kind := by
  cases kind <;> decide

end TermKind

end TermStore
