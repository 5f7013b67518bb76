import TermStore.Acquisition.Terms

/-!
# Resolving ids

The terms behind ids: each id is looked up on the replica first, and on the primary if the replica
does not have its three rows. Ids that lead nowhere are skipped, and an id counts once, where it
comes first. A filter drops terms by kind and language; it does not change which rows are read.
-/

namespace TermStore

open Storage.Database (Chain)

/-- Which terms to keep; an empty list keeps all. -/
structure ResolveFilter where
  kinds : List TermKind
  languages : List String
  deriving DecidableEq, Repr

/-- Keeps all terms. -/
def ResolveFilter.all : ResolveFilter := ⟨[], []⟩

/-- Does the filter keep a slot? -/
def ResolveFilter.accepts (filter : ResolveFilter) (kind : TermKind) (language : String) : Bool :=
  (filter.kinds.isEmpty || filter.kinds.contains kind)
    && (filter.languages.isEmpty || filter.languages.contains language)

/-- A slot has to be of one of the kinds and in one of the languages that the filter names; where it
names none, all will do. -/
theorem ResolveFilter.accepts_iff {filter : ResolveFilter} {kind : TermKind} {language : String} :
    filter.accepts kind language = true ↔
      (filter.kinds = [] ∨ kind ∈ filter.kinds) ∧
        (filter.languages = [] ∨ language ∈ filter.languages) := by
  simp [accepts]

@[simp] theorem ResolveFilter.accepts_all (kind : TermKind) (language : String) :
    ResolveFilter.all.accepts kind language = true := rfl

namespace Resolution

/-- The chains of ids: from the replica, and from the primary those that it lacks. -/
def readChains (read write : Side) (ids : List Int) : Dialog (SortedMap Int Chain) := do
  let wanted := Acquisition.idSet ids
  let found ← Dialog.chains read wanted
  let missing := wanted.filter fun id => !found.contains id
  if missing.isEmpty then return found
  else return found.union (← Dialog.chains write missing)

/-- The kinds of the kind ids of some chains. -/
def readKinds (kinds : KindStore) (rows : SortedMap Int Chain) :
    Dialog (SortedMap Int TermKind) :=
  kinds.resolve (Acquisition.idSet (rows.values.map Chain.kindId))

/-- The document with the term of a chain, if the filter keeps it. -/
def addChain (kinds : SortedMap Int TermKind) (filter : ResolveFilter) (document : Document)
    (chain : Chain) : Except Failure Document :=
  match kinds.get? chain.kindId with
  | none => .error (.unknownKindId chain.kindId)
  | some kind =>
    if filter.accepts kind chain.language then
      .ok (document.insert kind chain.language chain.text)
    else .ok document

/-- The document of the terms behind ids. -/
def build (rows : SortedMap Int Chain) (kinds : SortedMap Int TermKind) (filter : ResolveFilter)
    (ids : List Int) : Except Failure Document :=
  (ids.eraseDups.filterMap rows.get?).foldlM (addChain kinds filter) .empty

/-- The terms behind ids. -/
def resolve (read write : Side) (kinds : KindStore) (filter : ResolveFilter) (ids : List Int) :
    Dialog Document := do
  let rows ← readChains read write ids
  let kinds ← readKinds kinds rows
  Dialog.ofExcept (build rows kinds filter ids)

/-- The terms behind several groups of ids, with the rows of all read together. -/
def resolveGroups {κ : Type} [LE κ] [LT κ] [DecidableLT κ] [DecidableEq κ] [Std.IsLinearOrder κ]
    [Std.LawfulOrderLT κ] (read write : Side) (kinds : KindStore) (filter : ResolveFilter)
    (groups : SortedMap κ (List Int)) : Dialog (SortedMap κ Document) := do
  let rows ← readChains read write groups.values.flatten
  let kinds ← readKinds kinds rows
  let documents ← Dialog.ofExcept (groups.entries.mapM fun group => do
    return (group.1, ← build rows kinds filter group.2))
  return .ofList documents

end Resolution

end TermStore
