import TermStore.Acquisition.Kinds

/-!
# Ids of terms

A term is stored on three levels, each without repetition: its text, the text in its language,
and that as a term of its kind. The id of the last row is what callers refer to.

Rows that nobody refers to may be removed by others at any time. So terms are acquired in two
phases. `acquire` gives each occurrence of a term an id; the caller then writes its references;
`finalize` looks on the primary whether each id still leads through its three rows to its term,
and stores again, without trusting the replica, the terms for which it does not.
-/

namespace TermStore

open Storage (TableSpec Record Cell)

/-- How terms are stored. -/
structure Limits where
  /-- Longer texts are cut at a character. -/
  textBytes : Nat
  attempts : Nat
  deriving DecidableEq, Repr

/-- The limits where nothing else is said. -/
def Limits.default : Limits := ⟨255, Seeker.defaultAttempts⟩

/-- An occurrence of a term with the ids acquired for it. -/
structure AcquiredTerm where
  term : Term
  kindId : Int
  id : Int
  deriving DecidableEq, Repr

/-- What the first phase gives: the occurrences in canonical order. -/
abbrev Batch := List AcquiredTerm

/-- One id for each occurrence. -/
def Batch.ids (batch : Batch) : List Int := batch.map AcquiredTerm.id

namespace Acquisition

/-- The distinct numbers of a list, ascending. -/
def idSet (ids : List Int) : List Int := (SortedMap.ofList (ids.map fun id => (id, ()))).keys

/-- The ids of terms whose kind ids are given, level by level. -/
def acquireTermIds (s : Seeker) (terms : List (Term × Int)) : Dialog (List Int) := do
  let texts ← acquireIds s .texts (terms.map fun t => [Cell.text t.1.text])
  let inLanguage ← acquireIds s .textsInLanguage
    ((terms.zip texts).map fun (t, text) => [.integer text.2, .text t.1.language])
  let found ← acquireIds s .termsInLanguage
    ((terms.zip inLanguage).map fun (t, middle) => [.integer middle.2, .integer t.2])
  return found.map Prod.snd

/-- A term with the id of its kind. -/
def withKindId (ids : KindIds) (term : Term) : Except Failure (Term × Int) :=
  match ids.get? term.kind with
  | some id => .ok (term, id)
  | none => .error (.unknownKind term.kind.name)

/-- The first phase: an id for each term of a document, cut to the limit. -/
def acquire (read write : Side) (kinds : KindStore) (limits : Limits) (document : Document) :
    Dialog Batch := do
  let terms := document.truncatedTerms limits.textBytes
  if terms.isEmpty then return []
  else
    let used := TermKind.all.filter fun kind => terms.any fun term => term.kind == kind
    let kindIds ← kinds.acquire used
    let typed ← Dialog.ofExcept (terms.mapM (withKindId kindIds))
    let ids ← acquireTermIds ((Seeker.replicaFirst read write).withAttempts limits.attempts) typed
    Dialog.tell (.acquired typed.length (idSet ids).length)
    return (typed.zip ids).map fun (t, id) => ⟨t.1, t.2, id⟩

/-! ### The second phase -/

/-- The rows that the ids of a batch lead to. -/
structure ChainRows where
  terms : SortedMap Int Record
  inLanguage : SortedMap Int Record
  texts : SortedMap Int Record

/-- The numbers in the first place of some records. -/
def firstIds (rows : SortedMap Int Record) : List Int :=
  idSet (rows.values.filterMap fun record =>
    match record with
    | .integer id :: _ => some id
    | _ => none)

/-- Reads the rows that the ids of a batch lead to, level by level. -/
def readChains (side : Side) (batch : Batch) : Dialog ChainRows := do
  let terms ← Dialog.findIds side .termsInLanguage (idSet batch.ids)
  let inLanguage ← Dialog.findIds side .textsInLanguage (firstIds terms)
  let texts ← Dialog.findIds side .texts (firstIds inLanguage)
  return ⟨terms, inLanguage, texts⟩

/-- Does the id of an occurrence lead to its term? -/
def ChainRows.leadTo (rows : ChainRows) (acquired : AcquiredTerm) : Bool :=
  match rows.terms.get? acquired.id with
  | some [.integer middleId, .integer kindId] =>
    kindId == acquired.kindId &&
      match rows.inLanguage.get? middleId with
      | some [.integer textId, .text language] =>
        language == acquired.term.language &&
          match rows.texts.get? textId with
          | some [.text text] => text == acquired.term.text
          | _ => false
      | _ => false
  | _ => false

/-- The ids of a batch, those of the occurrences that are not whole taken in order from a list. -/
def replaced (whole : AcquiredTerm → Bool) : Batch → List Int → List Int
  | [], _ => []
  | acquired :: batch, ids =>
    if whole acquired then acquired.id :: replaced whole batch ids
    else
      match ids with
      | [] => acquired.id :: replaced whole batch []
      | id :: ids => id :: replaced whole batch ids

/-- The second phase: an id for each occurrence that leads to its term on the primary. -/
def finalize (write : Side) (limits : Limits) (batch : Batch) : Dialog (List Int) := do
  if batch.isEmpty then return []
  else
    let rows ← readChains write batch
    let lost := batch.filter fun acquired => !rows.leadTo acquired
    if lost.isEmpty then return batch.ids
    else
      Dialog.tell (.restoring lost.length)
      let restored ← acquireTermIds ((Seeker.primaryOnly write).withAttempts limits.attempts)
        (lost.map fun acquired => (acquired.term, acquired.kindId))
      return replaced rows.leadTo batch restored

/-- Both phases around the caller's own writing of references. -/
def acquireAround (read write : Side) (kinds : KindStore) (limits : Limits)
    (document : Document) : Dialog (List Int) := do
  let batch ← acquire read write kinds limits document
  Dialog.callerSection batch.ids
  finalize write limits batch

end Acquisition

end TermStore
