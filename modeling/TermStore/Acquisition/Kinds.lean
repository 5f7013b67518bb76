import TermStore.Acquisition.Records

/-!
# Ids of kinds

Each kind of term has a small durable id. The ids are either numbered by the process itself, in
the order in which the kinds are first used, or they are the ids of the kinds' names in a table of
the store; the latter are kept once they are known, and what is kept is never asked for again.
-/

namespace TermStore

open Storage (TableSpec Record RecordIds Cell)

namespace KindIds

/-- No ids. -/
def none : KindIds := ⟨.none, .none, .none⟩

/-- The id of a kind. -/
def get? (ids : KindIds) : TermKind → Option Int
  | .label => ids.label
  | .description => ids.description
  | .aliases => ids.aliases

/-- The ids with one put in. -/
def put (ids : KindIds) (kind : TermKind) (id : Int) : KindIds :=
  match kind with
  | .label => { ids with label := some id }
  | .description => { ids with description := some id }
  | .aliases => { ids with aliases := some id }

/-- The kinds that have an id, with it, in the order of the kinds. -/
def toList (ids : KindIds) : List (TermKind × Int) :=
  TermKind.all.filterMap fun kind => (ids.get? kind).map fun id => (kind, id)

/-- The ids of some kinds only. -/
def select (ids : KindIds) (kinds : List TermKind) : KindIds :=
  ids.toList.foldl (fun kept entry =>
    if kinds.contains entry.1 then kept.put entry.1 entry.2 else kept) none

/-- The kinds behind some ids; of kinds with one id the later one counts. -/
def kindsOf (ids : KindIds) (wanted : List Int) : SortedMap Int TermKind :=
  .ofList ((ids.toList.filter fun entry => wanted.contains entry.2).map fun entry =>
    (entry.2, entry.1))

/-- The ids with one for each of some kinds, new ones numbered on from the largest. -/
def number (ids : KindIds) (kinds : List TermKind) : KindIds :=
  kinds.foldl (fun ids kind =>
    match ids.get? kind with
    | some _ => ids
    | .none =>
      ids.put kind (((ids.toList.map Prod.snd).max?).getD 0 + 1)) ids

@[simp] theorem get?_put_self (ids : KindIds) (kind : TermKind) (id : Int) :
    (ids.put kind id).get? kind = some id := by
  cases kind <;> rfl

theorem get?_put_of_ne (ids : KindIds) {kind other : TermKind} (h : other ≠ kind) (id : Int) :
    (ids.put kind id).get? other = ids.get? other := by
  cases kind <;> cases other <;> first | rfl | exact absurd rfl h

end KindIds

/-- A way to get from kinds to ids and back. -/
structure KindStore where
  /-- The ids of some kinds, made on first use. -/
  acquire : List TermKind → Dialog KindIds
  /-- The ids of those kinds that have one. -/
  lookup : List TermKind → Dialog KindIds
  /-- The kinds of those ids that belong to one. -/
  resolve : List Int → Dialog (SortedMap Int TermKind)

namespace KindStore

/-- Ids numbered from one by the process, in the order of first use. -/
def inMemory : KindStore where
  acquire kinds := do
    let ids := (← Dialog.known).number kinds
    Dialog.remember ids
    return ids.select kinds
  lookup kinds := return (← Dialog.known).select kinds
  resolve wanted := return (← Dialog.known).kindsOf wanted

/-! ### Ids in a table -/

/-- The record of a kind. -/
def recordOf (kind : TermKind) : Record := [.text kind.name]

/-- A cell as a message shows it. -/
def describeCell : Cell → String
  | .integer value => "Integer(" ++ toString value ++ ")"
  | .text value => "Text(" ++ Text.quoted value ++ ")"

/-- The kind that a record names. -/
def kindOf : Record → Except Failure TermKind
  | [.text name] => TermKind.ofName name
  | cells => .error (.unknownKind ("[" ++ ", ".intercalate (cells.map describeCell) ++ "]"))

/-- The kinds of a list that have no id, each once. -/
def unknownKinds (ids : KindIds) (kinds : List TermKind) : List TermKind :=
  (kinds.filter fun kind => (ids.get? kind).isNone).eraseDups

/-- The ids with those of some records put in, up to the first record that names no kind. -/
def learned (ids : KindIds) : List (Record × Int) → KindIds × Except Failure Unit
  | [] => (ids, .ok ())
  | (record, id) :: rest =>
    match kindOf record with
    | .ok kind => learned (ids.put kind id) rest
    | .error failure => (ids, .error failure)

/-- Keeps the ids of some records. What was learned before a record that names no kind stays. -/
def learn (entries : List (Record × Int)) : Dialog KindIds := do
  let (ids, outcome) := learned (← Dialog.known) entries
  Dialog.remember ids
  Dialog.ofExcept outcome
  return ids

/-- Ids in the table of kinds: read from `read` first, and made in `write`. -/
def inTable (read write : Side) : KindStore where
  acquire kinds := do
    let ids ← Dialog.known
    let unknown := unknownKinds ids kinds
    if unknown.isEmpty then return ids.select kinds
    else
      let acquired ← Acquisition.acquireIds (.replicaFirst read write) .kinds
        (unknown.map recordOf)
      return (← learn acquired).select kinds
  lookup kinds := do
    let ids ← Dialog.known
    let unknown := unknownKinds ids kinds
    if unknown.isEmpty then return ids.select kinds
    else
      let records := unknown.map recordOf
      let found ← Dialog.find read .kinds records
      let missing := Acquisition.missing records found
      let found ←
        if missing.isEmpty then pure found
        else do pure (found.union (← Dialog.find write .kinds missing))
      return (← learn found.entries).select kinds
  resolve wanted := do
    let ids ← Dialog.known
    let unknown := (SortedMap.ofList ((wanted.filter fun id =>
      !(ids.toList.any fun entry => entry.2 == id)).map fun id => (id, ()))).keys
    if unknown.isEmpty then return ids.kindsOf wanted
    else
      let found ← Dialog.findIds read .kinds unknown
      let missing := unknown.filter fun id => !found.contains id
      let found ←
        if missing.isEmpty then pure found
        else do pure (found.union (← Dialog.findIds write .kinds missing))
      return (← learn (found.entries.map fun entry => (entry.2, entry.1))).kindsOf wanted

end KindStore

end TermStore
