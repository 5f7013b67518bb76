import TermStore.Dialog.Basic

/-!
# Ids of records

Each record wanted gets the id of its row; records without a row are inserted first. A replica
may be asked before the primary. On the primary reads and inserts alternate and begin with a
read, so a row that someone else added between two calls is simply found by the next read. The
inserts are bounded: where rows vanish as fast as they are inserted, the work ends in a failure.
-/

namespace TermStore

open Storage (TableSpec Record RecordIds)

/-- Where records are looked up and inserted. -/
structure Seeker where
  /-- The store that is asked first and never written. -/
  replica : Option Side
  primary : Side
  /-- The number of inserts that may be made. -/
  attempts : Nat
  deriving DecidableEq, Repr

namespace Seeker

/-- The number of inserts where nothing else is said. -/
def defaultAttempts : Nat := 5

/-- Asks the replica first. -/
def replicaFirst (read write : Side) : Seeker := ⟨some read, write, defaultAttempts⟩

/-- Asks the primary only. -/
def primaryOnly (write : Side) : Seeker := ⟨none, write, defaultAttempts⟩

/-- The seeker with another number of inserts; at least one is always made. -/
def withAttempts (s : Seeker) (attempts : Nat) : Seeker := { s with attempts := max 1 attempts }

/-- The seeker that leaves the replica out. -/
def ignoringReplica (s : Seeker) : Seeker := { s with replica := none }

end Seeker

namespace Acquisition

/-- The records without an id among some found ones. -/
def missing (records : List Record) (found : RecordIds) : List Record :=
  records.filter fun record => !found.contains record

/-- Looks the needed records up on the primary, and inserts those that are missing and looks
again, as long as inserts are left; `made` were made before. Gives the ids found, added to the
ones known already. -/
def seekOnPrimary (side : Side) (spec : TableSpec) :
    (left : Nat) → (made : Nat) → List Record → RecordIds → Dialog RecordIds
  | left, made, needed, found =>
    if needed.isEmpty then return found
    else do
      let present ← Dialog.find side spec needed
      let needed := missing needed present
      Dialog.tell (.primaryRead spec.name present.entries.length needed.length)
      let found := found.union present
      if needed.isEmpty then return found
      else
        match left with
        | 0 => .fail (.exhausted spec.name needed.length made)
        | left + 1 =>
          let added ← Dialog.insert side spec needed
          Dialog.tell (.inserted spec.name added needed.length (made + 1))
          seekOnPrimary side spec left (made + 1) needed found

/-- The id of each record among the ones found. -/
def assemble (spec : TableSpec) (found : RecordIds) (records : List Record) :
    Except Failure (List (Record × Int)) :=
  records.mapM fun record =>
    match found.get? record with
    | some id => .ok (record, id)
    | none => .error (.exhausted spec.name 1 0)

/-- The id of each record, in order; equal records have one id. -/
def acquireIds (s : Seeker) (spec : TableSpec) (records : List Record) :
    Dialog (List (Record × Int)) := do
  let wanted := records.eraseDups
  match s.replica with
  | none =>
    let found ← seekOnPrimary s.primary spec s.attempts 0 wanted .empty
    Dialog.ofExcept (assemble spec found records)
  | some read =>
    if wanted.isEmpty then return []
    else
      let found ← Dialog.find read spec wanted
      let needed := missing wanted found
      Dialog.tell (.replicaRead spec.name wanted.length found.entries.length)
      let found ← seekOnPrimary s.primary spec s.attempts 0 needed found
      Dialog.ofExcept (assemble spec found records)

end Acquisition

end TermStore
