import TermStore.Term.Json
import TermStore.Storage.Fault

/-!
# Failures of the term store

What a caller of the term store can meet. Rows that someone else added first, or removed
meanwhile, are dealt with inside and appear here only as `exhausted`.
-/

namespace TermStore

/-- Why a call on the term store failed. -/
inductive Failure
  /-- A database could not be read or written. -/
  | storage (fault : Storage.Fault)
  /-- A name that is no kind of term. -/
  | unknownKind (name : String)
  /-- A terms document without the shape of one. -/
  | malformedDocument (detail : String)
  /-- The id of a kind that nothing can name. -/
  | unknownKindId (id : Int)
  /-- Records that were still without a row after all attempts to insert them. -/
  | exhausted (table : String) (missing attempts : Nat)
  deriving DecidableEq, Repr

namespace Failure

/-- The wording of a failure. -/
def message : Failure → String
  | .storage fault => "term store query failed: " ++ fault.message
  | .unknownKind name => "unknown term type '" ++ name ++ "'"
  | .malformedDocument detail => "malformed terms document: " ++ detail
  | .unknownKindId id => "unknown term type id " ++ toString id
  | .exhausted table missing attempts =>
    "could not acquire " ++ toString missing ++ " record(s) in " ++ table ++ " after "
      ++ toString attempts ++ " insert attempt(s)"

/-- The wording of a failure for people. -/
def report : Failure → String
  | .storage fault => "term store query failed: " ++ fault.report
  | failure => failure.message

end Failure

/-- The kind of a name, or the failure that there is none. -/
def TermKind.ofName (name : String) : Except Failure TermKind :=
  match ofName? name with
  | some kind => .ok kind
  | none => .error (.unknownKind name)

/-- The document that a JSON text holds, or the failure that it holds none. -/
def Document.ofText (text : String) : Except Failure Document :=
  match ofJson text with
  | .ok document => .ok document
  | .error fault => .error (.malformedDocument (fault.message text))

end TermStore
