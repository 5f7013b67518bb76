/-!
# Events

What the term store tells about its own work, and the line that a log shows of each event: a
level, a message, and the details by name.
-/

namespace TermStore

/-- An event of the term store's work. -/
inductive Event
  /-- Distinct records were looked up on the replica. -/
  | replicaRead (table : String) (distinct hits : Nat)
  /-- The records still needed were looked up on the primary. -/
  | primaryRead (table : String) (hits needed : Nat)
  /-- The records still needed were sent to the primary for insertion. -/
  | inserted (table : String) (added requested attempt : Nat)
  /-- A document's terms have their ids. -/
  | acquired (terms distinct : Nat)
  /-- Terms of a batch have lost rows and are stored again. -/
  | restoring (occurrences : Nat)
  /-- A migration was applied. -/
  | migrated (version : Nat) (name : String)
  deriving DecidableEq, Repr

/-- A detail of an event. -/
def detail (name value : String) : String := " " ++ name ++ "=" ++ value

/-- The line that a log shows of an event. -/
def Event.line : Event → String
  | .replicaRead table distinct hits =>
    "DEBUG looked up records on replica" ++ detail "table" table
      ++ detail "distinct" (toString distinct) ++ detail "replica_hits" (toString hits)
  | .primaryRead table hits needed =>
    "DEBUG looked up records on primary" ++ detail "table" table
      ++ detail "primary_hits" (toString hits) ++ detail "still_needed" (toString needed)
  | .inserted table added requested attempt =>
    "DEBUG inserted missing records into primary" ++ detail "table" table
      ++ detail "inserted" (toString added) ++ detail "requested" (toString requested)
      ++ detail "attempt" (toString attempt)
  | .acquired terms distinct =>
    "DEBUG acquired term_in_lang ids" ++ detail "terms" (toString terms)
      ++ detail "distinct_term_in_lang" (toString distinct)
  | .restoring occurrences =>
    "WARN term_in_lang chains were incomplete on primary before finalize, restoring"
      ++ detail "occurrences" (toString occurrences)
  | .migrated version name =>
    "INFO applied term store migration" ++ detail "version" (toString version)
      ++ detail "name" name

end TermStore
