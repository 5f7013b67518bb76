import TermStore.Term.Document
import TermStore.Json.Reader

/-!
# The JSON form of terms documents

A document is written as an object of kinds, each an object of languages, each a text or a list
of texts. Reading looks at a key as soon as it is read: an unknown kind is refused before its
value. A value that is neither a text nor a list of texts is read to its end, and refused at the
end of the map that holds it. Of repeated keys the last one counts.
-/

namespace TermStore

open Json (Reader Fault Value)

/-- The texts that a JSON value stands for: a text or a list of texts. -/
def Texts.ofValue? : Value → Option Texts
  | .text text => some (.single text)
  | .list items =>
    (items.mapM Value.text?).map .several
  | _ => none

/-- The JSON value of some texts. -/
def Texts.toValue : Texts → Value
  | .single text => .text text
  | .several texts => .list (texts.map .text)

namespace Document

/-- Where a map that holds an unfit value is refused: behind its closing brace, if that comes
next. -/
def refusalPlace (rest : List Char) : List Char :=
  match Json.skipSpace rest with
  | '}' :: rest => rest
  | rest => rest

/-- Reads the texts of a slot. -/
def readTexts (room : Nat) : Reader Texts := fun text => do
  let (value, rest) ← Json.readValue room text
  match Texts.ofValue? value with
  | some texts => return (texts, rest)
  | none => .error (.before (.noForm "TermTexts") (refusalPlace rest))

/-- Reads the texts of a kind. -/
def readLanguages (room : Nat) : Reader LanguageMap := fun text => do
  let member := fun room => Json.readMember some (fun _ => .keyNotText) (readTexts room)
  let (members, rest) ← Json.readWantedMap room member text
  return (.ofList members, rest)

/-- Reads a document in which `room` levels may be opened. -/
def readKinds (room : Nat) : Reader Document := fun text => do
  let refusal := fun name => .unknownKey name (TermKind.all.map TermKind.name)
  let member := fun room => Json.readMember TermKind.ofName? refusal (readLanguages room)
  let (members, rest) ← Json.readWantedMap room member text
  return (members.foldl (fun d member => d.setTexts member.1 member.2) empty, rest)

/-- The document that a JSON text holds. -/
def ofJson (text : String) : Except Fault Document :=
  Json.readWhole (readKinds Json.nestingRoom) text.toList

/-- The JSON value of a document: the kinds that it mentions in order, with their languages in
order. -/
def toValue (d : Document) : Value :=
  .object (TermKind.all.filterMap fun kind => (d.texts? kind).map fun texts =>
    (kind.name, .object (texts.entries.map fun slot => (slot.1, slot.2.toValue))))

/-- The JSON text of a document, on several lines. -/
def toJson (d : Document) : String := d.toValue.pretty

end Document

end TermStore
