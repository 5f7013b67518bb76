import TermStore.Text.Truncation
import TermStore.Text.Quoted
import TermStore.Decimal.Shortest

/-!
# What is wrong with a JSON text

A fault names its cause and how many bytes of the text were left when it was noticed. The position
that a message shows, a line and the bytes read on that line, follows from the whole text and
that number, so no reader has to count lines.
-/

namespace TermStore.Json

open Text (byteLength)

/-- A number of a JSON text. Whole numbers of 64 bits are exact; all others, and `-0`, are
floating. -/
inductive Number
  | whole (value : Int)
  | floating (negative : Bool) (magnitude : Decimal.Binary)
  deriving DecidableEq, Repr

/-- The kinds of value that can stand where another kind was wanted. -/
inductive Found
  | null
  | boolean (value : Bool)
  | number (value : Number)
  | text (value : String)
  | sequence
  | map
  deriving DecidableEq, Repr

/-- How a message calls a value of the wrong kind. -/
def Found.describe : Found → String
  | .null => "null"
  | .boolean true => "boolean `true`"
  | .boolean false => "boolean `false`"
  | .number (.whole value) => "integer `" ++ toString value ++ "`"
  | .number (.floating negative magnitude) =>
    "floating point `" ++ (if negative then "-" else "") ++ magnitude.render ++ "`"
  | .text value => "string " ++ Text.quoted value
  | .sequence => "sequence"
  | .map => "map"

/-- The causes for which a JSON text is refused. -/
inductive Problem
  | unfinishedValue
  | unfinishedList
  | unfinishedObject
  | unfinishedString
  | expectedColon
  | expectedListEnd
  | expectedObjectEnd
  | expectedWord
  | expectedValue
  | invalidEscape
  | invalidNumber
  | numberOutOfRange
  | loneSurrogate
  | brokenSurrogatePair
  | controlCharacter
  | keyNotText
  | trailingComma
  | trailingCharacters
  | nestedTooDeep
  /-- A value of one kind stands where a map is wanted. -/
  | notMap (found : Found)
  /-- A key is not in the list of keys allowed. -/
  | unknownKey (key : String) (known : List String)
  /-- A value has none of the forms of a type. -/
  | noForm (type : String)
  deriving DecidableEq, Repr

/-- The wording of a cause. -/
def Problem.message : Problem → String
  | .unfinishedValue => "EOF while parsing a value"
  | .unfinishedList => "EOF while parsing a list"
  | .unfinishedObject => "EOF while parsing an object"
  | .unfinishedString => "EOF while parsing a string"
  | .expectedColon => "expected `:`"
  | .expectedListEnd => "expected `,` or `]`"
  | .expectedObjectEnd => "expected `,` or `\x7d`"
  | .expectedWord => "expected ident"
  | .expectedValue => "expected value"
  | .invalidEscape => "invalid escape"
  | .invalidNumber => "invalid number"
  | .numberOutOfRange => "number out of range"
  | .loneSurrogate => "lone leading surrogate in hex escape"
  | .brokenSurrogatePair => "unexpected end of hex escape"
  | .controlCharacter => "control character (\\u0000-\\u001F) found while parsing a string"
  | .keyNotText => "key must be a string"
  | .trailingComma => "trailing comma"
  | .trailingCharacters => "trailing characters"
  | .nestedTooDeep => "recursion limit exceeded"
  | .notMap found => "invalid type: " ++ found.describe ++ ", expected a map"
  | .unknownKey key known =>
    "unknown variant `" ++ key ++ "`, expected one of "
      ++ ", ".intercalate (known.map fun name => "`" ++ name ++ "`")
  | .noForm type => "data did not match any variant of untagged enum " ++ type

/-- A cause, and the number of bytes that were left when it was noticed. -/
structure Fault where
  problem : Problem
  left : Nat
  deriving DecidableEq, Repr

namespace Fault

/-- The cause noticed in front of what is left. -/
def before (problem : Problem) (rest : List Char) : Fault := ⟨problem, byteLength rest⟩

/-- The cause noticed at the first byte of what is left, and placed behind it. -/
def behind (problem : Problem) (rest : List Char) : Fault := ⟨problem, byteLength rest - 1⟩

/-- The line and the bytes on it that `count` bytes of a text lead to, from a given place. -/
def advance (line column : Nat) : Nat → List Char → Nat × Nat
  | 0, _ => (line, column)
  | _, [] => (line, column)
  | count, c :: rest =>
    if c = '\n' then advance (line + 1) 0 (count - 1) rest
    else advance line (column + min count c.utf8Size) (count - c.utf8Size) rest

/-- The wording of a fault in a text. -/
def message (fault : Fault) (text : String) : String :=
  let chars := text.toList
  let place := advance 1 0 (byteLength chars - fault.left) chars
  fault.problem.message ++ " at line " ++ toString place.1 ++ " column " ++ toString place.2

end Fault

end TermStore.Json
