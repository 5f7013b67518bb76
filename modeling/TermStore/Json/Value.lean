import TermStore.Json.Fault

/-!
# JSON values

The values of JSON texts, with the members of an object in the order of the text, and their
layout over several lines: two blanks a level, and nothing inside an empty list or object.
-/

namespace TermStore.Json

/-- A JSON value. -/
inductive Value
  | null
  | boolean (value : Bool)
  | number (value : Number)
  | text (value : String)
  | list (items : List Value)
  | object (members : List (String × Value))
  deriving Repr

/-- The kind that a message calls the value. -/
def Value.found : Value → Found
  | .null => .null
  | .boolean value => .boolean value
  | .number value => .number value
  | .text value => .text value
  | .list _ => .sequence
  | .object _ => .map

/-- The text that a value is, if it is one. -/
def Value.text? : Value → Option String
  | .text value => some value
  | _ => none

/-! ### Printing -/

/-- The lower case hexadecimal digit of a number below sixteen. -/
def hexDigit (n : Nat) : Char := if n < 10 then Char.ofNat (0x30 + n) else Char.ofNat (0x57 + n)

/-- The characters that write one character inside a JSON string. -/
def escapeChar (c : Char) : List Char :=
  if c = '"' then ['\\', '"']
  else if c = '\\' then ['\\', '\\']
  else if c = '\x08' then ['\\', 'b']
  else if c = '\t' then ['\\', 't']
  else if c = '\n' then ['\\', 'n']
  else if c = '\x0c' then ['\\', 'f']
  else if c = '\r' then ['\\', 'r']
  else if c.toNat < 0x20 then
    ['\\', 'u', '0', '0', hexDigit (c.toNat / 16), hexDigit (c.toNat % 16)]
  else [c]

/-- The characters that write a text inside a JSON string. -/
def escape (text : List Char) : List Char := text.flatMap escapeChar

/-- A JSON string. -/
def printText (text : String) : List Char := '"' :: (escape text.toList ++ ['"'])

/-- A number of a JSON text. -/
def Number.print : Number → List Char
  | .whole value => (toString value).toList
  | .floating negative magnitude =>
    (if negative then ['-'] else []) ++ magnitude.render.toList

/-- A line break and the blanks of a level. -/
def lineBreak (level : Nat) : List Char := '\n' :: List.replicate (2 * level) ' '

mutual

/-- The layout of a value that begins on a line of the given level. -/
def Value.print (level : Nat) : Value → List Char
  | .null => ['n', 'u', 'l', 'l']
  | .boolean true => ['t', 'r', 'u', 'e']
  | .boolean false => ['f', 'a', 'l', 's', 'e']
  | .number value => value.print
  | .text value => printText value
  | .list [] => ['[', ']']
  | .list (item :: items) =>
    '[' :: (lineBreak (level + 1) ++ (item.print (level + 1)
      ++ (printItems (level + 1) items ++ (lineBreak level ++ [']']))))
  | .object [] => ['{', '}']
  | .object ((key, value) :: members) =>
    '{' :: (lineBreak (level + 1) ++ (printText key ++ ':' :: ' ' :: (value.print (level + 1)
      ++ (printMembers (level + 1) members ++ (lineBreak level ++ ['}'])))))

/-- The layout of the items behind the first one. -/
def printItems (level : Nat) : List Value → List Char
  | [] => []
  | item :: items => ',' :: (lineBreak level ++ (item.print level ++ printItems level items))

/-- The layout of the members behind the first one. -/
def printMembers (level : Nat) : List (String × Value) → List Char
  | [] => []
  | (key, value) :: members =>
    ',' :: (lineBreak level ++ (printText key ++ ':' :: ' ' :: (value.print level
      ++ printMembers level members)))

end

/-- The layout of a value as a text of its own. -/
def Value.pretty (value : Value) : String := String.ofList (value.print 0)

end TermStore.Json
