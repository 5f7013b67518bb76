import TermStore.Toml.Value
import TermStore.Decimal.Binary
import TermStore.Decimal.Integer

/-!
# Reading TOML

A reader takes the characters that are left and gives a value and the characters behind it, or
nothing where the text is not TOML 1.0. Brackets may be nested to a bounded depth, on which the
reader of values recurses; loops over characters and lines are bounded by what is left.
-/

namespace TermStore.Toml

/-- A reader of some kind of thing from the front of a text. -/
abbrev Reader (α : Type) := List Char → Option (α × List Char)

/-- The levels of brackets that may be opened inside each other. -/
def nestingRoom : Nat := 79

/-- Dotted keys have fewer parts than this. -/
def keyRoom : Nat := 80

/-! ### Characters -/

/-- A blank within a line. -/
def isSpace (c : Char) : Bool := c = ' ' || c = '\t'

/-- What is left behind the blanks in front. -/
def skipSpace (text : List Char) : List Char := text.dropWhile isSpace

/-- May the character stand in a comment or a quoted text? Controls other than the tab may not. -/
def isPrintable (c : Char) : Bool := c = '\t' || (0x20 ≤ c.toNat && c.toNat ≠ 0x7F)

/-- May the character stand in a bare key? -/
def isBare (c : Char) : Bool := c.isAlphanum || c = '-' || c = '_'

/-- Reads a line break. -/
def readBreak : List Char → Option (List Char)
  | '\n' :: rest => some rest
  | '\r' :: '\n' :: rest => some rest
  | _ => none

/-- What is left behind a comment, if there is one. -/
def skipComment : List Char → List Char
  | '#' :: rest => rest.dropWhile isPrintable
  | rest => rest

/-- Reads the end of a line: blanks, a comment, and a line break or the end of the text. -/
def readLineEnd (text : List Char) : Option (List Char) :=
  match skipComment (skipSpace text) with
  | [] => some []
  | rest => readBreak rest

/-- What is left behind blanks, comments and line breaks; each step takes at least one
character. -/
def skipLines : (bound : Nat) → List Char → List Char
  | 0, text => text
  | bound + 1, text =>
    let rest := skipComment (skipSpace text)
    match readBreak rest with
    | some rest => skipLines bound rest
    | none => rest

/-! ### Texts -/

/-- The value of a hexadecimal digit. -/
def hexValue? (c : Char) : Option Nat :=
  if '0' ≤ c && c ≤ '9' then some (c.toNat - 0x30)
  else if 'a' ≤ c && c ≤ 'f' then some (c.toNat - 0x57)
  else if 'A' ≤ c && c ≤ 'F' then some (c.toNat - 0x37)
  else none

/-- The character of a code point given in `count` hexadecimal digits. -/
def readCodePoint (count : Nat) (text : List Char) : Option (Char × List Char) := do
  let digits := text.take count
  if digits.length < count then none
  else
    let code ← digits.foldlM (fun code c => (hexValue? c).map (code * 16 + ·)) 0
    if (code < 0xD800 || 0xDFFF < code) && code < 0x110000 then
      some (Char.ofNat code, text.drop count)
    else none

/-- Reads an escape from behind its backslash. -/
def readEscape : Reader Char
  | 'b' :: rest => some ('\x08', rest)
  | 't' :: rest => some ('\t', rest)
  | 'n' :: rest => some ('\n', rest)
  | 'f' :: rest => some ('\x0c', rest)
  | 'r' :: rest => some ('\r', rest)
  | '"' :: rest => some ('"', rest)
  | '\\' :: rest => some ('\\', rest)
  | 'u' :: rest => readCodePoint 4 rest
  | 'U' :: rest => readCodePoint 8 rest
  | _ => none

/-- Reads a text in double quotes from behind the opening one. -/
def readBasic : (bound : Nat) → Reader (List Char)
  | 0, _ => none
  | _, [] => none
  | bound + 1, c :: rest =>
    if c = '"' then some ([], rest)
    else if c = '\\' then do
      let (e, rest) ← readEscape rest
      let (more, rest) ← readBasic bound rest
      return (e :: more, rest)
    else if isPrintable c then do
      let (more, rest) ← readBasic bound rest
      return (c :: more, rest)
    else none

/-- Reads a text in single quotes from behind the opening one. -/
def readLiteral (text : List Char) : Option (List Char × List Char) :=
  let inner := text.takeWhile fun c => c ≠ '\'' && isPrintable c
  match text.drop inner.length with
  | '\'' :: rest => some (inner, rest)
  | _ => none

/-- What is left behind blanks and line breaks. -/
def skipBlankLines : (bound : Nat) → List Char → List Char
  | 0, text => text
  | bound + 1, text =>
    match readBreak (skipSpace text) with
    | some rest => skipBlankLines bound rest
    | none => skipSpace text

/-- Reads a text over several lines up to three quotes. One or two quotes may stand inside, also
right in front of the closing three. Only double quotes have escapes; a backslash at the end of a
line takes the blanks and line breaks behind it away. -/
def readLong (quote : Char) : (bound : Nat) → Reader (List Char)
  | 0, _ => none
  | _, [] => none
  | bound + 1, c :: rest =>
    if c = quote then
      let run := (c :: rest).takeWhile (· = quote)
      let behind := (c :: rest).drop run.length
      if 6 ≤ run.length then none
      else if 3 ≤ run.length then some (List.replicate (run.length - 3) quote, behind)
      else do
        let (more, behind) ← readLong quote bound behind
        return (run ++ more, behind)
    else if c = '\\' && quote = '"' then
      match readBreak (skipSpace rest) with
      | some _ => readLong quote bound (skipBlankLines rest.length rest)
      | none => do
        let (e, rest) ← readEscape rest
        let (more, rest) ← readLong quote bound rest
        return (e :: more, rest)
    else if isPrintable c then do
      let (more, rest) ← readLong quote bound rest
      return (c :: more, rest)
    else
      match readBreak (c :: rest) with
      | some rest => do
        let (more, rest) ← readLong quote bound rest
        return ('\n' :: more, rest)
      | none => none

/-- A text without a line break right at its start. -/
def dropFirstBreak (text : List Char) : List Char := (readBreak text).getD text

/-- Reads a quoted text. -/
def readText : Reader String
  | '"' :: '"' :: '"' :: rest =>
    (readLong '"' rest.length (dropFirstBreak rest)).map fun r => (String.ofList r.1, r.2)
  | '\'' :: '\'' :: '\'' :: rest =>
    (readLong '\'' rest.length (dropFirstBreak rest)).map fun r => (String.ofList r.1, r.2)
  | '"' :: rest => (readBasic rest.length rest).map fun r => (String.ofList r.1, r.2)
  | '\'' :: rest => (readLiteral rest).map fun r => (String.ofList r.1, r.2)
  | _ => none

/-! ### Keys -/

/-- Reads one part of a key. -/
def readKeyPart : Reader String
  | '"' :: rest => (readBasic rest.length rest).map fun r => (String.ofList r.1, r.2)
  | '\'' :: rest => (readLiteral rest).map fun r => (String.ofList r.1, r.2)
  | text =>
    match text.takeWhile isBare with
    | [] => none
    | bare => some (String.ofList bare, text.drop bare.length)

/-- Reads the further parts of a dotted key. -/
def readKeyRest : (bound : Nat) → Reader (List String)
  | 0, text => some ([], text)
  | bound + 1, text =>
    match skipSpace text with
    | '.' :: rest => do
      let (part, rest) ← readKeyPart (skipSpace rest)
      let (parts, rest) ← readKeyRest bound rest
      return (part :: parts, rest)
    | _ => some ([], text)

/-- Reads a key: its parts but the last one, and the last one. -/
def readKey : Reader (List String × String) := fun text => do
  let (first, rest) ← readKeyPart (skipSpace text)
  let (others, rest) ← readKeyRest rest.length rest
  let parts := first :: others
  if keyRoom ≤ parts.length then none
  else return ((parts.dropLast, parts.getLastD first), skipSpace rest)

/-! ### Numbers -/

/-- Reads digits of some base with single underscores between them. -/
def readDigits (isDigit : Char → Bool) : (bound : Nat) → Reader (List Char)
  | 0, _ => none
  | _, [] => none
  | bound + 1, c :: rest =>
    if isDigit c then
      match rest with
      | '_' :: rest => do
        let (more, rest) ← readDigits isDigit bound rest
        return (c :: more, rest)
      | d :: _ =>
        if isDigit d then do
          let (more, rest) ← readDigits isDigit bound rest
          return (c :: more, rest)
        else some ([c], rest)
      | [] => some ([c], [])
    else none

/-- The number that digits of a base spell. -/
def numberOf (base : Nat) (digits : List Char) : Nat :=
  digits.foldl (fun n c => n * base + (hexValue? c).getD 0) 0

/-- Reads a whole number of a base from behind its mark. -/
def readBased (base : Nat) (isDigit : Char → Bool) : Reader Value := fun text => do
  let (digits, rest) ← readDigits isDigit text.length text
  let value := numberOf base digits
  if value ≤ Decimal.maxInt64 then return (.integer value, rest) else none

/-- Reads a sign; is it a minus? -/
def readSign : List Char → Bool × List Char
  | '+' :: rest => (false, rest)
  | '-' :: rest => (true, rest)
  | text => (false, text)

/-- Reads the whole digits of a decimal number: a zero stands alone. -/
def readWhole : Reader (List Char)
  | '0' :: rest => some (['0'], rest)
  | text => readDigits Char.isDigit text.length text

/-- Reads the places behind a point, if there is one. -/
def readPlaces : Reader (List Char)
  | '.' :: rest => readDigits Char.isDigit rest.length rest
  | text => some ([], text)

/-- Reads an exponent, if there is one. -/
def readExponent : Reader (Option Int)
  | [] => some (none, [])
  | c :: rest =>
    if c = 'e' || c = 'E' then do
      let (negative, rest) := readSign rest
      let (digits, rest) ← readDigits Char.isDigit rest.length rest
      let value : Int := numberOf 10 digits
      return (some (if negative then -value else value), rest)
    else some (none, c :: rest)

/-- Is `digits · 10 ^ exponent` too large for a double? -/
def isInfinite (digits : List Char) (exponent : Int) : Bool :=
  let significant := digits.dropWhile (· = '0')
  let size := significant.length + exponent
  if significant.isEmpty || size < -400 then false
  else if 400 < size then true
  else
    let value := numberOf 10 significant
    (if 0 ≤ exponent then Decimal.Binary.round (value * Nat.pow 10 exponent.toNat) 1
      else Decimal.Binary.round value (Nat.pow 10 (-exponent).toNat)).isNone

/-- Reads a decimal number, whole or floating. -/
def readDecimal : Reader Value := fun text => do
  let (negative, text) := readSign text
  let (whole, text) ← readWhole text
  let (places, text) ← readPlaces text
  let (exponent, text) ← readExponent text
  if places.isEmpty && exponent.isNone then
    let value := numberOf 10 whole
    if negative then
      if value ≤ Decimal.maxInt64 + 1 then return (.integer (-(value : Int)), text) else none
    else if value ≤ Decimal.maxInt64 then return (.integer value, text) else none
  else if !negative && isInfinite (whole ++ places) (exponent.getD 0 - places.length) then none
  else return (.floating, text)

/-- Reads an infinity or a not-a-number from behind its sign. -/
def readSpecial : Reader Value
  | 'i' :: 'n' :: 'f' :: rest => some (.floating, rest)
  | 'n' :: 'a' :: 'n' :: rest => some (.floating, rest)
  | _ => none

/-! ### Dates and times -/

/-- Reads a number of exactly `count` digits between two bounds. -/
def readFixed (count low high : Nat) : Reader Nat := fun text =>
  let digits := text.take count
  let value := numberOf 10 digits
  if digits.length = count && digits.all Char.isDigit && low ≤ value && value ≤ high then
    some (value, text.drop count)
  else none

/-- Reads one given character. -/
def readChar (c : Char) : List Char → Option (List Char)
  | [] => none
  | d :: rest => if d = c then some rest else none

/-- The number of days of a month. -/
def daysOf (year month : Nat) : Nat :=
  if month = 2 then
    if year % 4 = 0 && (year % 100 ≠ 0 || year % 400 = 0) then 29 else 28
  else if month = 4 || month = 6 || month = 9 || month = 11 then 30 else 31

/-- Reads a date. -/
def readDate (text : List Char) : Option (List Char) := do
  let (year, text) ← readFixed 4 0 9999 text
  let (month, text) ← readFixed 2 1 12 (← readChar '-' text)
  let (_, text) ← readFixed 2 1 (daysOf year month) (← readChar '-' text)
  return text

/-- Reads a time of day. -/
def readTime (text : List Char) : Option (List Char) := do
  let (_, text) ← readFixed 2 0 23 text
  let (_, text) ← readFixed 2 0 59 (← readChar ':' text)
  let (_, text) ← readFixed 2 0 60 (← readChar ':' text)
  match text with
  | '.' :: rest =>
    match rest.takeWhile Char.isDigit with
    | [] => return text
    | places => return rest.drop places.length
  | _ => return text

/-- Reads the distance of a time from the universal one. -/
def readOffset : List Char → Option (List Char)
  | 'Z' :: rest => some rest
  | 'z' :: rest => some rest
  | c :: rest =>
    if c = '+' || c = '-' then do
      let (_, rest) ← readFixed 2 0 23 rest
      let (_, rest) ← readFixed 2 0 59 (← readChar ':' rest)
      return rest
    else none
  | [] => none

/-- Reads a date, a time or both. -/
def readMoment : Reader Value := fun text =>
  match readDate text with
  | some rest =>
    let time := match rest with
      | c :: rest => if c = 'T' || c = 't' || c = ' ' then readTime rest else none
      | [] => none
    match time with
    | some rest => some (.moment, (readOffset rest).getD rest)
    | none => some (.moment, rest)
  | none => (readTime text).map fun rest => (.moment, rest)

/-- Reads a number, a date or a time. -/
def readNumber : Reader Value := fun text =>
  match readMoment text with
  | some result => some result
  | none =>
    match text with
    | '0' :: 'x' :: rest => readBased 16 (fun c => (hexValue? c).isSome) rest
    | '0' :: 'o' :: rest => readBased 8 (fun c => '0' ≤ c && c ≤ '7') rest
    | '0' :: 'b' :: rest => readBased 2 (fun c => c = '0' || c = '1') rest
    | _ => (readSpecial (readSign text).2).or (readDecimal text)

/-! ### Values -/

/-- Reads the items of a list from behind its bracket, or from behind a comma. -/
def readItems (item : Reader Value) : (bound : Nat) → Reader (List Value)
  | 0, _ => none
  | bound + 1, text =>
    match skipLines text.length text with
    | ']' :: rest => some ([], rest)
    | text => do
      let (value, rest) ← item text
      match skipLines rest.length rest with
      | ']' :: rest => return ([value], rest)
      | ',' :: rest =>
        let (values, rest) ← readItems item bound rest
        return (value :: values, rest)
      | _ => none

/-- Reads a key, the sign of equality and a value. -/
def readPair (item : Reader Value) : Reader ((List String × String) × Value) := fun text => do
  let (key, rest) ← readKey text
  let (value, rest) ← item (skipSpace (← readChar '=' rest))
  return ((key, value), rest)

/-- Reads the pairs of a table on one line, up to and with its closing brace. -/
def readPairs (item : Reader Value) : (bound : Nat) → Entries → Reader Entries
  | 0, _, _ => none
  | bound + 1, entries, text => do
    let ((key, value), rest) ← readPair item text
    let entries ← putValue key.1 key.2 value entries
    match skipSpace rest with
    | '}' :: rest => return (entries, rest)
    | ',' :: rest => readPairs item bound entries rest
    | _ => none

/-- Reads a value in which `room` levels of brackets may still be opened. -/
def readValue : (room : Nat) → Reader Value
  | _, [] => none
  | room, c :: rest =>
    if c = '"' || c = '\'' then (readText (c :: rest)).map fun r => (.text r.1, r.2)
    else if c = '[' then
      match room with
      | 0 => none
      | room + 1 => (readItems (readValue room) rest.length rest).map fun r => (.list r.1, r.2)
    else if c = '{' then
      match room with
      | 0 => none
      | room + 1 =>
        match skipSpace rest with
        | '}' :: rest => some (.table [], rest)
        | rest =>
          (readPairs (readValue room) rest.length [] rest).map fun r =>
            (.table (entriesToValues r.1), r.2)
    else
      match c :: rest with
      | 't' :: 'r' :: 'u' :: 'e' :: rest => some (.boolean true, rest)
      | 'f' :: 'a' :: 'l' :: 's' :: 'e' :: rest => some (.boolean false, rest)
      | text => readNumber text

/-! ### Documents -/

/-- A document while it is read: its tables, and the path of the one that is open. -/
structure Draft where
  root : Entries
  current : List String

/-- Reads a header from behind its first bracket. -/
def readHeader (draft : Draft) (text : List Char) : Option (Draft × List Char) := do
  match text with
  | '[' :: rest =>
    let (key, rest) ← readKey rest
    let rest ← readChar ']' (← readChar ']' rest)
    let root ← openOneMore key.1 key.2 draft.root
    return (⟨root, key.1 ++ [key.2]⟩, rest)
  | _ =>
    let (key, rest) ← readKey text
    let rest ← readChar ']' rest
    let root ← openTable key.1 key.2 draft.root
    return (⟨root, key.1 ++ [key.2]⟩, rest)

/-- Reads what a line holds besides blanks and comments. -/
def readExpression (draft : Draft) (text : List Char) : Option (Draft × List Char) := do
  match text with
  | '[' :: rest => readHeader draft rest
  | _ =>
    let ((key, value), rest) ← readPair (readValue nestingRoom) text
    let root ← descend false (fun _ entries => putValue key.1 key.2 value entries) false
      draft.current draft.root
    return ({ draft with root := root }, rest)

/-- Reads the lines of a document. Each line is at least a character. -/
def readLines : (bound : Nat) → Draft → List Char → Option Draft
  | 0, draft, text => if text.isEmpty then some draft else none
  | bound + 1, draft, text =>
    match skipSpace text with
    | [] => some draft
    | c :: rest =>
      if c = '#' || c = '\n' || c = '\r' then do
        readLines bound draft (← readLineEnd (c :: rest))
      else do
        let (draft, rest) ← readExpression draft (c :: rest)
        readLines bound draft (← readLineEnd rest)

/-- The entries of a document; a byte order mark may lead. -/
def parse? (text : String) : Option (List (String × Value)) :=
  let chars := match text.toList with
    | '\ufeff' :: rest => rest
    | chars => chars
  (readLines chars.length ⟨[], []⟩ chars).map fun draft => entriesToValues draft.root

end TermStore.Toml
