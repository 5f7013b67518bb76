import TermStore.Json.Value
import TermStore.Decimal.Integer

/-!
# Reading JSON texts

A reader takes the characters that are left and gives a value and the characters behind it, or
the fault that it met. Lists and maps are read through a reader for what they hold, so that the
reader of plain values and the readers of documents share one rule for commas and ends. Nesting
is bounded: the reader of values recurses on the number of levels that may still be opened.
-/

namespace TermStore.Json

open Text (byteLength)

/-- A reader of some kind of value from the front of a text. -/
abbrev Reader (α : Type) := List Char → Except Fault (α × List Char)

/-- The levels of lists and maps that a text may open inside each other. -/
def nestingRoom : Nat := 127

/-- Does JSON allow the character between tokens? -/
def isSpace (c : Char) : Bool := c = ' ' || c = '\n' || c = '\t' || c = '\r'

/-- What is left behind the blanks in front. -/
def skipSpace (text : List Char) : List Char := text.dropWhile isSpace

/-! ### Strings -/

/-- The value of a hexadecimal digit. -/
def hexValue? (c : Char) : Option Nat :=
  if '0' ≤ c && c ≤ '9' then some (c.toNat - 0x30)
  else if 'a' ≤ c && c ≤ 'f' then some (c.toNat - 0x57)
  else if 'A' ≤ c && c ≤ 'F' then some (c.toNat - 0x37)
  else none

/-- The value of four hexadecimal digits. -/
def hexUnit? (a b c d : Char) : Option Nat := do
  let a ← hexValue? a
  let b ← hexValue? b
  let c ← hexValue? c
  let d ← hexValue? d
  return ((a * 16 + b) * 16 + c) * 16 + d

/-- The fault of a numeric escape whose digits should begin here: four bytes are taken, if there
are four, before they are looked at. -/
def hexFault (rest : List Char) : Fault :=
  if byteLength rest < 4 then ⟨.unfinishedString, 0⟩ else ⟨.invalidEscape, byteLength rest - 4⟩

/-- The character that a letter behind a backslash stands for. -/
def shortEscape? (c : Char) : Option Char :=
  if c = '"' || c = '\\' || c = '/' then some c
  else if c = 'b' then some '\x08'
  else if c = 'f' then some '\x0c'
  else if c = 'n' then some '\n'
  else if c = 'r' then some '\r'
  else if c = 't' then some '\t'
  else none

/-- Puts a character in front of the text that was read. -/
def push (c : Char) (read : Except Fault (List Char × List Char)) :
    Except Fault (List Char × List Char) :=
  read.map fun r => (c :: r.1, r.2)

/-- Reads a string from behind its opening quote. -/
def readString : Reader (List Char)
  | [] => .error ⟨.unfinishedString, 0⟩
  | c :: rest =>
    if c = '"' then .ok ([], rest)
    else if c = '\\' then
      match rest with
      | [] => .error ⟨.unfinishedString, 0⟩
      | e :: rest =>
        if e = 'u' then
          match rest with
          | h₁ :: h₂ :: h₃ :: h₄ :: tail =>
            match hexUnit? h₁ h₂ h₃ h₄ with
            | none => .error (hexFault rest)
            | some unit =>
              if 0xDC00 ≤ unit && unit ≤ 0xDFFF then .error (.before .loneSurrogate tail)
              else if 0xD800 ≤ unit && unit ≤ 0xDBFF then
                match tail with
                | [] => .error ⟨.unfinishedString, 0⟩
                | b :: tail =>
                  if b = '\\' then
                    match tail with
                    | [] => .error ⟨.unfinishedString, 0⟩
                    | u :: tail =>
                      if u = 'u' then
                        match tail with
                        | t₁ :: t₂ :: t₃ :: t₄ :: tail' =>
                          match hexUnit? t₁ t₂ t₃ t₄ with
                          | none => .error (hexFault tail)
                          | some trail =>
                            if 0xDC00 ≤ trail && trail ≤ 0xDFFF then
                              push (Char.ofNat
                                ((unit - 0xD800) * 0x400 + (trail - 0xDC00) + 0x10000))
                                (readString tail')
                            else .error (.before .loneSurrogate tail')
                        | _ => .error (hexFault tail)
                      else .error (.behind .brokenSurrogatePair (u :: tail))
                  else .error (.behind .brokenSurrogatePair (b :: tail))
              else push (Char.ofNat unit) (readString tail)
          | _ => .error (hexFault rest)
        else
          match shortEscape? e with
          | some escaped => push escaped (readString rest)
          | none => .error (.behind .invalidEscape (e :: rest))
    else if c.toNat < 0x20 then .error (.behind .controlCharacter (c :: rest))
    else push c (readString rest)

/-! ### Numbers -/

/-- Ten to a power as a double; powers above 308 are not used. -/
def powerOfTen (n : Nat) : Decimal.Binary := (Decimal.Binary.round (Nat.pow 10 n) 1).getD .zero

/-- `value · 10 ^ exponent` by one product or quotient with a power of ten, after quotients with
`10 ^ 308` while the exponent is below `-308`: three of those leave nothing of a number below
`2 ^ 64`. None where the result would be infinite. -/
def scaleByTen? (value : Decimal.Binary) (exponent : Int) : Nat → Option Decimal.Binary
  | 0 => some .zero
  | steps + 1 =>
    if value.mantissa = 0 then some .zero
    else if 308 < exponent then none
    else if 0 ≤ exponent then value.mul? (powerOfTen exponent.toNat)
    else if -308 ≤ exponent then value.div? (powerOfTen (-exponent).toNat)
    else
      match value.div? (powerOfTen 308) with
      | none => none
      | some smaller => scaleByTen? smaller (exponent + 308) steps

/-- The floating number `significand · 10 ^ exponent`, noticed at the end of its text. -/
def floatNumber (negative : Bool) (significand : Nat) (exponent : Int) :
    Reader Number := fun rest =>
  match (Decimal.Binary.round significand 1).bind fun value => scaleByTen? value exponent 4 with
  | some magnitude => .ok (.floating negative magnitude, rest)
  | none => .error (.before .numberOutOfRange rest)

/-- Digits and what is behind them. -/
def takeDigits (text : List Char) : List Char × List Char :=
  (text.takeWhile Char.isDigit, text.dropWhile Char.isDigit)

/-- Adds digits to a significand while it stays below `2 ^ 64`; also the number of digits added
and the digits left over. -/
def addDigits (significand added : Nat) : List Char → Nat × Nat × List Char
  | [] => (significand, added, [])
  | c :: rest =>
    let next := significand * 10 + (c.toNat - '0'.toNat)
    if next ≤ Decimal.maxNat64 then addDigits next (added + 1) rest
    else (significand, added, c :: rest)

/-- Reads digits onto an exponent while it stays below `2 ^ 31`; the digits behind that are left. -/
def addExponent (value : Nat) : List Char → Nat × List Char
  | [] => (value, [])
  | c :: rest =>
    let next := value * 10 + (c.toNat - '0'.toNat)
    if next ≤ 2147483647 then addExponent next rest else (value, c :: rest)

/-- Reads an exponent from behind its letter. -/
def readExponent (negative : Bool) (significand : Nat) (exponent : Int) :
    Reader Number := fun text =>
  let (down, text) :=
    match text with
    | '+' :: rest => (false, rest)
    | '-' :: rest => (true, rest)
    | _ => (false, text)
  match text with
  | [] => .error ⟨.unfinishedValue, 0⟩
  | c :: rest =>
    if c.isDigit then
      let (digits, rest) := takeDigits (c :: rest)
      match addExponent 0 digits with
      | (value, []) =>
        floatNumber negative significand (if down then exponent - value else exponent + value) rest
      | (_, _ :: excess) =>
        if significand ≠ 0 && !down then .error (.before .numberOutOfRange (excess ++ rest))
        else .ok (.floating negative .zero, rest)
    else .error (.behind .invalidNumber (c :: rest))

/-- Reads what may follow the digits of a floating number: an exponent or nothing. -/
def readScale (negative : Bool) (significand : Nat) (exponent : Int) : Reader Number
  | [] => floatNumber negative significand exponent []
  | c :: rest =>
    if c = 'e' || c = 'E' then readExponent negative significand exponent rest
    else floatNumber negative significand exponent (c :: rest)

/-- Reads the places behind a point. -/
def readPlaces (negative : Bool) (significand : Nat) (exponent : Int) : Reader Number := fun text =>
  match takeDigits text with
  | ([], []) => .error ⟨.unfinishedValue, 0⟩
  | ([], rest) => .error (.behind .invalidNumber rest)
  | (digits, rest) =>
    let (significand, added, _) := addDigits significand 0 digits
    readScale negative significand (exponent - added) rest

/-- Reads the rest of a number from behind its whole digits. -/
def readFraction (negative : Bool) (significand : Nat) (exponent : Int) : Reader Number
  | '.' :: rest => readPlaces negative significand exponent rest
  | rest => readScale negative significand exponent rest

/-- The whole number that some digits spell, where neither point nor exponent follows them. -/
def wholeNumber (negative : Bool) (significand : Nat) : Number :=
  if negative then
    if significand = 0 || Decimal.maxInt64 + 1 < significand then
      .floating true ((Decimal.Binary.round significand 1).getD .zero)
    else .whole (-(significand : Int))
  else .whole significand

/-- Reads a number from behind its sign. -/
def readNumber (negative : Bool) : Reader Number
  | [] => .error ⟨.unfinishedValue, 0⟩
  | c :: rest =>
    if c = '0' && (rest.head?.map Char.isDigit).getD false then
      .error (.behind .invalidNumber rest)
    else if c.isDigit then
      let (digits, rest) := if c = '0' then (['0'], rest) else takeDigits (c :: rest)
      match addDigits 0 0 digits with
      | (significand, _, []) =>
        match rest with
        | '.' :: _ | 'e' :: _ | 'E' :: _ => readFraction negative significand 0 rest
        | _ => .ok (wholeNumber negative significand, rest)
      | (significand, _, excess) => readFraction negative significand excess.length rest
    else .error (.behind .invalidNumber (c :: rest))

/-! ### Words, lists and maps -/

/-- Reads the rest of a word such as `true`. -/
def readWord {α : Type} (value : α) : List Char → Reader α
  | [], rest => .ok (value, rest)
  | _ :: _, [] => .error ⟨.unfinishedValue, 0⟩
  | w :: word, c :: rest =>
    if c = w then readWord value word rest else .error (.behind .expectedWord (c :: rest))

/-- Reads the items behind the first one, up to and with the closing bracket. Each item has a
comma in front, so the characters left bound their number. -/
def readItems {α : Type} (item : Reader α) : Nat → Reader (List α)
  | 0, rest => .error (.before .unfinishedList rest)
  | bound + 1, text =>
    match skipSpace text with
    | [] => .error ⟨.unfinishedList, 0⟩
    | c :: rest =>
      if c = ']' then .ok ([], rest)
      else if c = ',' then
        match skipSpace rest with
        | [] => .error ⟨.unfinishedValue, 0⟩
        | d :: rest =>
          if d = ']' then .error (.behind .trailingComma (d :: rest))
          else do
            let (first, rest) ← item (d :: rest)
            let (others, rest) ← readItems item bound rest
            return (first :: others, rest)
      else .error (.behind .expectedListEnd (c :: rest))

/-- Reads a list from behind its opening bracket. -/
def readList {α : Type} (item : Reader α) : Reader (List α) := fun text =>
  match skipSpace text with
  | [] => .error ⟨.unfinishedList, 0⟩
  | c :: rest =>
    if c = ']' then .ok ([], rest)
    else do
      let (first, rest) ← item (c :: rest)
      let (others, rest) ← readItems item rest.length rest
      return (first :: others, rest)

/-- Reads a member from behind the opening quote of its key. The key is looked at before the
colon. -/
def readMember {κ α : Type} (key : String → Option κ) (refusal : String → Problem)
    (value : Reader α) : Reader (κ × α) := fun text => do
  let (name, rest) ← readString text
  let name := String.ofList name
  match key name with
  | none => .error (.before (refusal name) rest)
  | some name =>
    match skipSpace rest with
    | [] => .error ⟨.unfinishedObject, 0⟩
    | c :: rest =>
      if c = ':' then do
        let (content, rest) ← value rest
        return ((name, content), rest)
      else .error (.behind .expectedColon (c :: rest))

/-- Reads the members behind the first one, up to and with the closing brace. -/
def readMembers {α : Type} (member : Reader α) : Nat → Reader (List α)
  | 0, rest => .error (.before .unfinishedObject rest)
  | bound + 1, text =>
    match skipSpace text with
    | [] => .error ⟨.unfinishedObject, 0⟩
    | c :: rest =>
      if c = '}' then .ok ([], rest)
      else if c = ',' then
        match skipSpace rest with
        | [] => .error ⟨.unfinishedValue, 0⟩
        | d :: rest =>
          if d = '"' then do
            let (first, rest) ← member rest
            let (others, rest) ← readMembers member bound rest
            return (first :: others, rest)
          else if d = '}' then .error (.behind .trailingComma (d :: rest))
          else .error (.behind .keyNotText (d :: rest))
      else .error (.behind .expectedObjectEnd (c :: rest))

/-- Reads a map from behind its opening brace. -/
def readMap {α : Type} (member : Reader α) : Reader (List α) := fun text =>
  match skipSpace text with
  | [] => .error ⟨.unfinishedObject, 0⟩
  | c :: rest =>
    if c = '}' then .ok ([], rest)
    else if c = '"' then do
      let (first, rest) ← member rest
      let (others, rest) ← readMembers member rest.length rest
      return (first :: others, rest)
    else .error (.behind .keyNotText (c :: rest))

/-! ### Values -/

/-- Reads a value that is neither a list nor a map; the text begins with its first character. -/
def readPlain (c : Char) (rest : List Char) : Except Fault (Value × List Char) :=
  if c = 'n' then readWord .null ['u', 'l', 'l'] rest
  else if c = 't' then readWord (.boolean true) ['r', 'u', 'e'] rest
  else if c = 'f' then readWord (.boolean false) ['a', 'l', 's', 'e'] rest
  else if c = '"' then (readString rest).map fun r => (.text (String.ofList r.1), r.2)
  else if c = '-' then (readNumber true rest).map fun r => (.number r.1, r.2)
  else if c.isDigit then (readNumber false (c :: rest)).map fun r => (.number r.1, r.2)
  else .error (.behind .expectedValue (c :: rest))

/-- Reads a value in which `room` levels may still be opened. -/
def readValue : (room : Nat) → Reader Value
  | room, text =>
    match skipSpace text with
    | [] => .error ⟨.unfinishedValue, 0⟩
    | c :: rest =>
      if c = '[' then
        match room with
        | 0 => .error (.behind .nestedTooDeep (c :: rest))
        | room + 1 => (readList (readValue room) rest).map fun r => (.list r.1, r.2)
      else if c = '{' then
        match room with
        | 0 => .error (.behind .nestedTooDeep (c :: rest))
        | room + 1 =>
          (readMap (readMember some (fun _ => .keyNotText) (readValue room)) rest).map fun r =>
            (.object r.1, r.2)
      else readPlain c rest

/-- Reads a map where a map is wanted. A plain value is read first, so that a fault inside it
comes before the complaint about its kind. -/
def readWantedMap {α : Type} (room : Nat) (member : (room : Nat) → Reader α) :
    Reader (List α) := fun text =>
  match skipSpace text with
  | [] => .error ⟨.unfinishedValue, 0⟩
  | c :: rest =>
    if c = '{' then
      match room with
      | 0 => .error (.behind .nestedTooDeep (c :: rest))
      | room + 1 => readMap (member room) rest
    else if c = '[' then .error (.before (.notMap .sequence) (c :: rest))
    else do
      let (value, rest) ← readPlain c rest
      .error (.before (.notMap value.found) rest)

/-- Reads a whole text: only blanks may follow the value. -/
def readWhole {α : Type} (read : Reader α) (text : List Char) : Except Fault α := do
  let (value, rest) ← read text
  match skipSpace rest with
  | [] => return value
  | c :: rest => .error (.behind .trailingCharacters (c :: rest))

end TermStore.Json
