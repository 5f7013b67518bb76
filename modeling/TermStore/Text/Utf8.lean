/-!
# Reading bytes as UTF-8

`decode` reads a byte sequence as text. Where the bytes are not UTF-8 it says at which byte the
first character that cannot be read begins, and how many bytes of it could still have begun a
character: a sequence that merely stops too early has no such number. The ranges of the second
byte shut out overlong forms, surrogates and code points above U+10FFFF.
-/

namespace TermStore.Text.Utf8

/-- Why some bytes are not UTF-8. -/
inductive Fault
  /-- The `width` bytes from `index` on begin no character. -/
  | malformed (index width : Nat)
  /-- The bytes from `index` on begin a character and stop before its end. -/
  | incomplete (index : Nat)
  deriving DecidableEq, Repr

/-- The wording of a fault. -/
def Fault.message : Fault → String
  | .malformed index width =>
    "invalid utf-8 sequence of " ++ toString width ++ " bytes from index " ++ toString index
  | .incomplete index => "incomplete utf-8 byte sequence from index " ++ toString index

/-- Is the byte one that continues a character? -/
def isTail (b : UInt8) : Bool := 0x80 ≤ b && b ≤ 0xBF

/-- May `second` follow `lead` in a character of three bytes? -/
def startsThree (lead second : UInt8) : Bool :=
  if lead == 0xE0 then 0xA0 ≤ second && second ≤ 0xBF
  else if lead == 0xED then 0x80 ≤ second && second ≤ 0x9F
  else isTail second

/-- May `second` follow `lead` in a character of four bytes? -/
def startsFour (lead second : UInt8) : Bool :=
  if lead == 0xF0 then 0x90 ≤ second && second ≤ 0xBF
  else if lead == 0xF4 then 0x80 ≤ second && second ≤ 0x8F
  else isTail second

/-- The six payload bits of a byte that continues a character. -/
def payload (b : UInt8) : Nat := b.toNat % 0x40

/-- Reads characters from the byte at `index` on. -/
def decodeFrom (index : Nat) : List UInt8 → Except Fault (List Char)
  | [] => .ok []
  | a :: rest =>
    if a < 0x80 then
      (decodeFrom (index + 1) rest).map (Char.ofNat a.toNat :: ·)
    else if 0xC2 ≤ a && a ≤ 0xDF then
      match rest with
      | [] => .error (.incomplete index)
      | b :: rest =>
        if isTail b then
          (decodeFrom (index + 2) rest).map
            (Char.ofNat (a.toNat % 0x20 * 0x40 + payload b) :: ·)
        else .error (.malformed index 1)
    else if 0xE0 ≤ a && a ≤ 0xEF then
      match rest with
      | [] => .error (.incomplete index)
      | b :: rest =>
        if startsThree a b then
          match rest with
          | [] => .error (.incomplete index)
          | c :: rest =>
            if isTail c then
              (decodeFrom (index + 3) rest).map
                (Char.ofNat ((a.toNat % 0x10 * 0x40 + payload b) * 0x40 + payload c) :: ·)
            else .error (.malformed index 2)
        else .error (.malformed index 1)
    else if 0xF0 ≤ a && a ≤ 0xF4 then
      match rest with
      | [] => .error (.incomplete index)
      | b :: rest =>
        if startsFour a b then
          match rest with
          | [] => .error (.incomplete index)
          | c :: rest =>
            if isTail c then
              match rest with
              | [] => .error (.incomplete index)
              | d :: rest =>
                if isTail d then
                  (decodeFrom (index + 4) rest).map
                    (Char.ofNat (((a.toNat % 0x08 * 0x40 + payload b) * 0x40 + payload c) * 0x40
                      + payload d) :: ·)
                else .error (.malformed index 3)
            else .error (.malformed index 2)
        else .error (.malformed index 1)
    else .error (.malformed index 1)

/-- The text that the bytes spell. -/
def decode (bytes : List UInt8) : Except Fault String :=
  (decodeFrom 0 bytes).map String.ofList

/-- The bytes that spell the text. -/
def encode (text : String) : List UInt8 := text.toUTF8.toList

end TermStore.Text.Utf8
