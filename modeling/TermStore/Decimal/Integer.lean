/-!
# Reading whole numbers

A whole number is read from left to right, and the first thing that goes wrong decides: a
character that is no digit, or a digit that takes the value past the limit.
-/

namespace TermStore.Decimal

/-- The largest value of a signed number of 64 bits. -/
def maxInt64 : Nat := 9223372036854775807

/-- The largest value of an unsigned number of 64 bits. -/
def maxNat64 : Nat := 18446744073709551615

/-- Is the value one of the signed numbers of 64 bits? -/
def fitsInt64 (value : Int) : Bool := -((maxInt64 : Int) + 1) ≤ value && value ≤ (maxInt64 : Int)

/-- Why a text is no number. -/
inductive Fault
  /-- A character is not a digit, or a sign stands alone. -/
  | invalidDigit
  /-- The text has no character. -/
  | empty
  /-- The number is above the largest one allowed. -/
  | tooLarge
  /-- The number is below the smallest one allowed. -/
  | tooSmall
  deriving DecidableEq, Repr

/-- The wording of a fault. -/
def Fault.message : Fault → String
  | .invalidDigit => "invalid digit found in string"
  | .empty => "cannot parse integer from empty string"
  | .tooLarge => "number too large to fit in target type"
  | .tooSmall => "number too small to fit in target type"

/-- The value of an ASCII digit. -/
def digit? (c : Char) : Option Nat :=
  if '0' ≤ c && c ≤ '9' then some (c.toNat - '0'.toNat) else none

/-- Reads digits onto the value read so far; `excess` is the fault of passing `limit`. -/
def readDigits (limit : Nat) (excess : Fault) : Nat → List Char → Except Fault Nat
  | value, [] => .ok value
  | value, c :: rest =>
    match digit? c with
    | none => .error .invalidDigit
    | some d =>
      if value * 10 + d ≤ limit then readDigits limit excess (value * 10 + d) rest
      else .error excess

/-- Reads an unsigned number of at most `limit`; a plus sign may lead. -/
def readNat (limit : Nat) : List Char → Except Fault Nat
  | [] => .error .empty
  | '+' :: [] => .error .invalidDigit
  | '+' :: digits => readDigits limit .tooLarge 0 digits
  | digits => readDigits limit .tooLarge 0 digits

/-- Reads a signed number of 64 bits; a plus or a minus sign may lead. -/
def readInt : List Char → Except Fault Int
  | [] => .error .empty
  | '+' :: [] => .error .invalidDigit
  | '-' :: [] => .error .invalidDigit
  | '-' :: digits =>
    (readDigits (maxInt64 + 1) .tooSmall 0 digits).map fun value => -(value : Int)
  | '+' :: digits => (readDigits maxInt64 .tooLarge 0 digits).map fun value => (value : Int)
  | digits => (readDigits maxInt64 .tooLarge 0 digits).map fun value => (value : Int)

end TermStore.Decimal
