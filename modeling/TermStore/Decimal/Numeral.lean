import TermStore.Decimal.Double
import TermStore.Decimal.Integer

/-!
# Decimal numerals

A numeral is a text that spells a number: a sign, digits with a point among them, and a power of
ten, each of which may be missing, though not all digits. ASCII blanks may surround it. Every
numeral has a value: the double nearest to what it spells.
-/

namespace TermStore.Decimal

/-- A numeral as its text spells it: the number `digits · 10 ^ exponent` with a sign. -/
structure Numeral where
  negative : Bool
  digits : List Nat
  exponent : Int
  /-- Whether it has neither a point nor a power of ten. -/
  isWhole : Bool
  deriving DecidableEq, Repr

namespace Numeral

/-- Is the character a blank that may surround a numeral? -/
def isSpace (c : Char) : Bool := c = ' ' || (0x09 ≤ c.toNat && c.toNat ≤ 0x0D)

/-- The text without the blanks at its two ends. -/
def unspaced (text : List Char) : List Char :=
  ((text.dropWhile isSpace).reverse.dropWhile isSpace).reverse

/-- Takes a sign off a text; true for a minus. -/
def takeSign : List Char → Bool × List Char
  | '-' :: rest => (true, rest)
  | '+' :: rest => (false, rest)
  | text => (false, text)

/-- Takes the digits off a text that it starts with. -/
def takeDigits : List Char → List Nat × List Char
  | [] => ([], [])
  | c :: rest =>
    match digit? c with
    | some d => (d :: (takeDigits rest).1, (takeDigits rest).2)
    | none => ([], c :: rest)

/-- The number that digits spell. -/
def ofDigits (digits : List Nat) : Nat := digits.foldl (fun value d => value * 10 + d) 0

/-- The power of ten that ends a numeral; zero where nothing is left to read. -/
def readPower : List Char → Option Int
  | [] => some 0
  | c :: rest =>
    if c = 'e' || c = 'E' then
      match takeDigits (takeSign rest).2 with
      | (d :: digits, []) => some (Double.signed (takeSign rest).1 (ofDigits (d :: digits)))
      | _ => none
    else none

/-- Takes a point and the digits behind it off a text; none where it does not start with one. -/
def takePlaces : List Char → Option (List Nat) × List Char
  | '.' :: rest => (some (takeDigits rest).1, (takeDigits rest).2)
  | text => (none, text)

/-- The numeral that a text is, if it is one. -/
def read? (text : List Char) : Option Numeral :=
  let (negative, text) := takeSign (unspaced text)
  let (whole, rest) := takeDigits text
  let (places, power) := takePlaces rest
  let behind := places.getD []
  if (whole ++ behind).isEmpty then none
  else
    (readPower power).map fun exponent =>
      { negative := negative, digits := whole ++ behind,
        exponent := exponent - behind.length,
        isWhole := places.isNone && power.isEmpty }

/-- The whole number that a numeral without point and power spells, if it has at most 64 bits. -/
def int64? (numeral : Numeral) : Option Int :=
  let value := Double.signed numeral.negative (ofDigits numeral.digits)
  if numeral.isWhole && fitsInt64 value then some value else none

/-- The double nearest to what a numeral spells. A number with its first digit more than 310
places before the point is infinite, and one with it more than 330 places behind is zero. -/
def toDouble (numeral : Numeral) : Double :=
  let digits := numeral.digits.dropWhile (· = 0)
  let first : Int := digits.length + numeral.exponent
  if digits.isEmpty || first < -330 then .finite numeral.negative .zero
  else if 310 < first then .infinite numeral.negative
  else if 0 ≤ numeral.exponent then
    .round numeral.negative (ofDigits digits * Nat.pow 10 numeral.exponent.toNat) 1
  else .round numeral.negative (ofDigits digits) (Nat.pow 10 (-numeral.exponent).toNat)

end Numeral

end TermStore.Decimal
