import TermStore.Decimal.Binary

/-!
# The shortest decimal form of a double

Of the decimals that round to a double, the form with the fewest digits is written, and of those
the nearest. `shortest` tries one digit, two digits and so on: on each decimal grid only the two
neighbours of the value can be candidates, since a grid point that rounds to the double cannot be
farther away than both of them.
-/

namespace TermStore.Decimal

/-- A decimal number `digits · 10 ^ exponent`. -/
structure Scientific where
  digits : Nat
  exponent : Int
  deriving DecidableEq, Repr

/-- The fraction `num · 10 ^ shift / den` as numerator and denominator. -/
def scaleTen (num den : Nat) (shift : Int) : Nat × Nat :=
  if 0 ≤ shift then (num * Nat.pow 10 shift.toNat, den) else (num, den * Nat.pow 10 (-shift).toNat)

/-- Does the decimal round to the double? -/
def Scientific.roundsTo (d : Scientific) (b : Binary) : Bool :=
  let fraction := scaleTen d.digits 1 d.exponent
  Binary.round fraction.1 fraction.2 == some b

/-- The number of decimal digits of a number. -/
def digitCount (n : Nat) : Nat := (Nat.toDigits 10 n).length

/-- The whole part of `num / den` has as many digits as this says; none for a proper fraction
counts the zeros behind the point as negative. -/
def magnitude (num den : Nat) : Int :=
  if den ≤ num then digitCount (num / den)
  else
    let guess : Int := (digitCount num : Int) - (digitCount den : Int)
    let scaled := scaleTen num den (-guess)
    if scaled.2 ≤ scaled.1 then guess + 1 else guess

/-- The candidate on the grid of `count` digits, if one of the two neighbours rounds back. -/
def onGrid? (b : Binary) (count : Nat) : Option Scientific :=
  let value := b.toFraction
  let step : Int := magnitude value.1 value.2 - count
  let scaled := scaleTen value.1 value.2 (-step)
  let below : Scientific := ⟨scaled.1 / scaled.2, step⟩
  let above : Scientific := ⟨scaled.1 / scaled.2 + 1, step⟩
  let nearer := if 2 * (scaled.1 % scaled.2) ≤ scaled.2 then (below, above) else (above, below)
  if nearer.1.roundsTo b then some nearer.1
  else if nearer.2.roundsTo b then some nearer.2
  else none

/-- The decimal of fewest digits that rounds to the double; seventeen always suffice. -/
def shortest (b : Binary) : Scientific :=
  if b.mantissa = 0 then ⟨0, 0⟩
  else ((List.range 17).findSome? fun k => onGrid? b (k + 1)).getD ⟨0, 0⟩

/-- A decimal without the zeros at its end. -/
def Scientific.strip (d : Scientific) : Nat → Scientific
  | 0 => d
  | fuel + 1 =>
    if d.digits ≠ 0 ∧ d.digits % 10 = 0 then
      Scientific.strip ⟨d.digits / 10, d.exponent + 1⟩ fuel
    else d

/-- Writes a decimal: positional from `10 ^ -5` up to `10 ^ 16`, with a point and at least one
place, and otherwise with an exponent that shows its sign. -/
def Scientific.render (d : Scientific) : String :=
  let d := d.strip (digitCount d.digits)
  let digits := Nat.toDigits 10 d.digits
  let count := digits.length
  let point : Int := d.exponent + count
  if d.digits = 0 then "0.0"
  else if -5 < point ∧ point ≤ 16 then
    if point ≤ 0 then
      String.ofList ('0' :: '.' :: (List.replicate (-point).toNat '0' ++ digits))
    else if (count : Int) ≤ point then
      String.ofList (digits ++ List.replicate (point - count).toNat '0' ++ ['.', '0'])
    else
      String.ofList (digits.take point.toNat ++ '.' :: digits.drop point.toNat)
  else
    let fraction := if count = 1 then [] else '.' :: digits.drop 1
    let power := point - 1
    let sign := if power < 0 then '-' else '+'
    String.ofList (digits.take 1 ++ fraction ++ 'e' :: sign :: Nat.toDigits 10 power.natAbs)

/-- The text of a double that is not negative. -/
def Binary.render (b : Binary) : String := (shortest b).render

end TermStore.Decimal
