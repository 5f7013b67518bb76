/-!
# Numbers of binary floating point

A finite double that is not negative is `mantissa · 2 ^ exponent` with a mantissa below `2 ^ 53`
and an exponent of at least `-1074`. `Binary.round` gives the one nearest to a fraction, a tie
going to the even mantissa; products and quotients are the exact fraction rounded once.
-/

namespace TermStore.Decimal

/-- A finite double that is not negative: `mantissa · 2 ^ exponent`. -/
structure Binary where
  mantissa : Nat
  exponent : Int
  deriving DecidableEq, Repr

namespace Binary

/-- The number zero. -/
def zero : Binary := ⟨0, 0⟩

/-- The fraction `num · 2 ^ shift / den` as numerator and denominator. -/
def scale (num den : Nat) (shift : Int) : Nat × Nat :=
  if 0 ≤ shift then (num * Nat.pow 2 shift.toNat, den) else (num, den * Nat.pow 2 (-shift).toNat)

/-- The quotient rounded to the nearest whole number, a tie to the even one. -/
def divEven (num den : Nat) : Nat :=
  let whole := num / den
  let twice := 2 * (num % den)
  if twice < den then whole
  else if den < twice then whole + 1
  else if whole % 2 = 0 then whole else whole + 1

/-- The exponent at which the mantissa of `num / den` has 53 bits, though never below `-1074`. -/
def exponentFor (num den : Nat) : Int :=
  let guess : Int := (num.log2 : Int) - (den.log2 : Int) - 52
  let scaled := scale num den (-guess)
  let exact := if scaled.1 < scaled.2 * Nat.pow 2 52 then guess - 1 else guess
  max exact (-1074)

/-- The double nearest to `num / den`; none where it would be infinite. -/
def round (num den : Nat) : Option Binary :=
  if num = 0 then some zero
  else
    let exponent := exponentFor num den
    let scaled := scale num den (-exponent)
    let mantissa := divEven scaled.1 scaled.2
    let result : Binary :=
      if mantissa = Nat.pow 2 53 then ⟨Nat.pow 2 52, exponent + 1⟩ else ⟨mantissa, exponent⟩
    if result.exponent ≤ 971 then some result else none

/-- The value as numerator and denominator. -/
def toFraction (b : Binary) : Nat × Nat := scale b.mantissa 1 b.exponent

/-- The product, rounded; none where it would be infinite. -/
def mul? (a b : Binary) : Option Binary :=
  let x := a.toFraction
  let y := b.toFraction
  round (x.1 * y.1) (x.2 * y.2)

/-- The quotient by a number other than zero, rounded; none where it would be infinite. -/
def div? (a b : Binary) : Option Binary :=
  let x := a.toFraction
  let y := b.toFraction
  round (x.1 * y.2) (x.2 * y.1)

end Binary

end TermStore.Decimal
