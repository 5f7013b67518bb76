import TermStore.Decimal.Binary

/-!
# Doubles with a sign

The numbers of binary floating point on both sides of zero, and the two infinite ones. Beside
whole numbers they are compared as the fractions that they are; the infinite ones stand beyond all
others.
-/

namespace TermStore.Decimal

/-- A double that is a number. -/
inductive Double
  | finite (negative : Bool) (magnitude : Binary)
  | infinite (negative : Bool)
  deriving DecidableEq, Repr

namespace Double

/-- A number with its sign. -/
def signed (negative : Bool) (magnitude : Nat) : Int :=
  if negative then -(magnitude : Int) else (magnitude : Int)

/-- The value as numerator and denominator. The power of two beyond the largest double stands for
the infinite ones. -/
def toFraction : Double → Int × Nat
  | .finite negative magnitude =>
    let fraction := magnitude.toFraction
    (signed negative fraction.1, fraction.2)
  | .infinite negative => (signed negative (Nat.pow 2 1024), 1)

/-- The whole number that a double is, if it is one. -/
def int? : Double → Option Int
  | .finite negative magnitude =>
    let fraction := magnitude.toFraction
    if fraction.1 % fraction.2 = 0 then some (signed negative (fraction.1 / fraction.2)) else none
  | .infinite _ => none

/-- The double nearest to `num / den`, with a sign. -/
def round (negative : Bool) (num den : Nat) : Double :=
  match Binary.round num den with
  | some magnitude => .finite negative magnitude
  | none => .infinite negative

end Double

end TermStore.Decimal
