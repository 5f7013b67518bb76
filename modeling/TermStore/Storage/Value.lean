import TermStore.Decimal.Numeral
import TermStore.Decimal.Shortest
import TermStore.Text.Utf8

/-!
# Stored values

A column holds values of any kind, whatever its declared type; the type only says which values
are turned into another kind when they are stored in the column or compared with it. An integer
column turns a numeral into the number that it spells, and a text column turns a number into its
digits. Nothing turns into or from bytes. Numbers agree by value, whole or not, and null agrees
with nothing.
-/

namespace TermStore.Storage

open Decimal (Double Numeral)

/-- A stored value. -/
inductive Value
  | null
  | integer (value : Int)
  | real (value : Double)
  | text (value : String)
  | blob (bytes : List UInt8)
  deriving DecidableEq, Repr

/-- The kinds of stored value, as messages call them. -/
inductive ValueKind
  | null
  | integer
  | real
  | text
  | blob
  deriving DecidableEq, Repr

/-- The name of a kind in messages. -/
def ValueKind.name : ValueKind → String
  | .null => "Null"
  | .integer => "Integer"
  | .real => "Real"
  | .text => "Text"
  | .blob => "Blob"

/-- The place of a kind in the order of values. Numbers of both kinds are ordered together. -/
def ValueKind.rank : ValueKind → Nat
  | .null => 0
  | .integer => 1
  | .real => 1
  | .text => 2
  | .blob => 3

namespace Value

/-- The kind of a value. -/
def kind : Value → ValueKind
  | .null => .null
  | .integer _ => .integer
  | .real _ => .real
  | .text _ => .text
  | .blob _ => .blob

/-- Do two values count as equal? -/
def agrees : Value → Value → Bool
  | .integer x, .integer y => x == y
  | .integer x, .real y => y.int? == some x
  | .real x, .integer y => x.int? == some y
  | .real x, .real y => x == y
  | .text x, .text y => x == y
  | .blob x, .blob y => x == y
  | _, _ => false

/-- A number as numerator and denominator. -/
def fraction? : Value → Option (Int × Nat)
  | .integer value => some (value, 1)
  | .real value => some value.toFraction
  | _ => none

/-- The order of values: null, numbers by value, texts by their characters, bytes. -/
def before : Value → Value → Bool
  | .text x, .text y => decide (x < y)
  | .blob x, .blob y => decide (x < y)
  | x, y =>
    match x.fraction?, y.fraction? with
    | some a, some b => decide (a.1 * b.2 < b.1 * a.2)
    | _, _ => decide (x.kind.rank < y.kind.rank)

@[simp] theorem agrees_integer (x y : Int) :
    agrees (.integer x) (.integer y) = decide (x = y) := rfl

@[simp] theorem agrees_text (x y : String) : agrees (.text x) (.text y) = decide (x = y) := rfl

@[simp] theorem agrees_null (x : Value) : agrees .null x = false := by cases x <;> rfl

end Value

/-- What the declared type of a column does to values that come to it. -/
inductive Affinity
  | integer
  | text
  | untyped
  deriving DecidableEq, Repr

/-- The value that an integer column keeps for a numeral: a whole number of 64 bits where there is
one, though of those that are not spelled as one neither the smallest nor the largest. -/
def numeralValue (numeral : Numeral) : Value :=
  match numeral.int64? with
  | some value => .integer value
  | none =>
    let double := numeral.toDouble
    match double.int? with
    | some value =>
      if value.natAbs < Decimal.maxInt64 then .integer value else .real double
    | none => .real double

/-- The text of a number that is no whole number. -/
def realText : Double → String
  | .finite negative magnitude => (if negative then "-" else "") ++ magnitude.render
  | .infinite negative => if negative then "-Inf" else "Inf"

/-- The value that a column keeps for, or compares with, a value that comes to it. -/
def Affinity.adopt : Affinity → Value → Value
  | .integer, .text spelling =>
    match Numeral.read? spelling.toList with
    | some numeral => numeralValue numeral
    | none => .text spelling
  | .text, .integer value => .text (toString value)
  | .text, .real value => .text (realText value)
  | _, value => value

/-- Are the values of two columns equal in a join? Beside an integer column both sides are read as
numbers, and else beside a text column both as texts. -/
def joins (left : Affinity) (x : Value) (right : Affinity) (y : Value) : Bool :=
  let shared : Affinity :=
    if left = .integer ∨ right = .integer then .integer
    else if left = .text ∨ right = .text then .text
    else .untyped
  (shared.adopt x).agrees (shared.adopt y)

@[simp] theorem adopt_integer_integer (value : Int) :
    Affinity.integer.adopt (.integer value) = .integer value := rfl

@[simp] theorem adopt_text_text (value : String) :
    Affinity.text.adopt (.text value) = .text value := rfl

end TermStore.Storage
