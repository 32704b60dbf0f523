import Formula.Double

/-! Decimals `digits * 10 ^ exponent`, and the two ways between them and doubles.  A decimal stands
for the double nearest to it.  A finite double is written as the decimal of fewest digits that
stands for it, the nearest one of those; `Tie` decides between two that are equally near. -/

namespace Formula

/-- The number `digits * 10 ^ exponent`. -/
structure Decimal where
  digits : Nat
  exponent : Int
deriving DecidableEq

namespace Decimal

/-- The magnitude of the double nearest to a decimal.  A decimal of at least `10 ^ 400` is infinity
and one below `10 ^ -400` is zero, whatever the exponent, so no power of ten grows beyond what the
digits ask for. -/
def magnitude (d : Decimal) : Nat :=
  if d.digits = 0 then 0
  else if 400 < d.exponent then Double.infinite
  else if d.exponent + d.digits.log2 < -400 then 0
  else Double.nearest (d.digits * Nat.pow 10 d.exponent.toNat) (Nat.pow 10 (-d.exponent).toNat)

/-- Which of two equally near decimals is written. -/
inductive Tie where
  /-- The larger one. -/
  | up
  /-- The one whose digits are even. -/
  | even

/-- The two multiples of `10 ^ exponent` around `n / d`, as the digits of the lower one. -/
def below (n d : Nat) (exponent : Int) : Nat :=
  n * Nat.pow 10 (-exponent).toNat / (d * Nat.pow 10 exponent.toNat)

/-- Whether `n / d` goes to the upper of the two multiples of `10 ^ exponent` around it. -/
def roundsUp (tie : Tie) (n d : Nat) (exponent : Int) : Bool :=
  let twice := 2 * (n * Nat.pow 10 (-exponent).toNat)
  let middle := (2 * below n d exponent + 1) * (d * Nat.pow 10 exponent.toNat)
  match tie with
  | .up => middle ≤ twice
  | .even => middle < twice || middle == twice && below n d exponent % 2 == 1

/-- A multiple of `10 ^ exponent` that stands for the double of the given magnitude: one of the two
around its value, the nearer if both do. -/
def onGrid? (tie : Tie) (magnitude : Nat) (exponent : Int) : Option Decimal :=
  let n := Double.units magnitude
  let lower : Decimal := ⟨below n Double.one exponent, exponent⟩
  let upper : Decimal := ⟨lower.digits + 1, exponent⟩
  if lower.magnitude = magnitude then
    if upper.magnitude = magnitude && roundsUp tie n Double.one exponent then some upper
    else some lower
  else if upper.magnitude = magnitude then some upper
  else none

/-- A power of ten that no value of the given magnitude exceeds, and by less than a factor of a
hundred. -/
def order (magnitude : Nat) : Int :=
  let n := Double.units magnitude
  if Double.one ≤ n then (Nat.toDigits 10 (n / Double.one)).length
  else 1 - ((Nat.toDigits 10 (Double.one / n)).length : Int)

/-- The value of a finite magnitude with all its digits. -/
def exact (magnitude : Nat) : Decimal := ⟨Double.units magnitude * Nat.pow 5 1074, -1074⟩

/-- The first of the grids `10 ^ exponent`, `10 ^ (exponent - 1)`, ... that holds a decimal standing
for the magnitude; all digits if none of the first `tries` does. -/
def search (tie : Tie) (magnitude : Nat) : (tries : Nat) → (exponent : Int) → Decimal
  | 0, _ => exact magnitude
  | tries + 1, exponent =>
    match onGrid? tie magnitude exponent with
    | some d => d
    | none => search tie magnitude tries (exponent - 1)

/-- The decimal of fewest digits that stands for a finite magnitude.  Seventeen digits always
suffice, so twenty grids from the order downwards are enough. -/
def shortest (tie : Tie) (magnitude : Nat) : Decimal :=
  if magnitude = 0 then ⟨0, 0⟩ else search tie magnitude 20 (order magnitude)

end Decimal

end Formula
