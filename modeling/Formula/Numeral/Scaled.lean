import Formula.Numeral

/-! Numbers as documents are read.  The digits that fit into 64 bits make a significand, those that
do not fit only count, and the double nearest to the significand is multiplied or divided by the
double nearest to a power of ten.  Every step rounds, so the result can be a neighbour of the double
nearest to the number that is written; `Numeral.value` is that one. -/

namespace Formula

namespace Double

/-- The magnitude nearest to the product of two finite magnitudes. -/
def product (a b : Nat) : Nat := nearest (units a * units b) (one * one)

/-- The magnitude nearest to the quotient of two finite magnitudes. -/
def quotient (a b : Nat) : Nat := nearest (units a) (units b)

/-- The magnitude nearest to a power of ten. -/
def powerOfTen (n : Nat) : Nat := nearest (Nat.pow 10 n) 1

end Double

namespace Decimal

/-- The magnitude that scaling makes of a decimal, none if it would be infinite.  The largest power
of ten below infinity is `10 ^ 308`, so a decimal is multiplied by at most that, and divided by it
first when its exponent asks for more than one division; no significand of 64 bits outlasts three
divisions. -/
def scaled? (d : Decimal) : Option Nat :=
  let start := Double.nearest d.digits 1
  if d.digits = 0 then some 0
  else if 308 < d.exponent then none
  else if 0 ≤ d.exponent then
    let product := Double.product start (Double.powerOfTen d.exponent.toNat)
    if product < Double.infinite then some product else none
  else if -308 ≤ d.exponent then
    some (Double.quotient start (Double.powerOfTen (-d.exponent).toNat))
  else if -616 ≤ d.exponent then
    some (Double.quotient (Double.quotient start (Double.powerOfTen 308))
      (Double.powerOfTen (-d.exponent - 308).toNat))
  else some 0

end Decimal

namespace Numeral

/-- The largest significand, of 64 bits. -/
def largestSignificand : Nat := 0xffffffffffffffff

/-- Appends digits to a significand up to the first one that would make it too large.  The second
part counts the digits that were appended. -/
def extend (significand : Nat) : List Char → Nat × Nat
  | [] => (significand, 0)
  | c :: rest =>
    let next := significand * 10 + (c.toNat - '0'.toNat)
    if largestSignificand < next then (significand, 0)
    else ((extend next rest).1, (extend next rest).2 + 1)

/-- The significand of a numeral with its exponent.  A digit before the point that does not fit
still moves the point, and one after it is as if it were not written. -/
def kept (n : Numeral) : Decimal :=
  let whole := extend 0 n.whole
  let all := extend whole.1 n.fraction
  ⟨all.1, n.exponent.getD 0 + (n.whole.length - whole.2 : Nat) - all.2⟩

/-- The double that scaling makes of a numeral, none if it would be infinite. -/
def scaled? (n : Numeral) : Option Double := n.kept.scaled?.map (.ofMagnitude n.negative)

end Numeral

end Formula
