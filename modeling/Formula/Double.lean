/-! Numbers are IEEE 754 doubles, held by their 64 bits.  The bits split into a sign and a
magnitude, and magnitudes are ordered as the absolute values they stand for: those below `infinite`
are finite, `infinite` itself is infinity, and the ones above it are the NaNs.  A finite magnitude
is `significand` times two to the power `scale` units, a unit being the least positive double, two
to the power `-1074`.  `nearest` is the one place where a real number becomes a double. -/

namespace Formula

/-- A double, given by its bits: the sign, eleven bits of exponent and 52 bits of fraction. -/
structure Double where
  bits : UInt64
deriving DecidableEq

namespace Double

/-- The weight of the sign bit, two to the power 63. -/
def signBit : Nat := 0x8000000000000000

/-- The weight of the lowest bit of the exponent, two to the power 52; also the leading bit that a
normal significand has and does not store. -/
def leadingBit : Nat := 0x10000000000000

/-- The magnitude of infinity: all bits of the exponent. -/
def infinite : Nat := 0x7ff0000000000000

/-- The double with the given sign and magnitude, for magnitudes below the sign bit. -/
def ofMagnitude (negative : Bool) (magnitude : Nat) : Double :=
  ⟨.ofNat (if negative then signBit + magnitude else magnitude)⟩

/-- The bits without the sign. -/
def magnitude (v : Double) : Nat := v.bits.toNat % signBit

/-- The sign bit, which zeros and NaNs carry too. -/
def negative (v : Double) : Bool := signBit ≤ v.bits.toNat

theorem toNat_ofMagnitude (negative : Bool) {n : Nat} (h : n < signBit) :
    (ofMagnitude negative n).bits.toNat = if negative then signBit + n else n := by
  rw [ofMagnitude, UInt64.toNat_ofNat_of_lt']
  rw [UInt64.size, signBit] at *
  split <;> omega

theorem magnitude_ofMagnitude (negative : Bool) {n : Nat} (h : n < signBit) :
    (ofMagnitude negative n).magnitude = n := by
  rw [magnitude, toNat_ofMagnitude negative h]
  rw [signBit] at *
  split <;> omega

theorem negative_ofMagnitude (negative : Bool) {n : Nat} (h : n < signBit) :
    (ofMagnitude negative n).negative = negative := by
  rw [Double.negative, toNat_ofMagnitude negative h]
  cases negative with
  | false => exact decide_eq_false (Nat.not_le.mpr h)
  | true => exact decide_eq_true (Nat.le_add_right _ _)

/-- A double is its sign and its magnitude. -/
theorem ofMagnitude_magnitude (v : Double) : ofMagnitude v.negative v.magnitude = v := by
  have small : v.magnitude < signBit := Nat.mod_lt _ (by decide)
  have bits : (ofMagnitude v.negative v.magnitude).bits = v.bits := by
    apply UInt64.toNat_inj.mp
    rw [toNat_ofMagnitude v.negative small, magnitude, negative]
    have := v.bits.toNat_lt
    by_cases h : signBit ≤ v.bits.toNat
    · rw [decide_eq_true h, if_pos rfl]
      rw [signBit] at *
      omega
    · rw [decide_eq_false h, if_neg (by decide)]
      rw [signBit] at *
      omega
  exact congrArg Double.mk bits

/-- Infinity, of the given sign. -/
def infinity (negative : Bool) : Double := ofMagnitude negative infinite

/-- The quiet NaN with no payload, of the given sign. -/
def nan (negative : Bool) : Double := ofMagnitude negative (infinite + leadingBit / 2)

def isNaN (v : Double) : Bool := infinite < v.magnitude

def isFinite (v : Double) : Bool := v.magnitude < infinite

def isZero (v : Double) : Bool := v.magnitude == 0

/-- Equality as numbers: a NaN differs from every number, itself included, and the two zeros are
equal. -/
def same (v w : Double) : Bool :=
  !v.isNaN && !w.isNaN && (v.bits == w.bits || v.isZero && w.isZero)

/-- The significand of a finite magnitude, below twice the leading bit. -/
def significand (magnitude : Nat) : Nat :=
  if magnitude < leadingBit then magnitude else leadingBit + magnitude % leadingBit

/-- The power of two by which a finite magnitude scales its significand. -/
def scale (magnitude : Nat) : Nat := magnitude / leadingBit - 1

/-- The number one, counted in units. -/
def one : Nat := Nat.pow 2 1074

/-- A finite magnitude, counted in units. -/
def units (magnitude : Nat) : Nat := significand magnitude * Nat.pow 2 (scale magnitude)

/-- The whole number nearest to `n / d`, the even one when two are equally near. -/
def divNearest (n d : Nat) : Nat :=
  if 2 * (n % d) < d then n / d
  else if d < 2 * (n % d) then n / d + 1
  else n / d + n / d % 2

/-- The magnitude nearest to `n / d`, ties to the even significand, infinity beyond the largest
finite double.  In units the number is `n * one / d`; the scale is the least one that leaves a
significand below twice the leading bit, and a significand that rounds up to that carries into the
scale by itself. -/
def nearest (n d : Nat) : Nat :=
  let inUnits := n * one
  let scale := (inUnits / d).log2 - 52
  min infinite (scale * leadingBit + divNearest inUnits (d * Nat.pow 2 scale))

end Double

end Formula
