import Formula.Decimal

/-! The decimal that a finite double is written as stands for that double.  A decimal found on a
grid does, since the search asks for no less; that the decimal with all digits does is exactness of
`Double.nearest`: a value that is a whole number of units, of no more bits than a significand has,
is not rounded. -/

namespace Formula

namespace Double

/-- Stated for `Nat.pow`, so that no large power is evaluated to match the two. -/
theorem natPow_pos {b : Nat} (hb : 0 < b) (k : Nat) : 0 < Nat.pow b k := Nat.pow_pos hb

theorem natPow_mul_natPow_sub (b : Nat) {j k : Nat} (h : k ≤ j) :
    Nat.pow b k * Nat.pow b (j - k) = Nat.pow b j := by
  have hsum := Nat.pow_add b k (j - k)
  rw [Nat.add_sub_cancel' h] at hsum
  exact hsum.symm

theorem one_pos : 0 < one := by decide +kernel

theorem significand_lt (m : Nat) : significand m < 2 * leadingBit := by
  unfold significand leadingBit
  split <;> omega

theorem le_significand {m : Nat} (h : leadingBit ≤ m) : leadingBit ≤ significand m := by
  unfold significand leadingBit at *
  split <;> omega

/-- A magnitude is its scale and its significand: the leading bit of the significand carries into
the scale. -/
theorem scale_add_significand (m : Nat) : scale m * leadingBit + significand m = m := by
  unfold scale significand leadingBit
  split <;> omega

theorem scale_eq_zero {m : Nat} (h : m < leadingBit) : scale m = 0 := by
  unfold scale leadingBit at *
  omega

theorem units_eq_self {m : Nat} (h : m < leadingBit) : units m = m := by
  simp [units, scale_eq_zero h, significand, h]

theorem units_pos {m : Nat} (h : m ≠ 0) : 0 < units m := by
  by_cases hm : m < leadingBit
  · rw [units_eq_self hm]
    exact Nat.pos_of_ne_zero h
  · have hs := le_significand (Nat.le_of_not_lt hm)
    have hpos : 0 < significand m := Nat.lt_of_lt_of_le (by decide) hs
    exact Nat.mul_pos hpos (natPow_pos (by decide) _)

/-- The scale of a magnitude can be told from its units: it is what they have beyond the bits of a
significand. -/
theorem log2_units (m : Nat) : (units m).log2 - 52 = scale m := by
  by_cases h : m < leadingBit
  · rw [scale_eq_zero h, units_eq_self h]
    by_cases h0 : m = 0
    · subst h0
      rfl
    · have : m.log2 < 52 := (Nat.log2_lt h0).mpr h
      omega
  · have hs := le_significand (Nat.le_of_not_lt h)
    have hne : units m ≠ 0 := by
      refine Nat.ne_of_gt (units_pos ?_)
      rintro rfl
      exact h (by decide)
    have hlog : (units m).log2 = 52 + scale m := by
      rw [Nat.log2_eq_iff hne, Nat.add_right_comm, Nat.pow_add, Nat.pow_add 2 (52 + 1)]
      exact ⟨Nat.mul_le_mul_right _ hs,
        Nat.mul_lt_mul_of_pos_right (significand_lt m) (Nat.pow_pos (by decide))⟩
    omega

theorem divNearest_mul (q : Nat) {d : Nat} (hd : 0 < d) : divNearest (q * d) d = q := by
  simp [divNearest, hd]

/-- The value of a finite magnitude is not rounded, whatever fraction it is given as. -/
theorem nearest_eq {m n d : Nat} (hm : m < infinite) (hd : 0 < d) (h : n * one = units m * d) :
    nearest n d = m := by
  have hscale : (n * one / d).log2 - 52 = scale m := by
    rw [h, Nat.mul_div_cancel _ hd, log2_units]
  have hexact : n * one = significand m * (d * Nat.pow 2 (scale m)) := by
    rw [h, units, Nat.mul_assoc, Nat.mul_comm d]
  have hpos : 0 < d * Nat.pow 2 (scale m) := Nat.mul_pos hd (natPow_pos (by decide) _)
  dsimp only [nearest]
  rw [hscale, hexact, divNearest_mul _ hpos, scale_add_significand,
    Nat.min_eq_right (Nat.le_of_lt hm)]

end Double

namespace Decimal

/-- Units are powers of two, so a number of them is a decimal with all its digits. -/
theorem units_eq_decimal (u k : Nat) : u * Nat.pow 5 k * Nat.pow 2 k = u * Nat.pow 10 k := by
  have hten : Nat.pow 10 k = Nat.pow 5 k * Nat.pow 2 k := Nat.mul_pow 5 2 k
  rw [hten, Nat.mul_assoc]

theorem le_log2_mul_five_pow {u : Nat} (hu : 0 < u) (k : Nat) : k ≤ (u * Nat.pow 5 k).log2 := by
  have hfive : 0 < Nat.pow 5 k := Nat.pow_pos (by decide)
  refine (Nat.le_log2 (Nat.ne_of_gt (Nat.mul_pos hu hfive))).mpr ?_
  calc 2 ^ k ≤ 5 ^ k := Nat.pow_le_pow_left (by decide) k
    _ ≤ u * 5 ^ k := Nat.le_mul_of_pos_left _ hu

theorem magnitude_exact {m : Nat} (hm : m < Double.infinite) (h0 : m ≠ 0) :
    (exact m).magnitude = m := by
  -- so many digits that the decimal is not taken for zero
  have hlog : 1074 ≤ (exact m).digits.log2 := le_log2_mul_five_pow (Double.units_pos h0) 1074
  have hdigits : (exact m).digits ≠ 0 := by
    intro h
    simp [h] at hlog
  have hexponent : (exact m).exponent = -1074 := rfl
  unfold magnitude
  rw [if_neg hdigits, if_neg (by omega), if_neg (by omega), hexponent]
  refine Double.nearest_eq hm (Double.natPow_pos (by decide) _) ?_
  have hone : Nat.pow 10 (-1074 : Int).toNat = 1 := rfl
  rw [hone, Nat.mul_one]
  exact units_eq_decimal _ 1074

theorem magnitude_of_onGrid? {tie : Tie} {m : Nat} {e : Int} {d : Decimal}
    (h : onGrid? tie m e = some d) : d.magnitude = m := by
  simp only [onGrid?] at h
  split at h
  · split at h
    · cases h
      simp_all
    · cases h
      assumption
  · split at h
    · cases h
      assumption
    · contradiction

theorem magnitude_search (tie : Tie) {m : Nat} (hm : m < Double.infinite) (h0 : m ≠ 0)
    (tries : Nat) (e : Int) : (search tie m tries e).magnitude = m := by
  induction tries generalizing e with
  | zero => exact magnitude_exact hm h0
  | succ tries ih =>
    unfold search
    split
    · next h => exact magnitude_of_onGrid? h
    · exact ih _

/-- What a finite double is written as is read as that double. -/
theorem magnitude_shortest (tie : Tie) {m : Nat} (hm : m < Double.infinite) :
    (shortest tie m).magnitude = m := by
  unfold shortest
  split
  · next h =>
    subst h
    rfl
  · next h => exact magnitude_search tie hm h 20 _

end Decimal

end Formula
