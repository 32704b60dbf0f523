import Formula.Proofs.Numeral.Nearest

/-! Reading a decimal rounds its value once: to the nearest magnitude, of two that are equally near
to the even one, and to infinity where the nearest one lies beyond the finite magnitudes.  Distances
are compared without fractions, each multiplied by the denominator of the number to be rounded. -/

namespace Formula

namespace Double

/-! ### The order of magnitudes -/

/-- A significand of the given scale, which may just have outgrown it. -/
theorem units_scale_add {s q : Nat} (hq : q ≤ 2 * leadingBit) (hs : s = 0 ∨ leadingBit ≤ q) :
    units (s * leadingBit + q) = q * Nat.pow 2 s := by
  have hpos : 0 < leadingBit := by decide
  by_cases hlt : q < 2 * leadingBit
  · have hscale : scale (s * leadingBit + q) = s := by
      rw [scale, Nat.mul_comm, Nat.mul_add_div hpos]
      rcases hs with rfl | hs
      · have : q / leadingBit < 2 := (Nat.div_lt_iff_lt_mul hpos).mpr hlt
        omega
      · have : q / leadingBit = 1 := Nat.div_eq_of_lt_le (by omega) (by omega)
        omega
    have hsum := scale_add_significand (s * leadingBit + q)
    rw [hscale] at hsum
    rw [units, hscale, Nat.add_left_cancel hsum]
  · obtain rfl : q = 2 * leadingBit := by omega
    have hcarry : s * leadingBit + 2 * leadingBit = leadingBit * (s + 2) := by
      rw [Nat.mul_add, Nat.mul_comm, Nat.mul_comm 2]
    have hsmall : ¬leadingBit * (s + 2) < leadingBit :=
      Nat.not_lt.mpr (Nat.le_mul_of_pos_right _ (by omega))
    have htwo : Nat.pow 2 (s + 1) = Nat.pow 2 s * 2 := rfl
    rw [hcarry, units, scale, significand, if_neg hsmall, Nat.mul_mod_right,
      Nat.mul_div_cancel_left _ hpos, show s + 2 - 1 = s + 1 by omega, htwo]
    rw [Nat.add_zero, Nat.mul_comm (Nat.pow 2 s), ← Nat.mul_assoc, Nat.mul_comm leadingBit]

theorem units_lt_succ (m : Nat) : units m < units (m + 1) := by
  have hsig := significand_lt m
  have hnormal : scale m = 0 ∨ leadingBit ≤ significand m := by
    by_cases h : m < leadingBit
    · exact .inl (scale_eq_zero h)
    · exact .inr (le_significand (Nat.le_of_not_lt h))
  have hnext : units (m + 1) = (significand m + 1) * Nat.pow 2 (scale m) := by
    rw [← units_scale_add (by omega) (by omega), ← Nat.add_assoc, scale_add_significand]
  rw [hnext, units]
  exact Nat.mul_lt_mul_of_pos_right (Nat.lt_succ_self _) (natPow_pos (by decide) _)

theorem units_lt {m k : Nat} (h : m < k) : units m < units k := by
  induction h with
  | refl => exact units_lt_succ m
  | step _ ih => exact Nat.lt_trans ih (units_lt_succ _)

/-! ### The nearest magnitude -/

/-- How far `n / d` is from a magnitude, in units and multiplied by `d`.  Magnitudes go on beyond
the largest finite one as if exponents had no bound. -/
def distance (n d m : Nat) : Nat := (n * one - units m * d) + (units m * d - n * one)

/-- No magnitude is nearer to `n / d`, and one that is equally near is odd. -/
def IsNearest (n d m : Nat) : Prop :=
  ∀ k, k ≠ m → distance n d m < distance n d k ∨ distance n d m = distance n d k ∧ m % 2 = 0

theorem quotient_bounds (x d : Nat) :
    x / (d * Nat.pow 2 ((x / d).log2 - 52)) < 2 * leadingBit ∧
      ((x / d).log2 - 52 = 0 ∨ leadingBit ≤ x / (d * Nat.pow 2 ((x / d).log2 - 52))) := by
  have hpos : 0 < 2 ^ ((x / d).log2 - 52) := Nat.pow_pos (by decide)
  have hq : x / (d * Nat.pow 2 ((x / d).log2 - 52)) = x / d / 2 ^ ((x / d).log2 - 52) :=
    (Nat.div_div_eq_div_mul _ _ _).symm
  rw [hq, Nat.div_lt_iff_lt_mul hpos, Nat.le_div_iff_mul_le hpos]
  constructor
  · calc x / d < 2 ^ ((x / d).log2 + 1) := Nat.lt_log2_self
      _ ≤ 2 ^ (53 + ((x / d).log2 - 52)) := Nat.pow_le_pow_right (by decide) (by omega)
      _ = 2 * leadingBit * 2 ^ ((x / d).log2 - 52) := Nat.pow_add 2 53 _
  · by_cases hs : (x / d).log2 - 52 = 0
    · exact .inl hs
    · right
      have hne : x / d ≠ 0 := by
        intro h0
        simp [h0] at hs
      calc leadingBit * 2 ^ ((x / d).log2 - 52) = 2 ^ (52 + ((x / d).log2 - 52)) :=
            (Nat.pow_add 2 52 _).symm
        _ = 2 ^ (x / d).log2 := by
          congr 1
          omega
        _ ≤ x / d := Nat.log2_self_le hne

/-- The fraction lies between two neighbouring magnitudes, `rest` from the lower one and the rest of
`step` from the upper one, and all others are farther away. -/
structure Around (n d low step rest : Nat) : Prop where
  rest_lt : rest < step
  distance_low : distance n d low = rest
  distance_high : distance n d (low + 1) = step - rest
  below : ∀ k < low, rest < distance n d k
  above : ∀ k, low + 1 < k → step - rest < distance n d k

theorem around (n : Nat) {d : Nat} (hd : 0 < d) :
    let scale := (n * one / d).log2 - 52
    let step := d * Nat.pow 2 scale
    Around n d (scale * leadingBit + n * one / step) step (n * one % step) := by
  intro scale step
  obtain ⟨hq, hs⟩ : n * one / step < 2 * leadingBit ∧ (scale = 0 ∨ leadingBit ≤ n * one / step) :=
    quotient_bounds (n * one) d
  have hstep : 0 < step := Nat.mul_pos hd (natPow_pos (by decide) _)
  have hx := Nat.div_add_mod (n * one) step
  have hrest := Nat.mod_lt (n * one) hstep
  have hlow : units (scale * leadingBit + n * one / step) * d = step * (n * one / step) := by
    rw [units_scale_add (Nat.le_of_lt hq) hs, Nat.mul_assoc, Nat.mul_comm, Nat.mul_comm _ d]
  have hhigh : units (scale * leadingBit + n * one / step + 1) * d =
      step * (n * one / step) + step := by
    rw [Nat.add_assoc, units_scale_add hq (hs.imp_right Nat.le_succ_of_le), ← Nat.mul_succ,
      Nat.mul_assoc, Nat.mul_comm, Nat.mul_comm _ d]
  have hbelow : ∀ k < scale * leadingBit + n * one / step, units k * d < step * (n * one / step) :=
    fun k hk => hlow ▸ Nat.mul_lt_mul_of_pos_right (units_lt hk) hd
  have habove : ∀ k, scale * leadingBit + n * one / step + 1 < k →
      step * (n * one / step) + step < units k * d :=
    fun k hk => hhigh ▸ Nat.mul_lt_mul_of_pos_right (units_lt hk) hd
  constructor
  · exact hrest
  all_goals
    simp only [distance, hlow, hhigh]
    generalize n * one = x at *
  · omega
  · omega
  · intro k hk
    have := hbelow k hk
    omega
  · intro k hk
    have := habove k hk
    omega

theorem divNearest_cases (n d : Nat) :
    divNearest n d = n / d ∧ (2 * (n % d) < d ∨ 2 * (n % d) = d ∧ n / d % 2 = 0) ∨
    divNearest n d = n / d + 1 ∧ (d < 2 * (n % d) ∨ 2 * (n % d) = d ∧ n / d % 2 = 1) := by
  unfold divNearest
  split
  · omega
  · split
    · omega
    · rcases Nat.mod_two_eq_zero_or_one (n / d) with h | h <;> omega

/-- Rounding goes to the nearest magnitude, and to infinity if that one is not finite. -/
theorem nearest_isNearest (n : Nat) {d : Nat} (hd : 0 < d) :
    ∃ m, IsNearest n d m ∧ nearest n d = min infinite m := by
  obtain ⟨hrest, hlow, hhigh, hbelow, habove⟩ := around n hd
  refine ⟨_, ?_, rfl⟩
  have hround := divNearest_cases (n * one) (d * Nat.pow 2 ((n * one / d).log2 - 52))
  generalize (n * one / d).log2 - 52 = scale at *
  generalize divNearest (n * one) (d * Nat.pow 2 scale) = rounded at *
  generalize n * one / (d * Nat.pow 2 scale) = q at *
  generalize n * one % (d * Nat.pow 2 scale) = rest at *
  -- the scale makes no difference between even and odd
  have heven : scale * leadingBit % 2 = 0 := by
    rw [show leadingBit = 2 * (leadingBit / 2) from rfl, Nat.mul_left_comm, Nat.mul_mod_right]
  intro k hk
  have hplace : k < scale * leadingBit + q ∨ k = scale * leadingBit + q ∨
      k = scale * leadingBit + q + 1 ∨ scale * leadingBit + q + 1 < k := by omega
  rcases hround with ⟨rfl, hrest'⟩ | ⟨rfl, hrest'⟩
  · rw [hlow]
    rcases hplace with hk' | hk' | rfl | hk'
    · exact .inl (hbelow k hk')
    · exact absurd hk' hk
    · rw [hhigh]
      omega
    · have := habove k hk'
      omega
  · rw [← Nat.add_assoc, hhigh]
    rcases hplace with hk' | rfl | hk' | hk'
    · have := hbelow k hk'
      omega
    · rw [hlow]
      omega
    · exact absurd (hk'.trans (Nat.add_assoc _ _ _)) hk
    · exact .inl (habove k hk')

/-- A magnitude that `n / d` reaches is no larger than the nearest one. -/
theorem IsNearest.le {n d m k : Nat} (h : IsNearest n d m) (hd : 0 < d)
    (hk : units k * d ≤ n * one) : k ≤ m := by
  apply Nat.le_of_not_lt
  intro hlt
  have hm := Nat.mul_lt_mul_of_pos_right (units_lt hlt) hd
  have hne := h k (Nat.ne_of_gt hlt)
  unfold distance at hne
  generalize n * one = x at *
  omega

/-- The nearest magnitude to less than half a unit is zero. -/
theorem IsNearest.eq_zero {n d m : Nat} (h : IsNearest n d m) (hd : 2 * (n * one) < d) : m = 0 := by
  rcases Nat.eq_zero_or_pos m with h0 | hpos
  · exact h0
  · have hunit : d ≤ units m * d :=
      Nat.le_mul_of_pos_left _ (units_pos (Nat.ne_of_gt hpos))
    have hne := h 0 (Nat.ne_of_lt hpos)
    have hzero : units 0 = 0 := units_eq_self (by decide)
    unfold distance at hne
    rw [hzero, Nat.zero_mul] at hne
    generalize n * one = x at *
    omega

theorem IsNearest.not_lt {n d m k : Nat} (hm : IsNearest n d m) (hk : IsNearest n d k)
    (hd : 0 < d) : ¬m < k := by
  intro hlt
  -- As both are even, there is a magnitude between them, and it is nearer than both.
  have hmk := hm k (Nat.ne_of_gt hlt)
  have hkm := hk m (Nat.ne_of_lt hlt)
  have hmid : m + 1 < k := by omega
  have hlow := Nat.mul_lt_mul_of_pos_right (units_lt (Nat.lt_add_one m)) hd
  have hhigh := Nat.mul_lt_mul_of_pos_right (units_lt hmid) hd
  have hnear := hm (m + 1) (by omega)
  unfold distance at hmk hkm hnear
  generalize n * one = x at *
  omega

/-- At most one magnitude is the nearest. -/
theorem IsNearest.unique {n d m k : Nat} (hm : IsNearest n d m) (hk : IsNearest n d k)
    (hd : 0 < d) : m = k :=
  Nat.le_antisymm (Nat.le_of_not_lt (hk.not_lt hm hd)) (Nat.le_of_not_lt (hm.not_lt hk hd))

end Double

namespace Decimal

/-- `m` is the magnitude nearest to the decimal, or infinity if that one is not finite. -/
def Rounds (d : Decimal) (m : Nat) : Prop :=
  ∃ r, Double.IsNearest (d.digits * Nat.pow 10 d.exponent.toNat)
    (Nat.pow 10 (-d.exponent).toNat) r ∧ m = min Double.infinite r

theorem Rounds.unique {d : Decimal} {m k : Nat} (hm : d.Rounds m) (hk : d.Rounds k) : m = k := by
  obtain ⟨r, hr, rfl⟩ := hm
  obtain ⟨r', hr', rfl⟩ := hk
  rw [hr.unique hr' (Double.natPow_pos (by decide) _)]

/-- A bound by a power of ten holds for larger powers, none of which is evaluated. -/
theorem le_natPow_mul {x y j k : Nat} (hx : x ≤ Nat.pow 10 j * y) (h : j ≤ k) :
    x ≤ Nat.pow 10 k * y :=
  Nat.le_trans hx (Nat.mul_le_mul_right y (Nat.pow_le_pow_right (by decide) h))

/-- A whole number with so many zeros is beyond all finite doubles. -/
theorem infinite_le {n k : Nat} (hn : n ≠ 0) (hk : 401 ≤ k) :
    Double.units Double.infinite * 1 ≤ n * Nat.pow 10 k * Double.one := by
  have hlarge : Double.units Double.infinite * 1 ≤ Nat.pow 10 k * Double.one :=
    le_natPow_mul (by decide +kernel) hk
  refine Nat.le_trans hlarge (Nat.mul_le_mul_right _ ?_)
  exact Nat.le_mul_of_pos_left _ (Nat.pos_of_ne_zero hn)

/-- A number that starts so far after the point is below half of the least positive double. -/
theorem two_mul_lt {n k : Nat} (h : n.log2 + 401 ≤ k) :
    2 * (n * Double.one) < Nat.pow 10 k := by
  have hn : n < Nat.pow 2 n.log2 * 2 := Nat.lt_log2_self
  have hten : Nat.pow 2 n.log2 ≤ Nat.pow 10 n.log2 := Nat.pow_le_pow_left (by decide) _
  have hsmall : 2 * (2 * Double.one) ≤ Nat.pow 10 (k - n.log2) * 1 :=
    le_natPow_mul (by decide +kernel) (Nat.le_sub_of_add_le (Nat.add_comm _ _ ▸ h))
  have hone := Double.one_pos
  have hsplit := Double.natPow_mul_natPow_sub 10 (Nat.le_trans (Nat.le_add_right _ 401) h)
  generalize Double.one = one at *
  calc 2 * (n * one) = n * (2 * one) := Nat.mul_left_comm _ _ _
    _ < Nat.pow 2 n.log2 * 2 * (2 * one) := Nat.mul_lt_mul_of_pos_right hn (by omega)
    _ = Nat.pow 2 n.log2 * (2 * (2 * one)) := Nat.mul_assoc _ _ _
    _ ≤ Nat.pow 10 n.log2 * (Nat.pow 10 (k - n.log2) * 1) := Nat.mul_le_mul hten hsmall
    _ = Nat.pow 10 k := by rw [Nat.mul_one, hsplit]

/-- Reading a decimal rounds it once. -/
theorem rounds_magnitude (d : Decimal) : d.Rounds d.magnitude := by
  have hpos : 0 < Nat.pow 10 (-d.exponent).toNat := Double.natPow_pos (by decide) _
  obtain ⟨r, hr, hnearest⟩ :=
    Double.nearest_isNearest (d.digits * Nat.pow 10 d.exponent.toNat) hpos
  refine ⟨r, hr, ?_⟩
  unfold magnitude
  split
  · next h0 =>
    rw [h0, Nat.zero_mul] at hr
    have hzero : r = 0 := hr.eq_zero (by rwa [Nat.zero_mul])
    rw [hzero, Nat.min_zero]
  · next h0 =>
    split
    · next hlarge =>
      have hone : Nat.pow 10 (-d.exponent).toNat = 1 := by
        rw [show (-d.exponent).toNat = 0 by omega, Nat.pow]
      rw [hone] at hr
      exact (Nat.min_eq_left (hr.le (by decide) (infinite_le h0 (by omega)))).symm
    · split
      · next hsmall =>
        have hone : Nat.pow 10 d.exponent.toNat = 1 := by
          rw [show d.exponent.toNat = 0 by omega, Nat.pow]
        rw [hone, Nat.mul_one] at hr
        rw [hr.eq_zero (two_mul_lt (by omega)), Nat.min_zero]
      · exact hnearest

end Decimal

end Formula
