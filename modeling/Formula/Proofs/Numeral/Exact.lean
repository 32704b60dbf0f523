import Formula.Proofs.Numeral.Scaling

/-! Numerals of few digits are read by scaling as what they stand for.  A significand of 53 bits and
the powers of ten up to `10 ^ 22` are doubles themselves, so the only step that rounds is the
product or the quotient, and it rounds the number that is written.  Whole numbers of that size are
written with their own digits, too. -/

namespace Formula

namespace Double

/-! ### Whole numbers that are not rounded -/

/-- A whole number that fits into a significand is a finite magnitude. -/
theorem exists_units_eq {n : Nat} (h : n ≤ 2 * leadingBit) :
    ∃ m < infinite, units m = n * one := by
  by_cases hn : n = 0
  · subst hn
    exact ⟨0, by decide, by rw [units_eq_self (by decide), Nat.zero_mul]⟩
  -- The bits are moved up until the first one stands where a significand has it.
  let k := 52 - n.log2
  have hlog : n.log2 < 54 := (Nat.log2_lt hn).mpr (Nat.lt_of_le_of_lt h (by decide))
  have hlow : leadingBit ≤ n * Nat.pow 2 k :=
    calc leadingBit = 2 ^ 52 := rfl
      _ ≤ 2 ^ (n.log2 + k) := Nat.pow_le_pow_right (by decide) (by omega)
      _ = 2 ^ n.log2 * 2 ^ k := Nat.pow_add 2 _ _
      _ ≤ n * 2 ^ k := Nat.mul_le_mul_right _ (Nat.log2_self_le hn)
  have hhigh : n * Nat.pow 2 k ≤ 2 * leadingBit := by
    by_cases hk : k = 0
    · rw [hk, Nat.pow, Nat.mul_one]
      exact h
    · calc n * 2 ^ k ≤ 2 ^ (n.log2 + 1) * 2 ^ k :=
            Nat.mul_le_mul_right _ (Nat.le_of_lt Nat.lt_log2_self)
        _ = 2 ^ (n.log2 + 1 + k) := (Nat.pow_add 2 _ _).symm
        _ = 2 ^ 53 := by
          congr 1
          omega
        _ = 2 * leadingBit := rfl
  refine ⟨(1074 - k) * leadingBit + n * Nat.pow 2 k, ?_, ?_⟩
  · generalize n * Nat.pow 2 k = q at hhigh
    unfold leadingBit infinite at *
    omega
  · rw [units_scale_add hhigh (.inr hlow), Nat.mul_assoc, natPow_mul_natPow_sub 2 (by omega), one]

theorem units_nearest {n : Nat} (h : n ≤ 2 * leadingBit) : units (nearest n 1) = n * one := by
  obtain ⟨m, hm, hunits⟩ := exists_units_eq h
  rw [nearest_eq hm Nat.one_pos (by rw [hunits, Nat.mul_one]), hunits]

/-- No other whole number is rounded to one that fits into a significand. -/
theorem eq_of_nearest_eq {n k : Nat} (hn : n < 2 * leadingBit) (h : nearest k 1 = nearest n 1) :
    k = n := by
  have hunits := units_nearest (Nat.le_of_lt hn)
  by_cases hk : k ≤ 2 * leadingBit
  · rw [← h, units_nearest hk] at hunits
    exact Nat.eq_of_mul_eq_mul_right one_pos hunits
  · -- what is beyond the significands is not rounded into them
    obtain ⟨m, hm, hbound⟩ := exists_units_eq (Nat.le_refl (2 * leadingBit))
    have hle : m ≤ nearest k 1 := by
      apply le_nearest Nat.one_pos (Nat.le_of_lt hm)
      rw [hbound, Nat.mul_one]
      exact Nat.mul_le_mul_right _ (Nat.le_of_not_le hk)
    have hover := units_le hle
    rw [h, hunits, hbound] at hover
    exact absurd (Nat.le_of_mul_le_mul_right hover one_pos) (Nat.not_le.mpr hn)

theorem units_powerOfTen : ∀ k ≤ 22, units (powerOfTen k) = Nat.pow 10 k * one := by
  decide +kernel

/-! ### Products and quotients of whole numbers -/

theorem divNearest_mul_right (n d : Nat) {c : Nat} (hc : 0 < c) :
    divNearest (n * c) (d * c) = divNearest n d := by
  have hlt : ∀ r, (2 * (r * c) < d * c ↔ 2 * r < d) ∧ (d * c < 2 * (r * c) ↔ d < 2 * r) := by
    intro r
    rw [← Nat.mul_assoc]
    exact ⟨Nat.mul_lt_mul_right hc, Nat.mul_lt_mul_right hc⟩
  simp only [divNearest, Nat.mul_div_mul_right _ _ hc, Nat.mul_mod_mul_right, hlt]

/-- A fraction may be expanded before it is rounded. -/
theorem nearest_mul_right (n d : Nat) {c : Nat} (hc : 0 < c) :
    nearest (n * c) (d * c) = nearest n d := by
  have hn : n * c * one = n * one * c := Nat.mul_right_comm _ _ _
  have hd : ∀ s, d * c * Nat.pow 2 s = d * Nat.pow 2 s * c := fun s => Nat.mul_right_comm _ _ _
  simp only [nearest, hn, hd, Nat.mul_div_mul_right _ _ hc, divNearest_mul_right _ _ hc]

variable {a b n k : Nat}

theorem product_eq (ha : units a = n * one) (hb : units b = k * one) :
    product a b = nearest (n * k) 1 := by
  have hexpand := nearest_mul_right (n * k) 1 (Nat.mul_pos one_pos one_pos)
  rw [Nat.one_mul] at hexpand
  rw [product, ha, hb, Nat.mul_mul_mul_comm, hexpand]

theorem quotient_eq (ha : units a = n * one) (hb : units b = k * one) :
    quotient a b = nearest n k := by
  rw [quotient, ha, hb, nearest_mul_right n k one_pos]

end Double

/-! ### Decimals and numerals -/

namespace Decimal

variable {d : Decimal}

/-- Written as a fraction, a decimal is rounded to the magnitude that it stands for. -/
theorem magnitude_eq_nearest (d : Decimal) : d.magnitude =
    Double.nearest (d.digits * Nat.pow 10 d.exponent.toNat) (Nat.pow 10 (-d.exponent).toNat) := by
  have hpos : 0 < Nat.pow 10 (-d.exponent).toNat := Double.natPow_pos (by decide) _
  obtain ⟨r, hr, hmagnitude⟩ := rounds_magnitude d
  obtain ⟨k, hk, hnearest⟩ := Double.nearest_isNearest (d.digits * Nat.pow 10 d.exponent.toNat) hpos
  rw [hmagnitude, hnearest, hr.unique hk hpos]

theorem magnitude_natCast (n k : Nat) : magnitude ⟨n, k⟩ = Double.nearest (n * Nat.pow 10 k) 1 := by
  have hdown : (-(k : Int)).toNat = 0 := by omega
  rw [magnitude_eq_nearest, hdown, Int.toNat_natCast, Nat.pow]

theorem magnitude_neg_natCast (n k : Nat) :
    magnitude ⟨n, -k⟩ = Double.nearest n (Nat.pow 10 k) := by
  have hup : (-(k : Int)).toNat = 0 := by omega
  rw [magnitude_eq_nearest, hup, Int.neg_neg, Int.toNat_natCast, Nat.pow, Nat.mul_one]

theorem magnitude_whole (n : Nat) : magnitude ⟨n, 0⟩ = Double.nearest n 1 := by
  have h : magnitude ⟨n, 0⟩ = Double.nearest (n * 1) 1 := magnitude_natCast n 0
  rwa [Nat.mul_one] at h

/-- A zero may be added and the point moved before it. -/
theorem magnitude_mul_ten (n : Nat) : magnitude ⟨n * 10, -1⟩ = magnitude ⟨n, 0⟩ := by
  have hten : magnitude ⟨n * 10, -1⟩ = Double.nearest (n * 10) 10 := magnitude_neg_natCast _ 1
  have hfraction := Double.nearest_mul_right n 1 (Nat.succ_pos 9)
  rw [hten, magnitude_whole]
  exact hfraction

/-- Scaling a decimal of few digits rounds once, and so leads to what it stands for. -/
theorem scaled?_eq_magnitude (hdigits : d.digits ≤ 2 * Double.leadingBit)
    (hlow : -22 ≤ d.exponent) (hhigh : d.exponent ≤ 22) : d.scaled? = some d.magnitude := by
  have hstart := Double.units_nearest hdigits
  obtain ⟨n, e⟩ := d
  dsimp only at hdigits hlow hhigh hstart
  unfold scaled?
  dsimp only
  split
  · next hzero => simp [magnitude, hzero]
  rw [if_neg (by omega)]
  split
  · next hup =>
    obtain ⟨k, rfl⟩ := Int.eq_ofNat_of_zero_le hup
    have hk : k ≤ 22 := by omega
    have hproduct := Double.product_eq hstart (Double.units_powerOfTen k hk)
    have hsize : n * Nat.pow 10 k ≤ Nat.pow 10 40 :=
      calc n * 10 ^ k ≤ 2 * Double.leadingBit * 10 ^ 22 :=
            Nat.mul_le_mul hdigits (Nat.pow_le_pow_right (by decide) hk)
        _ ≤ 10 ^ 40 := by decide
    rw [Int.toNat_natCast, hproduct, magnitude_natCast, if_pos (nearest_lt_infinite hsize)]
  · next hdown =>
    obtain ⟨k, rfl⟩ := Int.exists_eq_neg_ofNat (Int.le_of_not_le hdown)
    have hk : k ≤ 22 := by omega
    have hquotient := Double.quotient_eq hstart (Double.units_powerOfTen k hk)
    rw [if_pos (by omega), Int.neg_neg, Int.toNat_natCast, hquotient, magnitude_neg_natCast]

end Decimal

namespace Numeral

theorem le_ofDigitChars (n : Nat) (cs : List Char) : n ≤ Nat.ofDigitChars 10 cs n := by
  induction cs generalizing n with
  | nil => exact Nat.le_refl n
  | cons c cs ih =>
    rw [Nat.ofDigitChars_cons]
    exact Nat.le_trans (by omega) (ih _)

/-- No digit is dropped from a significand that never becomes too large. -/
theorem extend_eq {n : Nat} {cs : List Char} (h : Nat.ofDigitChars 10 cs n ≤ largestSignificand) :
    extend n cs = (Nat.ofDigitChars 10 cs n, cs.length) := by
  induction cs generalizing n with
  | nil => rfl
  | cons c cs ih =>
    rw [Nat.ofDigitChars_cons, Nat.mul_comm] at h
    have hnext := Nat.le_trans (le_ofDigitChars _ cs) h
    rw [extend, if_neg (Nat.not_lt.mpr hnext), ih h, Nat.ofDigitChars_cons, Nat.mul_comm 10]
    rfl

theorem kept_eq_decimal {n : Numeral} (h : n.decimal.digits ≤ largestSignificand) :
    n.kept = n.decimal := by
  have hall : Nat.ofDigitChars 10 n.fraction (Nat.ofDigitChars 10 n.whole 0) ≤
      largestSignificand := by
    rwa [← Nat.ofDigitChars_append]
  have hwhole := Nat.le_trans (le_ofDigitChars _ _) hall
  simp [kept, decimal, extend_eq hwhole, extend_eq hall, Nat.ofDigitChars_append]

/-- A numeral of few digits is read as the double nearest to it. -/
theorem scaled?_eq_value {n : Numeral} (hdigits : n.decimal.digits ≤ 2 * Double.leadingBit)
    (hlow : -22 ≤ n.decimal.exponent) (hhigh : n.decimal.exponent ≤ 22) :
    n.scaled? = some n.value := by
  have hkept : n.kept = n.decimal := kept_eq_decimal (Nat.le_trans hdigits (by decide))
  rw [scaled?, hkept, Decimal.scaled?_eq_magnitude hdigits hlow hhigh, value]
  rfl

end Numeral

namespace Decimal

/-! ### Whole numbers as they are written -/

variable {tie : Tie} {m n : Nat}

theorem exponent_of_onGrid? {e : Int} {d : Decimal} (h : onGrid? tie m e = some d) :
    d.exponent = e := by
  simp only [onGrid?] at h
  split at h
  · split at h <;> exact Option.some.inj h ▸ rfl
  · split at h
    · exact Option.some.inj h ▸ rfl
    · contradiction

/-- The search goes down and ends at the first grid that holds a decimal, so no lower than at one
that is known to. -/
theorem exponent_search {tries : Nat} {e start : Int}
    (hgrid : onGrid? tie m e ≠ none) (hstart : e ≤ start) (htries : start < e + tries) :
    e ≤ (search tie m tries start).exponent ∧ (search tie m tries start).exponent ≤ start := by
  induction tries generalizing start with
  | zero => omega
  | succ tries ih =>
    unfold search
    split
    · next hd =>
      rw [exponent_of_onGrid? hd]
      exact ⟨hstart, Int.le_refl start⟩
    · next hnone =>
      have hne : e ≠ start := by
        rintro rfl
        exact hgrid hnone
      have hnext : e ≤ start - 1 := by omega
      obtain ⟨hlow, hhigh⟩ := ih hnext (by omega)
      exact ⟨hlow, by omega⟩

theorem below_zero (n d : Nat) : below n d 0 = n / d := by
  have h : below n d 0 = n * 1 / (d * 1) := rfl
  rw [h, Nat.mul_one, Nat.mul_one]

/-- The grid of the whole numbers holds every whole number. -/
theorem onGrid?_whole (tie : Tie) (hunits : Double.units m = n * Double.one)
    (hm : Double.nearest n 1 = m) : onGrid? tie m 0 ≠ none := by
  have hlower : magnitude ⟨n, 0⟩ = m := (magnitude_whole n).trans hm
  unfold onGrid?
  dsimp only
  rw [hunits, below_zero, Nat.mul_div_cancel _ Double.one_pos, if_pos hlower]
  split <;> exact Option.some_ne_none _

/-- The first power of ten that is tried for a whole number is none of the last ones. -/
theorem order_whole (hpos : 0 < n) (hn : n < Nat.pow 10 19)
    (hunits : Double.units m = n * Double.one) : 0 ≤ order m ∧ order m < 20 := by
  have hle : Double.one ≤ n * Double.one := Nat.le_mul_of_pos_left _ hpos
  have hlength := (Nat.length_toDigits_le_iff (by decide) (by decide)).mpr hn
  rw [order, hunits, if_pos hle, Nat.mul_div_cancel _ Double.one_pos]
  omega

/-- The shortest decimal of a whole number says it to the last digit. -/
theorem shortest_whole (tie : Tie) (hn : n < 2 * Double.leadingBit)
    (hm : Double.nearest n 1 = m) :
    (shortest tie m).digits * Nat.pow 10 (shortest tie m).exponent.toNat = n ∧
      0 ≤ (shortest tie m).exponent ∧ (shortest tie m).exponent < 20 := by
  have hunits := Double.units_nearest (Nat.le_of_lt hn)
  have hsmall : n < Nat.pow 10 19 := Nat.lt_trans hn (by decide)
  have hfinite := nearest_lt_infinite (Nat.le_trans (Nat.le_of_lt hn) (by decide))
  rw [hm] at hunits hfinite
  have hmagnitude := magnitude_shortest tie hfinite
  have hexponent : 0 ≤ (shortest tie m).exponent ∧ (shortest tie m).exponent < 20 := by
    unfold shortest
    split
    · decide
    · next hne =>
      have hpos : 0 < n := by
        apply Nat.pos_of_ne_zero
        rintro rfl
        exact hne (hm.symm.trans (by decide +kernel))
      obtain ⟨hlow, hhigh⟩ := order_whole hpos hsmall hunits
      have htries : order m < 0 + (20 : Nat) := by omega
      obtain ⟨hup, hle⟩ := exponent_search (onGrid?_whole tie hunits hm) hlow htries
      exact ⟨hup, Int.lt_of_le_of_lt hle hhigh⟩
  refine ⟨?_, hexponent⟩
  generalize shortest tie m = d at *
  obtain ⟨digits, e⟩ := d
  obtain ⟨k, rfl⟩ := Int.eq_ofNat_of_zero_le hexponent.1
  rw [magnitude_natCast, ← hm] at hmagnitude
  exact Double.eq_of_nearest_eq hn hmagnitude

end Decimal

end Formula
