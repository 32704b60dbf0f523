import Formula.Numeral.Scaled
import Formula.Proofs.Numeral.Rounding

/-! Scaling leads to finite doubles only.  Its significand has 64 bits, a division makes nothing
larger, and a product that would be infinite is refused. -/

namespace Formula

namespace Double

/-- A magnitude that reaches `n / d` is no smaller than the nearest one. -/
theorem IsNearest.le_of_le {n d m k : Nat} (h : IsNearest n d m) (hd : 0 < d)
    (hk : n * one ≤ units k * d) : m ≤ k := by
  apply Nat.le_of_not_lt
  intro hlt
  have hm := Nat.mul_lt_mul_of_pos_right (units_lt hlt) hd
  have hne := h k (Nat.ne_of_lt hlt)
  unfold distance at hne
  generalize n * one = x at *
  omega

theorem nearest_le {n d k : Nat} (hd : 0 < d) (hk : n * one ≤ units k * d) : nearest n d ≤ k := by
  obtain ⟨m, hm, heq⟩ := nearest_isNearest n hd
  rw [heq]
  exact Nat.le_trans (Nat.min_le_right _ _) (hm.le_of_le hd hk)

theorem le_nearest {n d k : Nat} (hd : 0 < d) (hinfinite : k ≤ infinite)
    (hk : units k * d ≤ n * one) : k ≤ nearest n d := by
  obtain ⟨m, hm, heq⟩ := nearest_isNearest n hd
  rw [heq]
  exact Nat.le_min.mpr ⟨hinfinite, hm.le hd hk⟩

theorem units_le {m k : Nat} (h : m ≤ k) : units m ≤ units k := by
  rcases Nat.eq_or_lt_of_le h with rfl | hlt
  · exact Nat.le_refl _
  · exact Nat.le_of_lt (units_lt hlt)

theorem one_le_units_powerOfTen (n : Nat) : one ≤ units (powerOfTen n) := by
  let unity := 0x3ff0000000000000
  have hunity : units unity = one := by decide +kernel
  have hpos : 0 < Nat.pow 10 n := natPow_pos (by decide) n
  have hle : unity ≤ powerOfTen n := by
    apply le_nearest Nat.one_pos (by decide)
    rw [hunity, Nat.mul_one]
    exact Nat.le_mul_of_pos_left one hpos
  rw [← hunity]
  exact units_le hle

theorem quotient_powerOfTen_le (a n : Nat) : quotient a (powerOfTen n) ≤ a := by
  have hle := one_le_units_powerOfTen n
  apply nearest_le (Nat.lt_of_lt_of_le one_pos hle)
  exact Nat.mul_le_mul_left (units a) hle

theorem isFinite_ofMagnitude (negative : Bool) {m : Nat} (h : m < infinite) :
    (ofMagnitude negative m).isFinite = true := by
  have hsign : infinite < signBit := by decide
  rw [isFinite, magnitude_ofMagnitude negative (Nat.lt_trans h hsign)]
  exact decide_eq_true h

end Double

/-- A whole number that stays so far below the largest double does not become infinite. -/
theorem Decimal.nearest_lt_infinite {n : Nat} (h : n ≤ Nat.pow 10 40) :
    Double.nearest n 1 < Double.infinite := by
  let bound := 0x4840000000000000
  have hbound : bound < Double.infinite := by decide
  have hlargest : Nat.pow 10 40 * Double.one ≤ Double.units bound * 1 := by decide +kernel
  have hle : Double.nearest n 1 ≤ bound :=
    Double.nearest_le Nat.one_pos (Nat.le_trans (Nat.mul_le_mul_right _ h) hlargest)
  exact Nat.lt_of_le_of_lt hle hbound

theorem Decimal.scaled?_lt_infinite {d : Decimal} {m : Nat}
    (hd : d.digits ≤ Numeral.largestSignificand) (h : d.scaled? = some m) :
    m < Double.infinite := by
  have hstart := nearest_lt_infinite (Nat.le_trans hd (by decide))
  have hquotient : ∀ a n, a < Double.infinite →
      Double.quotient a (Double.powerOfTen n) < Double.infinite :=
    fun a n ha => Nat.lt_of_le_of_lt (Double.quotient_powerOfTen_le a n) ha
  have hzero : 0 < Double.infinite := by decide
  unfold scaled? at h
  dsimp only at h
  split at h
  · exact Option.some.inj h ▸ hzero
  · split at h
    · exact absurd h.symm (Option.some_ne_none m)
    · split at h
      · split at h
        · next hproduct => exact Option.some.inj h ▸ hproduct
        · exact absurd h.symm (Option.some_ne_none m)
      · split at h
        · exact Option.some.inj h ▸ hquotient _ _ hstart
        · split at h
          · exact Option.some.inj h ▸ hquotient _ _ (hquotient _ _ hstart)
          · exact Option.some.inj h ▸ hzero

namespace Numeral

theorem extend_le {n : Nat} (h : n ≤ largestSignificand) (cs : List Char) :
    (extend n cs).1 ≤ largestSignificand := by
  induction cs generalizing n with
  | nil => exact h
  | cons c cs ih =>
    rw [extend]
    split
    · exact h
    · next hnext => exact ih (Nat.le_of_not_lt hnext)

/-- A numeral is read as a finite double or refused. -/
theorem isFinite_of_scaled? {n : Numeral} {v : Double} (h : n.scaled? = some v) :
    v.isFinite = true := by
  obtain ⟨m, hm, rfl⟩ := Option.map_eq_some_iff.mp h
  have hkept : n.kept.digits ≤ largestSignificand := extend_le (extend_le (Nat.zero_le _) _) _
  exact Double.isFinite_ofMagnitude _ (Decimal.scaled?_lt_infinite hkept hm)

end Numeral

end Formula
