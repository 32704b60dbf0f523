import Formula.Proofs.Numeral.Exact
import Formula.Proofs.Tree.Document

/-! Doubles that come back from documents.  What is written for a finite double always stands for
it, so scaling leads back to it wherever scaling does not round twice: for numerals of few digits,
and with that for all whole numbers of up to fourteen digits, of either sign. -/

namespace Formula

namespace Numeral

theorem exponent_positional (negative : Bool) (d : Decimal) :
    (positional negative d).exponent = none := by
  dsimp only [positional]
  split <;> rfl

theorem decimal_scientific (negative : Bool) (d : Decimal) :
    (scientific negative d).decimal = d := by
  have hpos : 0 < (Nat.toDigits 10 d.digits).length := Nat.length_toDigits_pos
  have hexponent : d.exponent + (Nat.toDigits 10 d.digits).length - 1 -
      ((Nat.toDigits 10 d.digits).length - 1 : Nat) = d.exponent := by omega
  rw [decimal, scientific, List.take_append_drop, Nat.ofDigitChars_ten_toDigits, List.length_drop,
    Option.getD_some, hexponent]

/-- A fraction of one zero adds a digit and moves the point by one. -/
theorem decimal_zeroFraction {n : Numeral} (hfraction : n.fraction = [])
    (hexponent : n.exponent = none) :
    { n with fraction := ['0'] }.decimal = ⟨n.decimal.digits * 10, -1⟩ := by
  simp [decimal, hfraction, hexponent, Nat.ofDigitChars_append, Nat.ofDigitChars_cons, Nat.mul_comm]

end Numeral

namespace Double

variable {v : Double}

/-! ### What is written -/

/-- The decimal in a document is the shortest one, or the whole number that this is, perhaps with a
zero after the point. -/
theorem decimal_documented (v : Double) :
    let d := Decimal.shortest .even v.magnitude
    let whole := d.digits * Nat.pow 10 d.exponent.toNat
    v.documented.decimal = d ∨ v.documented.decimal = ⟨whole, min d.exponent 0⟩ ∨
      0 ≤ d.exponent ∧ v.documented.decimal = ⟨whole * 10, -1⟩ := by
  intro d whole
  have hpositional : (Numeral.positional v.negative d).decimal = ⟨whole, min d.exponent 0⟩ :=
    Numeral.decimal_positional v.negative d
  have hnone := Numeral.exponent_positional v.negative d
  unfold documented
  dsimp only
  split
  · split
    · next hempty =>
      right; right
      have hfraction : (Numeral.positional v.negative d).fraction = [] := List.isEmpty_iff.mp hempty
      have hup : 0 = min d.exponent 0 := by
        simpa [Numeral.decimal, hnone, hfraction] using congrArg Decimal.exponent hpositional
      rw [Numeral.decimal_zeroFraction hfraction hnone, hpositional]
      exact ⟨by omega, rfl⟩
    · exact .inr (.inl hpositional)
  · exact .inl (Numeral.decimal_scientific v.negative d)

theorem negative_documented (v : Double) : v.documented.negative = v.negative := by
  unfold documented Numeral.positional Numeral.scientific
  dsimp only
  repeat' split
  all_goals rfl

/-- What a document has for a finite double stands for it. -/
theorem value_documented (h : v.isFinite = true) : v.documented.value = v := by
  have hlt := magnitude_lt_of_isFinite h
  have hshortest := Decimal.magnitude_shortest .even hlt
  have hwhole := Numeral.magnitude_decimal_positional v.negative (hshortest ▸ hlt)
  rw [hshortest, Numeral.decimal_positional] at hwhole
  have hwritten : v.documented.decimal.magnitude = v.magnitude := by
    rcases decimal_documented v with hd | hd | ⟨hup, hd⟩
    · rw [hd, hshortest]
    · rw [hd, hwhole]
    · rw [Int.min_eq_right hup] at hwhole
      rw [hd, Decimal.magnitude_mul_ten, hwhole]
  rw [Numeral.value, negative_documented, hwritten, ofMagnitude_magnitude]

/-- A finite double that is written with few digits is read back. -/
theorem reread?_of_short (h : v.isFinite = true)
    (hdigits : v.documented.decimal.digits ≤ 2 * leadingBit)
    (hlow : -22 ≤ v.documented.decimal.exponent) (hhigh : v.documented.decimal.exponent ≤ 22) :
    v.reread? = some v := by
  rw [reread?, if_pos h, Numeral.scaled?_eq_value hdigits hlow hhigh, value_documented h]

/-! ### Whole numbers -/

/-- A whole number of up to fourteen digits, and a little beyond, is read back with either sign,
zero included. -/
theorem reread?_of_whole {n : Nat} (hn : n * 10 ≤ 2 * leadingBit)
    (hm : nearest n 1 = v.magnitude) : v.reread? = some v := by
  have hsmall : n < 2 * leadingBit := by
    unfold leadingBit at *
    omega
  have hfinite : v.isFinite = true := by
    rw [isFinite, ← hm]
    exact decide_eq_true (Decimal.nearest_lt_infinite
      (Nat.le_trans (Nat.le_of_lt hsmall) (by decide)))
  obtain ⟨hwhole, hup, hhigh⟩ := Decimal.shortest_whole .even hsmall hm
  have hwritten := decimal_documented v
  generalize Decimal.shortest .even v.magnitude = d at *
  have hle : d.digits ≤ n := hwhole ▸ Nat.le_mul_of_pos_right _ (natPow_pos (by decide) _)
  dsimp only at hwritten
  rw [hwhole, Int.min_eq_right hup] at hwritten
  have hshort : v.documented.decimal.digits ≤ n * 10 ∧ -1 ≤ v.documented.decimal.exponent ∧
      v.documented.decimal.exponent < 20 := by
    rcases hwritten with hd | hd | ⟨-, hd⟩ <;> rw [hd]
    · omega
    · dsimp only
      omega
    · dsimp only
      omega
  exact reread?_of_short hfinite (by omega) (by omega) (by omega)

/-- Negative zero. -/
example : (ofMagnitude true 0).reread? = some (ofMagnitude true 0) := by decide +kernel

end Double

namespace Tree

/-- A tree that nests no deeper than documents may and has such whole numbers only is read back from
its document. -/
theorem ofDocument?_of_whole {t : Tree} (hroom : t.containers ≤ documentRoom)
    (h : ∀ v ∈ t.numbers, ∃ n, n * 10 ≤ 2 * Double.leadingBit ∧
      Double.nearest n 1 = v.magnitude) : ofDocument? t.document = some t := by
  rw [ofDocument?_eq_reread?, if_pos hroom, reread?_eq_self_iff]
  intro v hv
  obtain ⟨n, hn, hm⟩ := h v hv
  exact Double.reread?_of_whole hn hm

end Tree

end Formula
