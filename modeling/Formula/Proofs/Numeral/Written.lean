import Formula.Numeral
import Formula.Proofs.Numeral.Nearest

/-! Numerals as they are written.  A decimal in positional notation stands for the same double as
before; with `Decimal.magnitude_shortest` this makes the text of a finite double one that stands for
it.  What follows a number matters only where it could go on with it. -/

namespace Formula

/-- The double without its sign. -/
def Double.abs (v : Double) : Double := .ofMagnitude false v.magnitude

/-- Whether a text may stand right after a number without being taken for part of it. -/
def Numeral.Ends (cs : List Char) : Prop :=
  ∀ c ∈ cs.head?, c.isDigit = false ∧ c ≠ '.' ∧ c ≠ 'e' ∧ c ≠ 'E'

namespace Numeral

/-- An unsigned numeral without exponent: digits, and more of them after a point if any. -/
structure Plain (n : Numeral) : Prop where
  negative : n.negative = false
  whole_ne_nil : n.whole ≠ []
  whole : ∀ c ∈ n.whole, c.isDigit = true
  fraction : ∀ c ∈ n.fraction, c.isDigit = true
  exponent : n.exponent = none

/-! ### The decimal that is written -/

/-- Zeros are written out in place of a positive exponent. -/
theorem decimal_positional (negative : Bool) (d : Decimal) :
    (positional negative d).decimal =
      ⟨d.digits * Nat.pow 10 d.exponent.toNat, min d.exponent 0⟩ := by
  have hdigits : Nat.ofDigitChars 10 (Nat.toDigits 10 d.digits) 0 = d.digits :=
    Nat.ofDigitChars_ten_toDigits
  dsimp only [positional]
  split
  · next hlt =>
    -- The point stands among the digits, or after them and the zeros.
    by_cases he : d.exponent ≤ 0
    · have hup : d.exponent.toNat = 0 := by omega
      simp [decimal, hup, hdigits]
      omega
    · have hdown : (-d.exponent).toNat = 0 := by omega
      simp [decimal, hdown, Nat.ofDigitChars_append, hdigits, Nat.mul_comm]
      omega
  · next hlt =>
    have hpos : 0 < (Nat.toDigits 10 d.digits).length := Nat.length_toDigits_pos
    have hup : d.exponent.toNat = 0 := by omega
    simp [decimal, hup, Nat.ofDigitChars_cons, Nat.ofDigitChars_append, hdigits]
    omega

/-- Written out, a decimal stands for the same double: one that stands for a finite double has no
exponent that reading would not look at the digits for. -/
theorem magnitude_decimal_positional (negative : Bool) {d : Decimal}
    (hd : d.magnitude < Double.infinite) :
    (positional negative d).decimal.magnitude = d.magnitude := by
  rw [decimal_positional]
  by_cases he : d.exponent ≤ 0
  · have hup : d.exponent.toNat = 0 := by omega
    simp [hup, Int.min_eq_left he]
  · rw [Int.min_eq_right (by omega)]
    by_cases h0 : d.digits = 0
    · simp [Decimal.magnitude, h0]
    · have hsmall : ¬400 < d.exponent := by
        intro hlarge
        simp [Decimal.magnitude, h0, hlarge] at hd
      have hdown : (-d.exponent).toNat = 0 := by omega
      have hne : d.digits * 10 ^ d.exponent.toNat ≠ 0 :=
        Nat.mul_ne_zero h0 (Nat.ne_of_gt (Nat.pow_pos (by decide)))
      have hlog : ¬((d.digits * 10 ^ d.exponent.toNat).log2 : Int) < -400 := by omega
      have hlog' : ¬d.exponent + (d.digits.log2 : Int) < -400 := by omega
      simp [Decimal.magnitude, h0, hsmall, hdown, hne, hlog, hlog']

theorem isDigit_toDigits (n : Nat) : ∀ c ∈ Nat.toDigits 10 n, c.isDigit = true :=
  fun _ => Nat.isDigit_of_mem_toDigits (by decide) (by decide)

theorem plain_positional (d : Decimal) : (positional false d).Plain := by
  have hdigits := isDigit_toDigits d.digits
  have hzeros : ∀ k, ∀ c ∈ List.replicate k '0', c.isDigit = true := by
    intro k c hc
    rw [List.eq_of_mem_replicate hc]
    rfl
  dsimp only [positional]
  split
  · next hlt =>
    refine ⟨rfl, ?_, ?_, fun c hc => hdigits c (List.mem_of_mem_drop hc), rfl⟩
    · apply List.append_ne_nil_of_left_ne_nil
      rw [Ne, List.take_eq_nil_iff]
      simp
      omega
    · intro c hc
      rcases List.mem_append.mp hc with hc | hc
      · exact hdigits c (List.mem_of_mem_take hc)
      · exact hzeros _ c hc
  · refine ⟨rfl, by simp, by simp, fun c hc => ?_, rfl⟩
    rcases List.mem_append.mp hc with hc | hc
    · exact hzeros _ c hc
    · exact hdigits c hc

/-! ### The text that is read -/

theorem digits_append_of_all {ds rest : List Char} (hds : ∀ c ∈ ds, c.isDigit = true)
    (hrest : ∀ c ∈ rest.head?, c.isDigit = false) :
    digits (ds ++ rest) = ⟨ds, ds, rest⟩ := by
  have hstop : rest.takeWhile Char.isDigit = [] ∧ rest.dropWhile Char.isDigit = rest := by
    cases rest with
    | nil => simp
    | cons c rest => simp [hrest c rfl]
  unfold digits
  rw [List.takeWhile_append_of_pos hds, List.dropWhile_append_of_pos hds, hstop.1, hstop.2,
    List.append_nil]

theorem fractionPart_of_ends {cs : List Char} (h : Ends cs) : fractionPart cs = .none [] cs := by
  unfold fractionPart
  split
  · next rest => exact absurd rfl (h '.' rfl).2.1
  · rfl

theorem exponentPart_of_ends {cs : List Char} (h : Ends cs) : exponentPart cs = .none none cs := by
  unfold exponentPart
  split
  · next c rest =>
    obtain ⟨-, -, he, hE⟩ := h c rfl
    simp [he, hE]
  · rfl

theorem isDigit_head_text {n : Numeral} (hn : n.Plain) :
    ∀ c ∈ n.text.toList.head?, c.isDigit = true := by
  obtain ⟨negative, whole, fraction, exponent⟩ := n
  obtain ⟨rfl, hne, hwhole, -, rfl⟩ := hn
  obtain ⟨c, whole, rfl⟩ := List.exists_cons_of_ne_nil hne
  intro d hd
  obtain rfl : c = d := by simpa [text] using hd
  exact hwhole c (by simp)

theorem text_negative (whole fraction : List Char) (exponent : Option Int) :
    text ⟨true, whole, fraction, exponent⟩ = "-" ++ text ⟨false, whole, fraction, exponent⟩ := by
  simp [text, String.append_assoc]

end Numeral

namespace Double

variable {v : Double}

theorem magnitude_lt_of_isFinite (h : v.isFinite = true) : v.magnitude < infinite := by
  simpa [isFinite] using h

theorem text_of_isFinite (h : v.isFinite = true) : v.text = v.plain.text := by
  have hlt := magnitude_lt_of_isFinite h
  have hnan : v.isNaN = false := by
    simp [isNaN]
    omega
  simp [text, h, hnan]

/-- What a finite double is written as stands for that double. -/
theorem value_plain (h : v.isFinite = true) : v.plain.value = v := by
  have hm := Decimal.magnitude_shortest .up (magnitude_lt_of_isFinite h)
  have hfinite : (Decimal.shortest .up v.magnitude).magnitude < infinite := by
    rw [hm]
    exact magnitude_lt_of_isFinite h
  have hsign : v.plain.negative = v.negative := by
    dsimp only [plain, Numeral.positional]
    split <;> rfl
  rw [Numeral.value, hsign, plain, Numeral.magnitude_decimal_positional _ hfinite, hm,
    ofMagnitude_magnitude]

theorem plain_of_not_negative (hv : v.negative = false) : v.plain.Plain := by
  rw [plain, hv]
  exact Numeral.plain_positional _

theorem isDigit_head_text (h : v.isFinite = true) (hv : v.negative = false) :
    ∀ c ∈ v.text.toList.head?, c.isDigit = true := by
  rw [text_of_isFinite h]
  exact Numeral.isDigit_head_text (plain_of_not_negative hv)

theorem magnitude_abs : v.abs.magnitude = v.magnitude :=
  magnitude_ofMagnitude false (Nat.mod_lt _ (by decide))

theorem negative_abs : v.abs.negative = false :=
  negative_ofMagnitude false (Nat.mod_lt _ (by decide))

theorem isFinite_abs : v.abs.isFinite = v.isFinite := by
  rw [isFinite, magnitude_abs, isFinite]

/-- The sign is written before the number. -/
theorem text_of_negative (h : v.isFinite = true) (hv : v.negative = true) :
    v.text = "-" ++ v.abs.text := by
  rw [text_of_isFinite h, text_of_isFinite (isFinite_abs.trans h), plain, plain, hv, magnitude_abs,
    negative_abs]
  dsimp only [Numeral.positional]
  split <;> exact Numeral.text_negative _ _ _

end Double

end Formula
