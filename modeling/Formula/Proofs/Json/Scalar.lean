import Formula.Json.Reader
import Formula.Proofs.Numeral.Literal

/-! Strings and numbers of JSON texts.  A text that is quoted is read as itself, whatever characters
it has, and a numeral in the form that JSON allows is read as that numeral. -/

namespace Formula

namespace Json

/-! ### Strings -/

/-- The piece that a character in quotation marks is read as.  A control character that has no
escape of its own is written by its number. -/
def piece (c : Char) : Piece :=
  if c.toNat < 0x20 ∧ c ∉ ['\x08', '\x0c', '\n', '\r', '\t'] then .unit c.toNat else .plain c

theorem unit?_hexDigit : ∀ n < 0x20, unit? '0' '0' (hexDigit (n / 16)) (hexDigit n) = some n := by
  decide

theorem pieces?_escape (c : Char) (rest : List Char) :
    pieces? (escape c ++ rest) = do
      let (more, rest) ← pieces? rest
      return (piece c :: more, rest) := by
  unfold escape
  iterate 7
    split
    · next hc =>
      subst hc
      rfl
  split
  · next hcontrol =>
    have hpiece : piece c = .unit c.toNat := by simp [piece, *]
    simp only [List.cons_append, List.nil_append]
    rw [pieces?, unit?_hexDigit _ hcontrol, hpiece]
    rfl
  · next hquote hslash _ _ _ _ _ hprinted =>
    have hpiece : piece c = .plain c := by simp [piece, hprinted]
    simp only [List.cons_append, List.nil_append]
    rw [pieces?, hpiece]
    · simp [hprinted, hslash]
    all_goals simp_all

theorem pieces?_flatMap_escape (cs rest : List Char) :
    pieces? (cs.flatMap escape ++ '"' :: rest) = some (cs.map piece, rest) := by
  induction cs with
  | nil => rfl
  | cons c cs ih =>
    rw [List.flatMap_cons, List.append_assoc, pieces?_escape, ih]
    rfl

theorem spell?_unit {value : Nat} (h : value < 0xd800) (rest : List Piece) :
    spell? (.unit value :: rest) = (spell? rest).map (Char.ofNat value :: ·) := by
  have hhigh : isHighSurrogate value = false := by simp [isHighSurrogate]; omega
  have hlow : isLowSurrogate value = false := by simp [isLowSurrogate]; omega
  rcases rest with _ | ⟨_ | _, rest⟩ <;> simp [spell?, hhigh, hlow]

/-- The pieces of a text spell it: none of them is half of a surrogate pair. -/
theorem spell?_map_piece (cs : List Char) : spell? (cs.map piece) = some cs := by
  induction cs with
  | nil => rfl
  | cons c cs ih =>
    rw [List.map_cons, piece]
    split
    · next hcontrol =>
      rw [spell?_unit (by omega), ih, Char.ofNat_toNat]
      rfl
    · rw [spell?, ih]
      rfl

theorem string?_quote (text : String) (rest : List Char) :
    string? ((quote text).toList ++ rest) = some (some text, rest) := by
  have htext : (quote text).toList ++ rest =
      '"' :: (text.toList.flatMap escape ++ '"' :: rest) := by
    simp [quote]
  rw [htext, string?, pieces?_flatMap_escape]
  simp [spell?_map_piece]

end Json

/-! ### Numbers -/

namespace Numeral

/-- The form that JSON gives to numbers: digits before the point, with no zero before others, and
digits after it. -/
structure Proper (n : Numeral) : Prop where
  digits : Digits n.whole
  leading : n.whole.length = 1 ∨ n.whole.head? ≠ some '0'
  fraction : ∀ c ∈ n.fraction, c.isDigit = true

end Numeral

namespace Json

open Numeral in
/-- A numeral in the form of JSON is read as itself, if its text does not go on as a number. -/
theorem number?_text {n : Numeral} (hn : n.Proper) {rest : List Char} (hrest : Ends rest) :
    number? (n.text.toList ++ rest) = some (n, rest) := by
  obtain ⟨negative, whole, fraction, exponent⟩ := n
  have hliteral : Literal (text ⟨false, whole, fraction, exponent⟩).toList _ :=
    literal_text rfl hn.digits hn.fraction
  obtain ⟨part, hscan, -, hpart⟩ := hliteral.scan? rest
  rw [hpart hrest] at hscan
  obtain ⟨d, ds, rfl⟩ := List.exists_cons_of_ne_nil hn.digits.1
  have hleading : ¬(ds ≠ [] ∧ d = '0') := by
    rintro ⟨hds, rfl⟩
    rcases hn.leading with h | h
    · simp [hds] at h
    · simp at h
  cases negative with
  | false =>
    have hd : d ≠ '-' := by
      rintro rfl
      exact absurd (hn.digits.2 '-' (by simp)) (by decide)
    have hhead : (text ⟨false, d :: ds, fraction, exponent⟩).toList.head? = some d := by
      simp [text]
    have hminus : ((text ⟨false, d :: ds, fraction, exponent⟩).toList ++ rest).head? ≠
        some '-' := by
      simp [List.head?_append, hhead, hd]
    simp only [number?, if_neg hminus, Numeral.Part.none, hscan]
    simpa using hleading
  | true =>
    have htext : (text ⟨true, d :: ds, fraction, exponent⟩).toList ++ rest =
        '-' :: ((text ⟨false, d :: ds, fraction, exponent⟩).toList ++ rest) := by
      simp [text_negative]
    simp only [htext, number?, List.head?_cons, if_true, signPart, hscan]
    simpa using hleading

end Json

end Formula
