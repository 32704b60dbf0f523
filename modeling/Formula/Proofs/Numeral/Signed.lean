import Formula.Proofs.Numeral.Literal
import Formula.Proofs.Numeral.Rounding
import Formula.Text.Blank

/-! The literals of doubles as a grammar of texts: a sign, which may be missing, and then a decimal
or a name of infinity or NaN in any case.  The point of a decimal may lack its digits on one side,
which it may not in an expression.  Reading accepts exactly these texts.  What a double is written
as is a literal of that double, unless it is a NaN, so different doubles are written differently. -/

namespace Formula

namespace Numeral

/-- The digits of a decimal with the point, if it has one, and apart: those before the point and
those after it. -/
inductive Mantissa : List Char → List Char → List Char → Prop
  | whole {ds} : Digits ds → Mantissa ds ds []
  | point {whole fraction} : (∀ c ∈ whole, c.isDigit = true) → (∀ c ∈ fraction, c.isDigit = true) →
      whole ≠ [] ∨ fraction ≠ [] → Mantissa (whole ++ '.' :: fraction) whole fraction

end Numeral

namespace Double

/-- The texts that are literals of doubles, with what they stand for.  A decimal is rounded once. -/
inductive IsLiteral : List Char → Double → Prop
  | number {sign negative mantissa whole fraction exponent power m} :
      Numeral.Sign sign negative → Numeral.Mantissa mantissa whole fraction →
      Numeral.Exponent exponent power →
      (Numeral.mk negative whole fraction power).decimal.Rounds m →
      IsLiteral (sign ++ (mantissa ++ exponent)) (.ofMagnitude negative m)
  | infinity {sign negative name} : Numeral.Sign sign negative →
      name.map Char.toLower = "inf".toList ∨ name.map Char.toLower = "infinity".toList →
      IsLiteral (sign ++ name) (.infinity negative)
  | nan {sign negative name} : Numeral.Sign sign negative →
      name.map Char.toLower = "nan".toList → IsLiteral (sign ++ name) (.nan negative)

end Double

/-! ### What is read is a literal -/

namespace Numeral

theorem openFraction_append (cs : List Char) :
    (openFraction cs).lexeme ++ (openFraction cs).rest = cs := by
  unfold openFraction
  split
  · exact congrArg ('.' :: ·) (digits_append _)
  · rfl

theorem mantissa_openFraction {cs : List Char}
    (h : (digits cs).value ≠ [] ∨ (openFraction (digits cs).rest).value ≠ []) :
    Mantissa ((digits cs).lexeme ++ (openFraction (digits cs).rest).lexeme) (digits cs).value
      (openFraction (digits cs).rest).value := by
  unfold openFraction at h ⊢
  split
  · next rest heq =>
    rw [heq] at h
    exact .point (fun _ => isDigit_of_mem_digits) (fun _ => isDigit_of_mem_digits) h
  · next hpoint =>
    have hwhole : (digits cs).value ≠ [] := by
      refine h.resolve_right ?_
      split
      · next rest heq => exact absurd heq (hpoint rest)
      · simp [Part.none]
    rw [Part.none, List.append_nil]
    exact .whole (digits_digits hwhole)

end Numeral

namespace Double

theorem isLiteral_of_unsignedLiteral? {sign cs : List Char} {negative : Bool} {v : Double}
    (hsign : Numeral.Sign sign negative) (h : unsignedLiteral? negative cs = some v) :
    IsLiteral (sign ++ cs) v := by
  unfold unsignedLiteral? at h
  dsimp only at h
  split at h
  · next hname =>
    cases h
    rw [Bool.or_eq_true, decide_eq_true_eq, decide_eq_true_eq] at hname
    exact .infinity hsign hname
  split at h
  · next hname =>
    cases h
    exact .nan hsign hname
  split at h
  · contradiction
  · next hparts =>
    cases h
    -- Nothing is left after the exponent, so the parts are the whole text.
    simp only [Bool.or_eq_true, Bool.and_eq_true, List.isEmpty_iff, Bool.not_eq_true',
      List.isEmpty_eq_false_iff, not_or, Decidable.not_and_iff_or_not, Decidable.not_not] at hparts
    obtain ⟨hne, hrest⟩ := hparts
    have hwhole := Numeral.digits_append cs
    have hfraction := Numeral.openFraction_append (Numeral.digits cs).rest
    have hexponent :=
      Numeral.exponentPart_append (Numeral.openFraction (Numeral.digits cs).rest).rest
    rw [hrest, List.append_nil] at hexponent
    have htext := IsLiteral.number hsign (Numeral.mantissa_openFraction hne)
      (Numeral.exponent_exponentPart (Numeral.openFraction (Numeral.digits cs).rest).rest)
      (Decimal.rounds_magnitude _)
    rwa [List.append_assoc, hexponent, hfraction, hwhole] at htext

theorem isLiteral_of_ofLiteral {cs : List Char} {v : Double} (h : ofLiteral cs = .ok v) :
    IsLiteral cs v := by
  unfold ofLiteral at h
  split at h
  · contradiction
  · dsimp only at h
    split at h
    · next w hw =>
      obtain rfl := Except.ok.inj h
      have hliteral := isLiteral_of_unsignedLiteral? (Numeral.sign_signPart cs) hw
      rwa [Numeral.signPart_append] at hliteral
    · contradiction

end Double

/-! ### A literal is read -/

namespace Numeral

/-- A sign is taken off whatever starts with none. -/
theorem signPart_sign_append {sign : List Char} {negative : Bool} (h : Sign sign negative)
    {c : Char} (hplus : c ≠ '+') (hminus : c ≠ '-') (rest : List Char) :
    signPart (sign ++ c :: rest) = ⟨negative, sign, c :: rest⟩ := by
  cases h with
  | plus => rfl
  | minus => rfl
  | missing => simp [signPart, hplus, hminus, Part.none]

theorem Mantissa.exists_head {cs whole fraction : List Char} (h : Mantissa cs whole fraction) :
    ∃ c rest, cs = c :: rest ∧ (c.isDigit = true ∨ c = '.') := by
  cases h with
  | whole hds =>
    obtain ⟨d, ds, rfl⟩ := List.exists_cons_of_ne_nil hds.1
    exact ⟨d, ds, rfl, .inl (hds.2 d List.mem_cons_self)⟩
  | point hwhole =>
    rcases whole with _ | ⟨d, whole⟩
    · exact ⟨'.', fraction, rfl, .inr rfl⟩
    · exact ⟨d, _, rfl, .inl (hwhole d List.mem_cons_self)⟩

theorem Mantissa.ne_nil {cs whole fraction : List Char} (h : Mantissa cs whole fraction) :
    whole ≠ [] ∨ fraction ≠ [] := by
  cases h with
  | whole hds => exact .inl hds.1
  | point _ _ hne => exact hne

/-- An exponent starts with its mark. -/
theorem Exponent.head {cs : List Char} {power : Option Int} (h : Exponent cs power) :
    ∀ c ∈ cs.head?, c.isDigit = false ∧ c ≠ '.' := by
  cases h with
  | missing => simp
  | power hmark =>
    rintro c ⟨rfl⟩
    exact isDigit_mark hmark

theorem openFraction_of_head {cs : List Char} (h : ∀ c ∈ cs.head?, c ≠ '.') :
    openFraction cs = .none [] cs := by
  unfold openFraction
  split
  · exact absurd rfl (h '.' rfl)
  · rfl

theorem Exponent.exponentPart {cs : List Char} {power : Option Int} (h : Exponent cs power) :
    exponentPart cs = ⟨power, cs, []⟩ := by
  cases h with
  | missing => rfl
  | @power mark sign negative ds hmark hsign hds =>
    have hnone : digits [] = .none [] [] := rfl
    have hpart := exponentPart_power hmark hsign hds []
    simpa [hnone, Part.none] using hpart

theorem Mantissa.digits {cs whole fraction exponent : List Char} {power : Option Int}
    (h : Mantissa cs whole fraction) (he : Exponent exponent power) :
    (digits (cs ++ exponent)).value = whole ∧
      (openFraction (digits (cs ++ exponent)).rest).value = fraction ∧
      (openFraction (digits (cs ++ exponent)).rest).rest = exponent := by
  have hdigit : ∀ c ∈ exponent.head?, c.isDigit = false := fun c hc => (he.head c hc).1
  cases h with
  | whole hds =>
    rw [digits_append_of_all hds.2 hdigit]
    simp [openFraction_of_head fun c hc => (he.head c hc).2, Part.none]
  | point hwhole hfraction =>
    rw [List.append_assoc, List.cons_append, digits_append_cons hwhole (by decide)]
    simp [openFraction, digits_append_of_all hfraction hdigit]

end Numeral

namespace Double

theorem unsignedLiteral?_of_parts {mantissa whole fraction exponent : List Char}
    {power : Option Int} (negative : Bool) (h : Numeral.Mantissa mantissa whole fraction)
    (he : Numeral.Exponent exponent power) :
    unsignedLiteral? negative (mantissa ++ exponent) =
      some (Numeral.value ⟨negative, whole, fraction, power⟩) := by
  obtain ⟨hwhole, hfraction, hrest⟩ := h.digits he
  have hne : (whole.isEmpty && fraction.isEmpty) = false := by
    rw [← Bool.not_eq_true, Bool.and_eq_true, List.isEmpty_iff, List.isEmpty_iff,
      Decidable.not_and_iff_or_not]
    exact h.ne_nil
  obtain ⟨c, rest, rfl, hc⟩ := h.exists_head
  obtain ⟨hi, hn⟩ := toLower_of_head hc
  rw [List.cons_append] at hwhole hfraction hrest ⊢
  simp [unsignedLiteral?, hi, hn, hwhole, hfraction, hrest, he.exponentPart, hne]

/-- A name of infinity or NaN does not start with a sign. -/
theorem exists_head_of_name {name : List Char} {word : String}
    (h : name.map Char.toLower = word.toList) (hword : word ∈ ["inf", "infinity", "nan"]) :
    ∃ c rest, name = c :: rest ∧ c ≠ '+' ∧ c ≠ '-' := by
  have hall : ∀ word ∈ ["inf", "infinity", "nan"],
      word.toList.head?.any Char.isLower = true := by decide +kernel
  have hletter := hall word hword
  rw [← h] at hletter
  cases name with
  | nil => contradiction
  | cons c rest =>
    have hc : c.toLower.isLower = true := hletter
    refine ⟨c, rest, rfl, ?_, ?_⟩ <;> rintro rfl <;> revert hc <;> decide

theorem unsignedLiteral?_infinity {name : List Char} (negative : Bool)
    (h : name.map Char.toLower = "inf".toList ∨ name.map Char.toLower = "infinity".toList) :
    unsignedLiteral? negative name = some (infinity negative) := by
  have hname : (decide (name.map Char.toLower = "inf".toList) ||
      decide (name.map Char.toLower = "infinity".toList)) = true := by
    rwa [Bool.or_eq_true, decide_eq_true_eq, decide_eq_true_eq]
  simp only [unsignedLiteral?, if_pos hname]

theorem unsignedLiteral?_nan {name : List Char} (negative : Bool)
    (h : name.map Char.toLower = "nan".toList) :
    unsignedLiteral? negative name = some (nan negative) := by
  have hother : ¬(decide ("nan".toList = "inf".toList) ||
      decide ("nan".toList = "infinity".toList)) = true := by decide +kernel
  simp only [unsignedLiteral?, h, if_neg hother, if_true]

theorem ofLiteral_sign_append {sign rest : List Char} {c : Char} {negative : Bool} {v : Double}
    (hsign : Numeral.Sign sign negative) (hplus : c ≠ '+') (hminus : c ≠ '-')
    (h : unsignedLiteral? negative (c :: rest) = some v) :
    ofLiteral (sign ++ c :: rest) = .ok v := by
  have hempty : (sign ++ c :: rest).isEmpty = false := by simp
  simp only [ofLiteral, hempty, Numeral.signPart_sign_append hsign hplus hminus, h]
  rfl

theorem ofLiteral_of_isLiteral {cs : List Char} {v : Double} (h : IsLiteral cs v) :
    ofLiteral cs = .ok v := by
  cases h with
  | @number sign negative mantissa whole fraction exponent power m hsign hmantissa hexponent hm =>
    have hvalue : Numeral.value ⟨negative, whole, fraction, power⟩ = .ofMagnitude negative m := by
      rw [Numeral.value, hm.unique (Decimal.rounds_magnitude _)]
    have hunsigned := unsignedLiteral?_of_parts negative hmantissa hexponent
    rw [hvalue] at hunsigned
    obtain ⟨c, rest, rfl, hc⟩ := hmantissa.exists_head
    refine ofLiteral_sign_append hsign ?_ ?_ hunsigned <;> rintro rfl <;> simp at hc
  | @infinity sign negative name hsign h =>
    have hunsigned := unsignedLiteral?_infinity negative h
    obtain ⟨c, rest, rfl, hplus, hminus⟩ : ∃ c rest, name = c :: rest ∧ c ≠ '+' ∧ c ≠ '-' := by
      rcases h with h | h
      · exact exists_head_of_name h (by simp)
      · exact exists_head_of_name h (by simp)
    exact ofLiteral_sign_append hsign hplus hminus hunsigned
  | @nan sign negative name hsign h =>
    have hunsigned := unsignedLiteral?_nan negative h
    obtain ⟨c, rest, rfl, hplus, hminus⟩ := exists_head_of_name h (by simp)
    exact ofLiteral_sign_append hsign hplus hminus hunsigned

/-- The literals of doubles are the texts that reading accepts, and it gives their value. -/
theorem ofLiteral_eq_ok_iff {cs : List Char} {v : Double} : ofLiteral cs = .ok v ↔ IsLiteral cs v :=
  ⟨isLiteral_of_ofLiteral, ofLiteral_of_isLiteral⟩

theorem IsLiteral.unique {cs : List Char} {v w : Double} (hv : IsLiteral cs v)
    (hw : IsLiteral cs w) : v = w :=
  Except.ok.inj ((ofLiteral_eq_ok_iff.mpr hv).symm.trans (ofLiteral_eq_ok_iff.mpr hw))

end Double

/-! ### The characters of literals -/

/-- The printing characters of ASCII are no blanks. -/
theorem Text.isBlank_eq_false {c : Char} (hlow : 0x20 < c.toNat) (hhigh : c.toNat < 0x7f) :
    isBlank c = false := by
  simp [isBlank, blanks]
  omega

theorem toNat_of_isUpper {c : Char} (h : c.isUpper = true) : 65 ≤ c.toNat ∧ c.toNat ≤ 90 := by
  obtain ⟨hlow, hhigh⟩ : c.val ≥ 'A'.val ∧ c.val ≤ 'Z'.val := of_decide_eq_true h
  exact ⟨UInt32.le_iff_toNat_le.mp hlow, UInt32.le_iff_toNat_le.mp hhigh⟩

theorem toNat_of_isLower {c : Char} (h : c.isLower = true) : 97 ≤ c.toNat ∧ c.toNat ≤ 122 := by
  obtain ⟨hlow, hhigh⟩ := Bool.and_eq_true_iff.mp h
  exact ⟨UInt32.le_iff_toNat_le.mp (of_decide_eq_true hlow),
    UInt32.le_iff_toNat_le.mp (of_decide_eq_true hhigh)⟩

theorem toNat_of_isDigit {c : Char} (h : c.isDigit = true) : 48 ≤ c.toNat ∧ c.toNat ≤ 57 := by
  obtain ⟨hlow, hhigh⟩ := Bool.and_eq_true_iff.mp h
  exact ⟨UInt32.le_iff_toNat_le.mp (of_decide_eq_true hlow),
    UInt32.le_iff_toNat_le.mp (of_decide_eq_true hhigh)⟩

theorem isBlank_eq_false_of_isAlpha {c : Char} (h : c.isAlpha = true) :
    Text.isBlank c = false := by
  rcases Bool.or_eq_true_iff.mp h with hupper | hlower
  · obtain ⟨hlow, hhigh⟩ := toNat_of_isUpper hupper
    exact Text.isBlank_eq_false (by omega) (by omega)
  · obtain ⟨hlow, hhigh⟩ := toNat_of_isLower hlower
    exact Text.isBlank_eq_false (by omega) (by omega)

theorem isAlpha_of_isLower_toLower {c : Char} (h : c.toLower.isLower = true) :
    c.isAlpha = true := by
  by_cases hupper : c.val ≥ 'A'.val ∧ c.val ≤ 'Z'.val
  · exact Bool.or_eq_true_iff.mpr (.inl (decide_eq_true hupper))
  · have hsame : c.toLower = c := dif_neg hupper
    rw [hsame] at h
    exact Bool.or_eq_true_iff.mpr (.inr h)

namespace Numeral

theorem Sign.isBlank_eq_false {cs : List Char} {negative : Bool} (h : Sign cs negative) :
    ∀ c ∈ cs, Text.isBlank c = false := by
  cases h with
  | missing => simp
  | plus => exact List.forall_mem_singleton.mpr (by decide)
  | minus => exact List.forall_mem_singleton.mpr (by decide)

theorem isBlank_eq_false_of_isDigit {c : Char} (h : c.isDigit = true) :
    Text.isBlank c = false := by
  obtain ⟨hlow, hhigh⟩ := toNat_of_isDigit h
  exact Text.isBlank_eq_false (by omega) (by omega)

theorem Mantissa.isBlank_eq_false {cs whole fraction : List Char} (h : Mantissa cs whole fraction) :
    ∀ c ∈ cs, Text.isBlank c = false := by
  intro c hc
  cases h with
  | whole hds => exact isBlank_eq_false_of_isDigit (hds.2 c hc)
  | point hwhole hfraction =>
    rcases List.mem_append.mp hc with hc | hc
    · exact isBlank_eq_false_of_isDigit (hwhole c hc)
    rcases List.mem_cons.mp hc with rfl | hc
    · decide
    · exact isBlank_eq_false_of_isDigit (hfraction c hc)

theorem Exponent.isBlank_eq_false {cs : List Char} {power : Option Int} (h : Exponent cs power) :
    ∀ c ∈ cs, Text.isBlank c = false := by
  have hmarks : ['e', 'E', '+', '-'].all (fun c => !Text.isBlank c) = true := by decide
  intro c hc
  rcases h.mem c hc with hdigit | hmark
  · exact isBlank_eq_false_of_isDigit hdigit
  · have hc := List.all_eq_true.mp hmarks c hmark
    simpa using hc

end Numeral

theorem isBlank_eq_false_of_name {name : List Char} {word : String}
    (h : name.map Char.toLower = word.toList) (hword : word.toList.all Char.isLower = true) :
    ∀ c ∈ name, Text.isBlank c = false := by
  intro c hc
  have hmem : c.toLower ∈ word.toList := h ▸ List.mem_map_of_mem hc
  have hlower := List.all_eq_true.mp hword _ hmem
  exact isBlank_eq_false_of_isAlpha (isAlpha_of_isLower_toLower hlower)

/-- There are no blanks in a literal. -/
theorem Double.IsLiteral.isBlank_eq_false {cs : List Char} {v : Double} (h : IsLiteral cs v) :
    ∀ c ∈ cs, Text.isBlank c = false := by
  intro c hc
  cases h with
  | number hsign hmantissa hexponent =>
    rcases List.mem_append.mp hc with hc | hc
    · exact hsign.isBlank_eq_false c hc
    rcases List.mem_append.mp hc with hc | hc
    · exact hmantissa.isBlank_eq_false c hc
    · exact hexponent.isBlank_eq_false c hc
  | infinity hsign hname =>
    rcases List.mem_append.mp hc with hc | hc
    · exact hsign.isBlank_eq_false c hc
    · rcases hname with hname | hname
      · exact isBlank_eq_false_of_name hname (by decide) c hc
      · exact isBlank_eq_false_of_name hname (by decide) c hc
  | nan hsign hname =>
    rcases List.mem_append.mp hc with hc | hc
    · exact hsign.isBlank_eq_false c hc
    · exact isBlank_eq_false_of_name hname (by decide) c hc

/-! ### What is written is a literal -/

namespace Double

theorem isLiteral_numeral_text {n : Numeral} (hwhole : Numeral.Digits n.whole)
    (hfraction : ∀ c ∈ n.fraction, c.isDigit = true) : IsLiteral n.text.toList n.value := by
  obtain ⟨negative, whole, fraction, exponent⟩ := n
  have hsign : Numeral.Sign (if negative then "-" else "").toList negative := by
    cases negative with
    | false => exact .missing
    | true => exact .minus
  have hmantissa : Numeral.Mantissa
      (whole ++ (if fraction.isEmpty then "" else "." ++ String.ofList fraction).toList) whole
      fraction := by
    cases fraction with
    | nil => simpa using Numeral.Mantissa.whole hwhole
    | cons d fraction => simpa using Numeral.Mantissa.point hwhole.2 hfraction (.inl hwhole.1)
  have hexponent : Numeral.Exponent ((exponent.map Numeral.exponentText).getD "").toList
      exponent := by
    cases exponent with
    | none => exact .missing
    | some power => exact Numeral.exponent_exponentText power
  have hliteral := IsLiteral.number hsign hmantissa hexponent (Decimal.rounds_magnitude _)
  simpa [Numeral.text, Numeral.value] using hliteral

/-- The digits that a double is written with are the same with and without its sign. -/
theorem plain_digits (v : Double) :
    Numeral.Digits v.plain.whole ∧ ∀ c ∈ v.plain.fraction, c.isDigit = true := by
  have hplain := Numeral.plain_positional (.shortest .up v.magnitude)
  have hparts : v.plain.whole = (Numeral.positional false (.shortest .up v.magnitude)).whole ∧
      v.plain.fraction = (Numeral.positional false (.shortest .up v.magnitude)).fraction := by
    dsimp only [plain, Numeral.positional]
    split <;> exact ⟨rfl, rfl⟩
  rw [hparts.1, hparts.2]
  exact ⟨⟨hplain.whole_ne_nil, hplain.whole⟩, hplain.fraction⟩

theorem isLiteral_infinity (negative : Bool) :
    IsLiteral (if negative then "-inf" else "inf").toList (infinity negative) := by
  have hname : "inf".toList.map Char.toLower = "inf".toList := by decide +kernel
  cases negative with
  | false => exact .infinity .missing (.inl hname)
  | true => exact .infinity .minus (.inl hname)

/-- What a double other than a NaN is written as is a literal of that double. -/
theorem isLiteral_text {v : Double} (h : v.isNaN = false) : IsLiteral v.text.toList v := by
  cases hfinite : v.isFinite with
  | true =>
    obtain ⟨hwhole, hfraction⟩ := v.plain_digits
    have hliteral := isLiteral_numeral_text hwhole hfraction
    rwa [value_plain hfinite, ← text_of_isFinite hfinite] at hliteral
  | false =>
    have hmagnitude : v.magnitude = infinite := by
      have hle : ¬infinite < v.magnitude := by simpa [isNaN] using h
      have hge : ¬v.magnitude < infinite := by simpa [isFinite] using hfinite
      omega
    have hinfinity : v = infinity v.negative := by
      rw [infinity, ← hmagnitude, ofMagnitude_magnitude]
    have htext : v.text = if v.negative then "-inf" else "inf" := by simp [text, h, hfinite]
    have hliteral := isLiteral_infinity v.negative
    rwa [← htext, ← hinfinity] at hliteral

/-- Different doubles are written differently, NaNs aside. -/
theorem text_inj {v w : Double} (hv : v.isNaN = false) (hw : w.isNaN = false)
    (h : v.text = w.text) : v = w := by
  have hliteral := isLiteral_text hv
  rw [h] at hliteral
  exact hliteral.unique (isLiteral_text hw)

theorem newline_not_mem_text (v : Double) : '\n' ∉ v.text.toList := by
  cases hnan : v.isNaN with
  | true =>
    rw [text, if_pos hnan]
    decide
  | false =>
    intro hmem
    have hblank := (isLiteral_text hnan).isBlank_eq_false _ hmem
    contradiction

end Double

end Formula
