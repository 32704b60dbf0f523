import Formula.Proofs.Numeral.Written

/-! The unsigned numbers of expressions as a grammar of texts: digits, a point with digits after it
and an exponent, with digits before the point or after it.  Scanning takes the longest such number
that a text starts with, so the text of a numeral is read back from the start of any text in which
nothing follows it that could go on with a number. -/

namespace Formula

namespace Numeral

/-- One or more digits. -/
def Digits (cs : List Char) : Prop := cs ≠ [] ∧ ∀ c ∈ cs, c.isDigit = true

/-- The text of a fraction, which may be missing, with its digits. -/
inductive Fraction : List Char → List Char → Prop
  | missing : Fraction [] []
  | point {ds} : Digits ds → Fraction ('.' :: ds) ds

/-- The text of a sign, which may be missing, with whether it is a minus. -/
inductive Sign : List Char → Bool → Prop
  | missing : Sign [] false
  | plus : Sign ['+'] false
  | minus : Sign ['-'] true

/-- The text of an exponent, which may be missing, with its value. -/
inductive Exponent : List Char → Option Int → Prop
  | missing : Exponent [] none
  | power {mark sign negative ds} : mark = 'e' ∨ mark = 'E' → Sign sign negative → Digits ds →
      Exponent (mark :: (sign ++ ds))
        (some (if negative then -(Nat.ofDigitChars 10 ds 0 : Int) else Nat.ofDigitChars 10 ds 0))

/-- The text of an unsigned number, with its parts. -/
inductive Literal : List Char → Numeral → Prop
  | parts {whole fraction digits exponent power} :
      (∀ c ∈ whole, c.isDigit = true) → Fraction fraction digits → Exponent exponent power →
      whole ≠ [] ∨ digits ≠ [] →
      Literal (whole ++ (fraction ++ exponent)) ⟨false, whole, digits, power⟩

theorem Exponent.mem {cs : List Char} {power : Option Int} (h : Exponent cs power) :
    ∀ c ∈ cs, c.isDigit = true ∨ c ∈ ['e', 'E', '+', '-'] := by
  intro c hc
  cases h with
  | missing => exact absurd hc List.not_mem_nil
  | power hmark hsign hds =>
    rcases List.mem_cons.mp hc with rfl | hc
    · rcases hmark with rfl | rfl <;> simp
    rcases List.mem_append.mp hc with hc | hc
    · cases hsign <;> simp_all
    · exact .inl (hds.2 c hc)

/-- The characters that numbers are made of. -/
theorem Literal.mem {cs : List Char} {n : Numeral} (h : Literal cs n) :
    ∀ c ∈ cs, c.isDigit = true ∨ c ∈ ['.', 'e', 'E', '+', '-'] := by
  obtain @⟨whole, fraction, ds, exponent, power, hwhole, hfraction, hexponent, -⟩ := h
  intro c hc
  rcases List.mem_append.mp hc with hc | hc
  · exact .inl (hwhole c hc)
  rcases List.mem_append.mp hc with hc | hc
  · cases hfraction with
    | missing => exact absurd hc List.not_mem_nil
    | point hds =>
      rcases List.mem_cons.mp hc with rfl | hc
      · exact .inr List.mem_cons_self
      · exact .inl (hds.2 c hc)
  · exact (hexponent.mem c hc).imp_right (List.mem_cons_of_mem '.')

/-! ### What is scanned is a number -/

theorem isDigit_of_mem_digits {cs : List Char} {c : Char} (h : c ∈ (digits cs).value) :
    c.isDigit = true :=
  List.all_eq_true.mp List.all_takeWhile c h

theorem digits_digits {cs : List Char} (h : (digits cs).value ≠ []) : Digits (digits cs).lexeme :=
  ⟨h, fun _ => isDigit_of_mem_digits⟩

theorem fraction_fractionPart (cs : List Char) :
    Fraction (fractionPart cs).lexeme (fractionPart cs).value := by
  unfold fractionPart
  split
  · next rest =>
    dsimp only
    split
    · exact .missing
    · next hne => exact .point (digits_digits (by simpa using hne))
  · exact .missing

theorem sign_signPart (cs : List Char) : Sign (signPart cs).lexeme (signPart cs).value := by
  unfold signPart
  split
  · exact .plus
  · exact .minus
  · exact .missing

theorem exponent_exponentPart (cs : List Char) :
    Exponent (exponentPart cs).lexeme (exponentPart cs).value := by
  unfold exponentPart
  split
  · next c rest =>
    dsimp only
    split
    · next h =>
      simp only [Bool.and_eq_true, Bool.or_eq_true, decide_eq_true_eq, Bool.not_eq_true',
        List.isEmpty_eq_false_iff] at h
      exact .power h.1 (sign_signPart rest) (digits_digits h.2)
    · exact .missing
  · exact .missing

theorem literal_of_scan? {cs : List Char} {part : Part Numeral} (h : scan? cs = some part) :
    Literal part.lexeme part.value := by
  unfold scan? at h
  dsimp only at h
  split at h
  · contradiction
  · next hne =>
    cases h
    rw [Bool.and_eq_true, List.isEmpty_iff, List.isEmpty_iff, Decidable.not_and_iff_or_not] at hne
    rw [List.append_assoc]
    exact .parts (fun _ => isDigit_of_mem_digits) (fraction_fractionPart _)
      (exponent_exponentPart _) hne

/-! ### A number is scanned in whole -/

/-- Digits that go on are one longer run of digits. -/
theorem digits_append_digits {ds : List Char} (hds : ∀ c ∈ ds, c.isDigit = true)
    (rest : List Char) :
    digits (ds ++ rest) =
      ⟨ds ++ (digits rest).value, ds ++ (digits rest).lexeme, (digits rest).rest⟩ := by
  unfold digits
  rw [List.takeWhile_append_of_pos hds, List.dropWhile_append_of_pos hds]

theorem signPart_of_head {c : Char} (hc : c.isDigit = true ∨ c = '.') (rest : List Char) :
    signPart (c :: rest) = .none false (c :: rest) := by
  unfold signPart
  split
  · next heq =>
    obtain ⟨rfl, -⟩ := List.cons.inj heq
    simp at hc
  · next heq =>
    obtain ⟨rfl, -⟩ := List.cons.inj heq
    simp at hc
  · rfl

theorem signPart_append_digits {sign : List Char} {negative : Bool} (h : Sign sign negative)
    {ds : List Char} (hds : Digits ds) (rest : List Char) :
    signPart (sign ++ (ds ++ rest)) = ⟨negative, sign, ds ++ rest⟩ := by
  cases h with
  | plus => rfl
  | minus => rfl
  | missing =>
    obtain ⟨d, ds, rfl⟩ := List.exists_cons_of_ne_nil hds.1
    have hd : d.isDigit = true := hds.2 d (by simp)
    exact signPart_of_head (.inl hd) _

/-- What a text that goes on with an exponent is scanned as. -/
theorem exponentPart_power {mark : Char} {sign ds : List Char} {negative : Bool}
    (hmark : mark = 'e' ∨ mark = 'E') (hsign : Sign sign negative) (hds : Digits ds)
    (rest : List Char) :
    exponentPart (mark :: (sign ++ (ds ++ rest))) =
      let all := ds ++ (digits rest).value
      ⟨some (if negative then -(Nat.ofDigitChars 10 all 0 : Int) else Nat.ofDigitChars 10 all 0),
        mark :: (sign ++ all), (digits rest).rest⟩ := by
  simp [exponentPart, signPart_append_digits hsign hds, digits_append_digits hds.2, hmark, hds.1]
  rfl

theorem isDigit_mark {mark : Char} (h : mark = 'e' ∨ mark = 'E') :
    mark.isDigit = false ∧ mark ≠ '.' := by
  rcases h with rfl | rfl <;> decide

theorem digits_of_ends {rest : List Char} (h : Ends rest) : digits rest = .none [] rest := by
  cases rest with
  | nil => rfl
  | cons c rest => simp [digits, Part.none, (h c rfl).1]

theorem digits_of_mark {mark : Char} (h : mark = 'e' ∨ mark = 'E') (rest : List Char) :
    digits (mark :: rest) = .none [] (mark :: rest) := by
  simp [digits, Part.none, (isDigit_mark h).1]

/-- Digits end at a character that is none. -/
theorem digits_append_cons {ds : List Char} (hds : ∀ c ∈ ds, c.isDigit = true) {c : Char}
    (hc : c.isDigit = false) (rest : List Char) : digits (ds ++ c :: rest) = ⟨ds, ds, c :: rest⟩ :=
  digits_append_of_all hds (by simpa using hc)

theorem fractionPart_point {fs : List Char} (hfs : Digits fs) (rest : List Char) :
    fractionPart ('.' :: (fs ++ rest)) =
      ⟨fs ++ (digits rest).value, '.' :: (fs ++ (digits rest).lexeme), (digits rest).rest⟩ := by
  simp [fractionPart, digits_append_digits hfs.2, hfs.1]

theorem fractionPart_of_mark {mark : Char} (h : mark = 'e' ∨ mark = 'E') (rest : List Char) :
    fractionPart (mark :: rest) = .none [] (mark :: rest) := by
  simp [fractionPart, (isDigit_mark h).2]

/-- Scanning is reading three parts one after the other. -/
theorem scan?_of_parts {cs : List Char} {whole fraction : Part (List Char)}
    {exponent : Part (Option Int)} (hw : digits cs = whole)
    (hf : fractionPart whole.rest = fraction) (he : exponentPart fraction.rest = exponent)
    (hne : whole.value ≠ [] ∨ fraction.value ≠ []) :
    scan? cs = some ⟨⟨false, whole.value, fraction.value, exponent.value⟩,
      whole.lexeme ++ (fraction.lexeme ++ exponent.lexeme), exponent.rest⟩ := by
  subst hw hf he
  rw [← Decidable.not_and_iff_or_not, ← List.isEmpty_iff, ← List.isEmpty_iff,
    ← Bool.and_eq_true] at hne
  simp only [scan?, if_neg hne, List.append_assoc]

/-- The number at the start of a text is scanned in whole, and no more if the text does not go on
with it. -/
theorem Literal.scan? {cs : List Char} {n : Numeral} (h : Literal cs n) (rest : List Char) :
    ∃ part, Numeral.scan? (cs ++ rest) = some part ∧ cs <+: part.lexeme ∧
      (Ends rest → part = ⟨n, cs, rest⟩) := by
  obtain @⟨whole, fraction, fs, exponent, power, hwhole, hfraction, hexponent, hne⟩ := h
  -- The last part that there is takes what more there is of it in the rest.
  cases hfraction with
  | missing =>
    replace hne := hne.resolve_right (by simp)
    cases hexponent with
    | missing =>
      rw [List.append_nil, List.append_nil]
      refine ⟨_, scan?_of_parts (digits_append_digits hwhole rest) rfl rfl (by simp [hne]),
        by simp, fun hrest => ?_⟩
      simp [digits_of_ends hrest, fractionPart_of_ends hrest, exponentPart_of_ends hrest, Part.none]
    | @power mark sign negative ds hmark hsign hds =>
      simp only [List.nil_append, List.append_assoc, List.cons_append]
      refine ⟨_, scan?_of_parts (digits_append_cons hwhole (isDigit_mark hmark).1 _)
        (fractionPart_of_mark hmark _) (exponentPart_power hmark hsign hds rest) (by simp [hne]),
        by simp [Part.none], fun hrest => ?_⟩
      simp [digits_of_ends hrest, Part.none]
  | point hfs =>
    cases hexponent with
    | missing =>
      simp only [List.append_nil, List.append_assoc, List.cons_append]
      refine ⟨_, scan?_of_parts (digits_append_cons hwhole (by decide) _)
        (fractionPart_point hfs rest) rfl (by simp [hfs.1]), by simp, fun hrest => ?_⟩
      simp [digits_of_ends hrest, exponentPart_of_ends hrest, Part.none]
    | @power mark sign negative ds hmark hsign hds =>
      have hf := fractionPart_point hfs (mark :: (sign ++ (ds ++ rest)))
      rw [digits_of_mark hmark] at hf
      simp only [List.append_assoc, List.cons_append]
      refine ⟨_, scan?_of_parts (digits_append_cons hwhole (by decide) _) hf
        (exponentPart_power hmark hsign hds rest) (by simp [hfs.1]), by simp [Part.none],
        fun hrest => ?_⟩
      simp [digits_of_ends hrest, Part.none]

/-! ### The texts of numerals -/

theorem exponent_exponentText (power : Int) :
    Exponent (exponentText power).toList (some power) := by
  have hdigits : Digits power.natAbs.repr.toList := by
    rw [Nat.toList_repr]
    exact ⟨List.ne_nil_of_length_pos Nat.length_toDigits_pos, isDigit_toDigits _⟩
  have hvalue : Nat.ofDigitChars 10 power.natAbs.repr.toList 0 = power.natAbs := by
    rw [Nat.toList_repr]
    exact Nat.ofDigitChars_ten_toDigits
  by_cases hneg : power < 0
  · have htext : (exponentText power).toList = 'e' :: (['-'] ++ power.natAbs.repr.toList) := by
      simp [exponentText, hneg]
    have hpower : -(Nat.ofDigitChars 10 power.natAbs.repr.toList 0 : Int) = power := by
      rw [hvalue]
      omega
    have h := Exponent.power (.inl rfl) .minus hdigits
    rwa [if_pos rfl, hpower, ← htext] at h
  · have htext : (exponentText power).toList = 'e' :: (['+'] ++ power.natAbs.repr.toList) := by
      simp [exponentText, hneg]
    have hpower : (Nat.ofDigitChars 10 power.natAbs.repr.toList 0 : Int) = power := by
      rw [hvalue]
      omega
    have h := Exponent.power (.inl rfl) .plus hdigits
    rwa [if_neg Bool.false_ne_true, hpower, ← htext] at h

/-- The text of a numeral without sign is an unsigned number. -/
theorem literal_text {n : Numeral} (hsign : n.negative = false) (hwhole : Digits n.whole)
    (hfraction : ∀ c ∈ n.fraction, c.isDigit = true) : Literal n.text.toList n := by
  obtain ⟨negative, whole, fraction, exponent⟩ := n
  obtain rfl : negative = false := hsign
  have hf : Fraction (if fraction.isEmpty then "" else "." ++ String.ofList fraction).toList
      fraction := by
    cases fraction with
    | nil => exact .missing
    | cons d fraction =>
      have hdigits : Digits (d :: fraction) := ⟨by simp, hfraction⟩
      simpa using Fraction.point hdigits
  have he : Exponent ((exponent.map exponentText).getD "").toList exponent := by
    cases exponent with
    | none => exact .missing
    | some power => exact exponent_exponentText power
  have hliteral := Literal.parts hwhole.2 hf he (.inl hwhole.1)
  simpa [text] using hliteral

theorem scan?_text {n : Numeral} (hn : n.Plain) {rest : List Char} (hrest : Ends rest) :
    scan? (n.text.toList ++ rest) = some ⟨n, n.text.toList, rest⟩ := by
  have hliteral := literal_text hn.negative ⟨hn.whole_ne_nil, hn.whole⟩ hn.fraction
  obtain ⟨part, hscan, -, hpart⟩ := hliteral.scan? rest
  rw [hscan, hpart hrest]

end Numeral

/-- The text of a finite double without sign is read as a number of that value. -/
theorem Double.scan?_text {v : Double} (h : v.isFinite = true) (hv : v.negative = false)
    {rest : List Char} (hrest : Numeral.Ends rest) :
    Numeral.scan? (v.text.toList ++ rest) = some ⟨v.plain, v.text.toList, rest⟩ := by
  rw [text_of_isFinite h]
  exact Numeral.scan?_text (plain_of_not_negative hv) hrest

/-! ### Numbers as literals -/

theorem toLower_of_isDigit {c : Char} (h : c.isDigit = true) : c.toLower = c := by
  have hupper : ¬(c.val ≥ 'A'.val ∧ c.val ≤ 'Z'.val) := by
    simp [Char.isDigit, UInt32.le_iff_toNat_le] at *
    omega
  exact dif_neg hupper

namespace Numeral

/-- A number starts with a digit or a point. -/
theorem Literal.exists_head {cs : List Char} {n : Numeral} (h : Literal cs n) :
    ∃ c rest, cs = c :: rest ∧ (c.isDigit = true ∨ c = '.') := by
  obtain @⟨whole, fraction, ds, exponent, power, hwhole, hfraction, -, hne⟩ := h
  rcases whole with _ | ⟨d, whole⟩
  · cases hfraction with
    | missing => simp at hne
    | point => exact ⟨'.', _, rfl, .inr rfl⟩
  · exact ⟨d, _, rfl, .inl (hwhole d List.mem_cons_self)⟩

/-- Where a number ends with the text, a point that may lack its digits has them. -/
theorem openFraction_eq {cs : List Char} (h : (exponentPart (fractionPart cs).rest).rest = []) :
    openFraction cs = fractionPart cs := by
  unfold openFraction
  split
  · next rest =>
    by_cases hdigits : (digits rest).value = []
    · simp [fractionPart, hdigits, Part.none, exponentPart] at h
    · simp [fractionPart, hdigits]
  · next hpoint =>
    unfold fractionPart
    split
    · exact absurd rfl (hpoint _)
    · rfl

end Numeral

theorem toLower_of_head {c : Char} (hc : c.isDigit = true ∨ c = '.') :
    c.toLower ≠ 'i' ∧ c.toLower ≠ 'n' := by
  rcases hc with hc | rfl
  · rw [toLower_of_isDigit hc]
    constructor <;> rintro rfl <;> contradiction
  · decide

/-- A number that is scanned to the end of the text is read in the same parts. -/
theorem Double.unsignedLiteral?_of_scan? {c : Char} {rest lexeme : List Char} {n : Numeral}
    (hc : c.isDigit = true ∨ c = '.') (h : Numeral.scan? (c :: rest) = some ⟨n, lexeme, []⟩) :
    unsignedLiteral? false (c :: rest) = some n.value := by
  obtain ⟨hi, hn⟩ := toLower_of_head hc
  unfold Numeral.scan? at h
  dsimp only at h
  split at h
  · contradiction
  · next hne =>
    simp only [Option.some.injEq, Numeral.Part.mk.injEq] at h
    obtain ⟨hvalue, -, hrest⟩ := h
    have hopen := Numeral.openFraction_eq hrest
    rw [Bool.not_eq_true] at hne
    simp [unsignedLiteral?, hi, hn, hopen, hrest, hne, hvalue]

/-- An unsigned number is a literal of its value. -/
theorem Double.ofLiteral_of_literal {cs : List Char} {n : Numeral} (h : Numeral.Literal cs n) :
    ofLiteral cs = .ok n.value := by
  obtain ⟨part, hscan, -, hall⟩ := h.scan? []
  rw [List.append_nil, hall (by simp [Numeral.Ends])] at hscan
  obtain ⟨c, rest, rfl, hc⟩ := h.exists_head
  have hunsigned := unsignedLiteral?_of_scan? hc hscan
  simp [ofLiteral, Numeral.signPart_of_head hc, Numeral.Part.none, hunsigned]

end Formula
