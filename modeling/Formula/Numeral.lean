import Formula.Decimal

/-! Written numbers: digits, an optional fraction and an optional exponent, with a sign where the
writer puts one.  `scan?` reads the number at the start of an expression, `Double.plain` and
`Double.scientific` choose the numeral that a finite double is written as, and `Double.text` is the
text of every double. -/

namespace Formula

/-- A written number.  `whole` and `fraction` hold decimal digits; an exponent may be missing. -/
structure Numeral where
  negative : Bool
  whole : List Char
  fraction : List Char
  exponent : Option Int
deriving DecidableEq

namespace Numeral

/-- The absolute value that is written. -/
def decimal (n : Numeral) : Decimal :=
  ⟨Nat.ofDigitChars 10 (n.whole ++ n.fraction) 0, n.exponent.getD 0 - n.fraction.length⟩

/-- The double that is nearest to the number written. -/
def value (n : Numeral) : Double := .ofMagnitude n.negative n.decimal.magnitude

/-- The text of an exponent, which always has a sign. -/
def exponentText (exponent : Int) : String :=
  (if exponent < 0 then "e-" else "e+") ++ exponent.natAbs.repr

/-- The text of a numeral. -/
def text (n : Numeral) : String :=
  (if n.negative then "-" else "") ++ String.ofList n.whole ++
    (if n.fraction.isEmpty then "" else "." ++ String.ofList n.fraction) ++
    (n.exponent.map exponentText).getD ""

/-- A piece read from the start of a text: what it says, its characters, and what follows it.  The
characters and the rest make up the text. -/
structure Part (α : Type) where
  value : α
  lexeme : List Char
  rest : List Char

/-- The part that takes nothing. -/
def Part.none {α : Type} (value : α) (cs : List Char) : Part α := ⟨value, [], cs⟩

/-- The digits at the start of a text. -/
def digits (cs : List Char) : Part (List Char) :=
  ⟨cs.takeWhile Char.isDigit, cs.takeWhile Char.isDigit, cs.dropWhile Char.isDigit⟩

/-- A fraction at the start of a text, as its digits: a point with at least one digit after it. -/
def fractionPart (cs : List Char) : Part (List Char) :=
  match cs with
  | '.' :: rest =>
    let ds := digits rest
    if ds.value.isEmpty then .none [] cs else ⟨ds.value, '.' :: ds.lexeme, ds.rest⟩
  | _ => .none [] cs

/-- A fraction at the start of a text that may lack its digits. -/
def openFraction (cs : List Char) : Part (List Char) :=
  match cs with
  | '.' :: rest => let ds := digits rest; ⟨ds.value, '.' :: ds.lexeme, ds.rest⟩
  | _ => .none [] cs

/-- A sign at the start of a text, as whether it is a minus. -/
def signPart (cs : List Char) : Part Bool :=
  match cs with
  | '+' :: rest => ⟨false, ['+'], rest⟩
  | '-' :: rest => ⟨true, ['-'], rest⟩
  | _ => .none false cs

/-- An exponent at the start of a text: a mark, an optional sign and at least one digit. -/
def exponentPart (cs : List Char) : Part (Option Int) :=
  match cs with
  | c :: rest =>
    let sign := signPart rest
    let ds := digits sign.rest
    if (c = 'e' || c = 'E') && !ds.value.isEmpty then
      let size : Int := Nat.ofDigitChars 10 ds.value 0
      ⟨some (if sign.value then -size else size), c :: (sign.lexeme ++ ds.lexeme), ds.rest⟩
    else .none none cs
  | [] => .none none cs

/-- The longest unsigned number at the start of a text, with digits before the point or after
it. -/
def scan? (cs : List Char) : Option (Part Numeral) :=
  let whole := digits cs
  let fraction := fractionPart whole.rest
  if whole.value.isEmpty && fraction.value.isEmpty then none
  else
    let exponent := exponentPart fraction.rest
    some ⟨⟨false, whole.value, fraction.value, exponent.value⟩,
      whole.lexeme ++ fraction.lexeme ++ exponent.lexeme, exponent.rest⟩

theorem digits_append (cs : List Char) : (digits cs).lexeme ++ (digits cs).rest = cs :=
  List.takeWhile_append_dropWhile

theorem fractionPart_append (cs : List Char) :
    (fractionPart cs).lexeme ++ (fractionPart cs).rest = cs := by
  unfold fractionPart
  split
  · next rest =>
    dsimp only
    split
    · rfl
    · simp [digits_append]
  · rfl

theorem signPart_append (cs : List Char) : (signPart cs).lexeme ++ (signPart cs).rest = cs := by
  unfold signPart
  split <;> rfl

theorem exponentPart_append (cs : List Char) :
    (exponentPart cs).lexeme ++ (exponentPart cs).rest = cs := by
  unfold exponentPart
  split
  · next c rest =>
    dsimp only
    split
    · simp [digits_append, signPart_append]
    · rfl
  · rfl

/-- A number that is read and what follows it make up the text. -/
theorem scan?_append {cs : List Char} {part : Part Numeral} (h : scan? cs = some part) :
    part.lexeme ++ part.rest = cs := by
  unfold scan? at h
  dsimp only at h
  split at h
  · contradiction
  · cases h
    simp [exponentPart_append, fractionPart_append, digits_append]

/-- A number that is read takes at least one character. -/
theorem scan?_lexeme_ne_nil {cs : List Char} {part : Part Numeral} (h : scan? cs = some part) :
    part.lexeme ≠ [] := by
  unfold scan? at h
  dsimp only at h
  split at h
  · contradiction
  · next hne =>
    cases h
    intro hnil
    simp only [List.append_eq_nil_iff] at hnil
    apply hne
    have hf : (fractionPart (digits cs).rest).value = [] := by
      have := hnil.1.2
      revert this
      unfold fractionPart
      split
      · dsimp only
        split <;> simp [Part.none]
      · simp [Part.none]
    have hw : (digits cs).value = [] := hnil.1.1
    simp [hf, hw]

/-- A decimal written out in positional notation. -/
def positional (negative : Bool) (d : Decimal) : Numeral :=
  let ds := Nat.toDigits 10 d.digits
  let places := (-d.exponent).toNat
  if places < ds.length then
    ⟨negative, ds.take (ds.length - places) ++ List.replicate d.exponent.toNat '0',
      ds.drop (ds.length - places), none⟩
  else ⟨negative, ['0'], List.replicate (places - ds.length) '0' ++ ds, none⟩

/-- A decimal with one digit before the point and an exponent. -/
def scientific (negative : Bool) (d : Decimal) : Numeral :=
  let ds := Nat.toDigits 10 d.digits
  ⟨negative, ds.take 1, ds.drop 1, some (d.exponent + ds.length - 1)⟩

end Numeral

namespace Double

/-- The numeral of a finite double in texts: the shortest digits, a tie going up, always in
positional notation. -/
def plain (v : Double) : Numeral := .positional v.negative (.shortest .up v.magnitude)

/-- The text of a double.  No NaN shows its sign. -/
def text (v : Double) : String :=
  if v.isNaN then "NaN"
  else if v.isFinite then v.plain.text
  else if v.negative then "-inf" else "inf"

/-- Why a text is not the literal of a double. -/
inductive LiteralError where
  | empty
  | invalid
deriving DecidableEq

/-- The wording of a refused literal. -/
def LiteralError.message : LiteralError → String
  | .empty => "cannot parse float from empty string"
  | .invalid => "invalid float literal"

/-- The double that an unsigned literal stands for: a name of infinity or NaN in any case, or
digits with an optional point, on either side of it, and an optional exponent. -/
def unsignedLiteral? (negative : Bool) (cs : List Char) : Option Double :=
  let name := cs.map Char.toLower
  if name = "inf".toList || name = "infinity".toList then some (infinity negative)
  else if name = "nan".toList then some (nan negative)
  else
    let whole := Numeral.digits cs
    let fraction := Numeral.openFraction whole.rest
    let exponent := Numeral.exponentPart fraction.rest
    if whole.value.isEmpty && fraction.value.isEmpty || !exponent.rest.isEmpty then none
    else some (Numeral.value ⟨negative, whole.value, fraction.value, exponent.value⟩)

/-- The double that a literal stands for: an optional sign and an unsigned literal. -/
def ofLiteral (cs : List Char) : Except LiteralError Double :=
  if cs.isEmpty then .error .empty
  else
    let sign := Numeral.signPart cs
    match unsignedLiteral? sign.value sign.rest with
    | some v => .ok v
    | none => .error .invalid

end Double

end Formula
