import Formula.Proofs.Grammar.Derivation
import Formula.Proofs.Token.Spelling
import Formula.Tree.Render

/-! The tokens that the text of a tree is made up of.  Nothing in the text runs together: a number
and a letter are followed by a space, a closing parenthesis or the end of the text, and an index
starts with a digit. -/

namespace Formula

/-- Whether a name is a single letter of the alphabet. -/
def isLetterName (name : String) : Bool :=
  match name.toList with
  | [c] => c.isAlpha
  | _ => false

namespace Tree

/-- Whether the text of a tree can be read: its numbers are finite, its names are single letters,
and an index is a number without sign, where the settings have indices at all. -/
def isReadable (settings : Settings) : Tree → Bool
  | .number value => value.isFinite
  | .letter name => isLetterName name
  | .indexed name (.number value) =>
    settings.indexedLetters && isLetterName name && value.isFinite && !value.negative
  | .indexed _ _ => false
  | .binary _ left right => left.isReadable settings && right.isReadable settings
  | .unary _ operand => operand.isReadable settings

/-- The tokens of the text of a number: the sign of a negative one is a token of its own. -/
def numberKinds (value : Double) : List Token.Kind :=
  if value.negative then
    if value.isZero then [.operator .subtract, .number value.abs]
    else [.opening .paren, .operator .subtract, .number value.abs, .closing .paren]
  else [.number value]

/-- The tokens of the text of a readable tree. -/
def kinds : Tree → List Token.Kind
  | .number value => numberKinds value
  | .letter name => [.letter name]
  | .indexed name index => .letter name :: index.kinds
  | .binary op left right =>
    .opening .paren :: left.kinds ++ .operator op :: right.kinds ++ [.closing .paren]
  | .unary op operand =>
    if op.isFunction && operand.isLeaf then
      op.kind :: .opening .paren :: operand.kinds ++ [.closing .paren]
    else op.kind :: operand.kinds

/-- What may follow a tree in the text of another. -/
def Ends (cs : List Char) : Prop := ∀ c ∈ cs.head?, c = ' ' ∨ c = ')'

theorem Ends.number {cs : List Char} (h : Ends cs) : Numeral.Ends cs := by
  intro c hc
  rcases h c hc with rfl | rfl <;> decide

theorem Ends.letter {cs : List Char} (h : Ends cs) : ∀ c ∈ cs.head?, c.isAlpha = false := by
  intro c hc
  rcases h c hc with rfl | rfl <;> decide

theorem ends_space (cs : List Char) : Ends (" ".toList ++ cs) := by simp [Ends]

theorem ends_closing (cs : List Char) : Ends (Delimiter.paren.closing.toList ++ cs) := by
  simp [Ends, Delimiter.closing]

end Tree

theorem exists_char_of_isLetterName {name : String} (h : isLetterName name = true) :
    ∃ c : Char, c.isAlpha = true ∧ name = c.toString := by
  unfold isLetterName at h
  split at h
  · next c hname => exact ⟨c, h, String.toList_inj.mp (by simpa using hname)⟩
  · contradiction

namespace Lexer.Spells

open Formula.Tree

variable {cs : List Char} {ks : List Token.Kind}

theorem letterName {name : String} (hname : isLetterName name = true)
    (hcs : ∀ d ∈ cs.head?, d.isAlpha = false) (h : Spells cs ks) :
    Spells (name.toList ++ cs) (.letter name :: ks) := by
  obtain ⟨c, hc, rfl⟩ := exists_char_of_isLetterName hname
  exact h.letter hc hcs

theorem indexed {name : String} {v : Double} (hname : isLetterName name = true)
    (hv : v.isFinite = true) (hsign : v.negative = false) (hcs : Ends cs) (h : Spells cs ks) :
    Spells (name.toList ++ (v.text.toList ++ cs)) (.letter name :: .number v :: ks) := by
  refine (h.number hv hsign hcs.number).letterName hname fun d hd => ?_
  rw [List.head?_append, Option.mem_def, Option.or_eq_some_iff] at hd
  rcases hd with hd | ⟨-, hd⟩
  · have hdigit := v.isDigit_head_text hv hsign d hd
    cases hd' : d.isAlpha with
    | false => rfl
    | true => simp [isDigit_eq_false hd'] at hdigit
  · exact hcs.letter d hd

theorem unary (op : UnaryOperator) (h : Spells cs ks) :
    Spells (op.symbol.toList ++ cs) (op.kind :: ks) := by
  cases op with
  | plus => exact h.operator .add
  | minus => exact h.operator .subtract
  | function f => exact h.function f

theorem numberKinds {v : Double} (hv : v.isFinite = true) (hcs : Ends cs) (h : Spells cs ks) :
    Spells ((render (.number v)).toList ++ cs) (numberKinds v ++ ks) := by
  have habs : v.abs.isFinite = true := Double.isFinite_abs.trans hv
  by_cases hsign : v.negative = true
  · have htext : v.text = BinaryOperator.subtract.symbol ++ v.abs.text :=
      v.text_of_negative hv hsign
    by_cases hzero : v.isZero = true
    · have hspells := (h.number habs v.negative_abs hcs.number).operator .subtract
      simpa [Tree.render, Tree.numberKinds, hsign, hzero, htext] using hspells
    · have hclosed := (h.closing .paren).number habs v.negative_abs (ends_closing cs).number
      have hspells := (hclosed.operator .subtract).opening .paren
      simpa [Tree.render, Tree.numberKinds, hsign, hzero, htext, Delimiter.opening,
        Delimiter.closing] using hspells
  · simp only [Bool.not_eq_true] at hsign
    simpa [Tree.render, Tree.numberKinds, hsign] using h.number hv hsign hcs.number

/-- The text of a readable tree is made up of the tokens of the tree. -/
theorem render {settings : Settings} {t : Tree} (ht : t.isReadable settings = true) (hcs : Ends cs)
    (h : Spells cs ks) : Spells (t.render.toList ++ cs) (t.kinds ++ ks) := by
  -- The text is built from its end, so the hypotheses are used from right to left.
  induction t generalizing cs ks with
  | number value => exact numberKinds ht hcs h
  | letter name => exact letterName ht hcs.letter h
  | indexed name index =>
    cases index with
    | number value =>
      simp only [isReadable, Bool.and_eq_true, Bool.not_eq_true'] at ht
      obtain ⟨⟨⟨-, hname⟩, hv⟩, hsign⟩ := ht
      simpa [Tree.render, kinds, isNumber, Tree.numberKinds, hsign] using
        indexed hname hv hsign hcs h
    | _ => contradiction
  | binary op left right ihl ihr =>
    simp only [isReadable, Bool.and_eq_true] at ht
    have hright := ihr ht.2 (ends_closing cs) (h.closing .paren)
    have hleft := ihl ht.1 (ends_space _) (hright.space.operator op).space
    simpa [Tree.render, kinds, Delimiter.opening, Delimiter.closing] using hleft.opening .paren
  | unary op operand ih =>
    by_cases hf : op.isFunction = true
    · by_cases hl : operand.isLeaf = true
      · have hspells := ((ih ht (ends_closing cs) (h.closing .paren)).opening .paren).unary op
        simpa [Tree.render, kinds, hf, hl, Delimiter.opening, Delimiter.closing] using hspells
      · simpa [Tree.render, kinds, hf, hl] using (ih ht hcs h).space.unary op
    · simpa [Tree.render, kinds, hf] using (ih ht hcs h).unary op

end Lexer.Spells

end Formula
