import Formula.Proofs.Grammar.Acceptance
import Formula.Proofs.Tree.Printed
import Formula.Source

/-! Printing a tree is undone by reading the text, except that the sign of a negative number becomes
an operator.  The tokens of the text are a factor by the grammar whatever the tree is, since every
binary operation stands in parentheses; the nesting of that factor decides, with the height of the
tree, whether the text is within the limits. -/

namespace Formula

namespace Tree

/-- The tree with the signs of negative numbers as operators before their absolute values.  Indices
stay as they are. -/
def signsApart : Tree → Tree
  | .number value => if value.negative then .unary .minus (.number value.abs) else .number value
  | .letter name => .letter name
  | .indexed name index => .indexed name index
  | .binary op left right => .binary op left.signsApart right.signsApart
  | .unary op operand => .unary op operand.signsApart

/-- The nesting of the text of a tree: its parentheses, signs and functions on one path, and the
powers that group to the right. -/
def nesting (settings : Settings) : Tree → Nat
  | .number value => if value.negative then if value.isZero then 1 else 2 else 0
  | .letter _ => 0
  | .indexed _ _ => 0
  | .binary op left right =>
    let exponent := if op = .power ∧ settings.power = .right then 1 else 0
    1 + max (left.nesting settings) (right.nesting settings + exponent)
  | .unary op operand =>
    if op.isFunction && operand.isLeaf then 2 + operand.nesting settings
    else 1 + operand.nesting settings

end Tree

namespace Grammar

variable {settings : Settings} {bindings : Bindings} {ks ls : List Token.Kind} {l r t : Tree}
  {m n : Nat}

theorem Derives.powers (h : Derives settings bindings .factor ks t n) :
    Derives settings bindings (.powers settings) ks t n := by
  unfold Phrase.powers
  cases settings.power with
  | left => exact .first h
  | right => exact .base h

theorem Derives.operand (h : Derives settings bindings .factor ks t n) (rank : Rank) :
    Derives settings bindings (.operand settings rank) ks t n := by
  cases rank with
  | sum => exact .first h.powers
  | product => exact h.powers
  | power => exact h

theorem Derives.expression (h : Derives settings bindings .factor ks t n) :
    Derives settings bindings .expression ks t n :=
  .first (h.operand .sum)

/-- Two factors with an operator between them are an expression. -/
theorem Derives.binary (op : BinaryOperator) (hl : Derives settings bindings .factor ks l m)
    (hr : Derives settings bindings .factor ls r n) :
    Derives settings bindings .expression (ks ++ .operator op :: ls) (.binary op l r)
      (max m (n + if op = .power ∧ settings.power = .right then 1 else 0)) := by
  have hsum {op : BinaryOperator} (hop : op.rank = .sum) :
      Derives settings bindings .expression (ks ++ .operator op :: ls) (.binary op l r) (max m n) :=
    .more hop (.first (hl.operand .sum)) (hr.operand .sum)
  have hproduct {op : BinaryOperator} (hop : op.rank = .product) :
      Derives settings bindings .expression (ks ++ .operator op :: ls) (.binary op l r) (max m n) :=
    .first (.more hop (.first (hl.operand .product)) (hr.operand .product))
  cases op with
  | add | subtract => exact hsum rfl
  | multiply | divide => exact hproduct rfl
  | power =>
    refine .first (.first ?_)
    cases hp : settings.power with
    | left =>
      simp only [Phrase.operand, Phrase.powers, hp]
      exact .more rfl (.first hl) hr
    | right =>
      simp only [Phrase.operand, Phrase.powers, hp]
      exact .exponent hl (.base hr)

theorem Derives.parenthesized (h : Derives settings bindings .factor ks t n) :
    Derives settings bindings .factor (.opening .paren :: ks ++ [.closing .paren]) t (n + 1) :=
  .group .paren h.expression

theorem derives_numberKinds (v : Double) :
    Derives settings {} .factor (Tree.numberKinds v) (Tree.number v).signsApart
      ((Tree.number v).nesting settings) := by
  simp only [Tree.numberKinds, Tree.signsApart, Tree.nesting]
  have hminus : Derives settings {} .factor [.operator .subtract, .number v.abs]
    (.unary .minus (.number v.abs)) 1 := .prefixed .minus (.number v.abs)
  split
  · split
    · exact hminus
    · exact hminus.parenthesized
  · exact .number v

/-- The tokens of a readable tree are derived with exactly the nesting of its text. -/
theorem derives_kinds (ht : t.isReadable settings = true) :
    Derives settings {} .factor t.kinds t.signsApart (t.nesting settings) := by
  induction t with
  | number value => exact derives_numberKinds value
  | letter name => exact .letter name
  | indexed name index =>
    cases index with
    | number value =>
      simp only [Tree.isReadable, Bool.and_eq_true, Bool.not_eq_true'] at ht
      obtain ⟨⟨⟨hindexed, -⟩, -⟩, hsign⟩ := ht
      simpa [Tree.kinds, Tree.numberKinds, Tree.signsApart, Tree.nesting, hsign] using
        Derives.indexed name value hindexed
    | _ => contradiction
  | binary op left right ihl ihr =>
    simp only [Tree.isReadable, Bool.and_eq_true] at ht
    have hd := Derives.group .paren ((ihl ht.1).binary op (ihr ht.2))
    simpa [Tree.kinds, Tree.signsApart, Tree.nesting, Nat.add_comm 1] using hd
  | unary op operand ih =>
    have hoperand := ih ht
    simp only [Tree.kinds, Tree.signsApart, Tree.nesting]
    split
    · rw [Nat.add_comm 2]
      exact .prefixed op hoperand.parenthesized
    · rw [Nat.add_comm 1]
      exact .prefixed op hoperand

end Grammar

namespace Source

/-- A text has a tree exactly if it is all tokens and they have that tree. -/
theorem parse_eq_ok_iff_exists {settings : Settings} {bindings : Bindings} {source : String}
    {t : Option Tree} : parse settings bindings source = .ok t ↔
      ∃ tokens, Lexer.items source = tokens.map .ok ∧
        Grammar.parse settings bindings tokens = .ok t := by
  constructor
  · intro h
    rcases hread : Lexer.untilError (Lexer.items source) with ⟨tokens, _ | e⟩
    · exact ⟨tokens, Lexer.items_eq_of_untilError hread, (parse_eq_ok_of_untilError hread).mp h⟩
    · rw [parse_of_untilError_error settings bindings hread] at h
      contradiction
  · rintro ⟨tokens, hitems, h⟩
    have hread : Lexer.untilError (Lexer.items source) = (tokens, none) := by
      rw [hitems, Lexer.untilError_map_ok]
    exact (parse_eq_ok_of_untilError hread).mpr h

/-- A text that is made up of tokens is parsed as those tokens. -/
theorem parse_of_spells (settings : Settings) (bindings : Bindings) {source : String}
    {ks : List Token.Kind} (h : Lexer.Spells source.toList ks) :
    ∃ tokens : List Token, tokens.map Token.kind = ks ∧
      parse settings bindings source =
        (Grammar.parse settings bindings tokens).mapError .grammatical := by
  obtain ⟨tokens, hitems, hkinds⟩ := h .start
  refine ⟨tokens, hkinds, ?_⟩
  have hread : Lexer.untilError (Lexer.items source) = (tokens, none) := by
    rw [Lexer.items, hitems, Lexer.untilError_map_ok]
  exact parse_of_untilError settings bindings hread

/-- The text of a readable tree is read as that tree with the signs of its numbers set apart, if it
nests no deeper than the settings allow and the tree is no higher; otherwise a limit stops it. -/
theorem parse_render {settings : Settings} {t : Tree} (ht : t.isReadable settings = true) :
    (t.nesting settings ≤ settings.maxDepth ∧ t.signsApart.Fits settings →
      parse settings {} t.render = .ok (some t.signsApart)) ∧
    (¬(t.nesting settings ≤ settings.maxDepth ∧ t.signsApart.Fits settings) →
      ∃ limit location, (limit = settings.maxDepth ∨ limit = settings.maxTreeDepth) ∧
        parse settings {} t.render = .error (.grammatical (.nestingTooDeep limit location))) := by
  have hspells : Lexer.Spells (t.render.toList ++ []) (t.kinds ++ []) :=
    .render ht (by simp [Tree.Ends]) .nil
  rw [List.append_nil, List.append_nil] at hspells
  obtain ⟨tokens, hkinds, hparse⟩ := parse_of_spells settings {} hspells
  have hd := (Grammar.derives_kinds ht).expression
  rw [← hkinds] at hd
  rw [hparse]
  constructor
  · rintro ⟨hn, hfits⟩
    rw [hd.parse.1 hn hfits]
    rfl
  · intro hbeyond
    obtain ⟨limit, location, hlimit, herror⟩ := hd.parse.2 hbeyond
    exact ⟨limit, location, hlimit, by rw [herror]; rfl⟩

/-- A function of a negative number, which costs a sign and two pairs of parentheses. -/
theorem parse_render_sin :
    let t : Tree := .unary (.function .sin) (.number ⟨0xc004000000000000⟩)
    let read : Tree := .unary (.function .sin) (.unary .minus (.number ⟨0x4004000000000000⟩))
    t.isReadable {} = true ∧ parse {} {} t.render = .ok (some read) := by
  intro t read
  have ht : t.isReadable {} = true := by decide
  have hread : t.signsApart = read := by decide
  refine ⟨ht, ?_⟩
  rw [← hread]
  exact (parse_render ht).1 ⟨by decide, .inr (by decide)⟩

end Source

end Formula
