import Formula.Proofs.Grammar.Acceptance

/-! Nothing is lost on the way from the tokens to the tree.  The tree, read from left to right,
gives back the tokens in their order, all but the delimiters, which only say how the tree is
built. -/

namespace Formula

/-- Whether a token opens or closes a group. -/
def Token.Kind.isDelimiter : Kind → Bool
  | .opening _ => true
  | .closing _ => true
  | _ => false

/-- Whether a token is a leaf of a tree. -/
def Token.Kind.isOperand : Kind → Bool
  | .number _ => true
  | .letter _ => true
  | _ => false

/-- The tokens of the tree from left to right: an operator stands between its operands or before its
only one, and a letter before its index. -/
def Tree.yield : Tree → List Token.Kind
  | .number value => [.number value]
  | .letter name => [.letter name]
  | .indexed name index => .letter name :: index.yield
  | .binary op left right => left.yield ++ .operator op :: right.yield
  | .unary op operand => op.kind :: operand.yield

theorem Token.Kind.isOperand_of_isDelimiter {k : Kind} (h : k.isDelimiter = true) :
    k.isOperand = false := by
  cases k <;> trivial

theorem UnaryOperator.isDelimiter_kind (op : UnaryOperator) : op.kind.isDelimiter = false := by
  cases op <;> rfl

theorem UnaryOperator.isOperand_kind (op : UnaryOperator) : op.kind.isOperand = false := by
  cases op <;> rfl

theorem Tree.leafCount_eq_countP (t : Tree) :
    t.leafCount = t.yield.countP Token.Kind.isOperand := by
  induction t with
  | number | letter => rfl
  | indexed name index ih =>
    rw [leafCount, yield, List.countP_cons_of_pos rfl, ih, Nat.add_comm]
  | binary op left right ihl ihr =>
    rw [leafCount, yield, List.countP_append,
      List.countP_cons_of_neg (by simp [Token.Kind.isOperand]), ihl, ihr]
  | unary op operand ih =>
    rw [leafCount, yield, List.countP_cons_of_neg (by simp [op.isOperand_kind]), ih]

theorem Token.Kind.countP_filter_isDelimiter (ks : List Kind) :
    (ks.filter fun k => !k.isDelimiter).countP isOperand = ks.countP isOperand := by
  rw [List.countP_filter]
  refine List.countP_congr fun k _ => ?_
  cases hk : k.isDelimiter with
  | false => simp
  | true => simp [isOperand_of_isDelimiter hk]

namespace Grammar

variable {settings : Settings} {tokens : List Token} {t : Tree}

/-- What is derived without values for the letters is the yield of the tree, with delimiters in
between. -/
theorem Derives.yield_eq {p : Phrase} {ks : List Token.Kind} {n : Nat}
    (h : Derives settings {} p ks t n) : t.yield = ks.filter fun k => !k.isDelimiter := by
  induction h with
  | first _ ih | base _ ih => exact ih
  | more _ _ _ ih ih' | exponent _ _ ih ih' =>
    rw [Tree.yield, ih, ih', List.filter_append, List.filter_cons_of_pos rfl]
  | group delimiter _ ih => simp [ih, Token.Kind.isDelimiter]
  | number | letter | indexed => rfl
  | prefixed op _ ih =>
    rw [Tree.yield, ih, List.filter_cons_of_pos (by rw [op.isDelimiter_kind]; rfl)]

/-- A parser that comes to a tree has taken all the tokens. -/
theorem cursor_of_parse {bindings : Bindings} (h : parse settings bindings tokens = .ok (some t)) :
    (run settings bindings tokens).cursor = ⟨tokens.reverse, []⟩ := by
  obtain ⟨hne, s, -, hreads⟩ := reads_of_parse h
  exact (whole_runs hne hreads).2

/-- When no letter has a value, the tree that is parsed yields the tokens in their order, without
the delimiters; so it has a leaf for each number and letter among them.  All of the tokens are
taken, each of them once. -/
theorem parse_yield (h : parse settings {} tokens = .ok (some t)) :
    t.yield = (tokens.map Token.kind).filter (fun k => !k.isDelimiter) ∧
      t.leafCount = (tokens.map Token.kind).countP Token.Kind.isOperand ∧
      (run settings {} tokens).cursor = ⟨tokens.reverse, []⟩ := by
  obtain ⟨n, -, hderives, -⟩ := derives_of_parse h
  have hyield := hderives.yield_eq
  refine ⟨hyield, ?_, cursor_of_parse h⟩
  rw [t.leafCount_eq_countP, hyield, Token.Kind.countP_filter_isDelimiter]

/-- A sum in a group under a sign. -/
theorem parse_yield_group :
    let kinds := [.operator .subtract, .opening .paren, .letter "x", .operator .add, .letter "y",
      .closing .paren]
    let tokens := kinds.map Token.synthetic
    let t : Tree := .unary .minus (.binary .add (.letter "x") (.letter "y"))
    parse {} {} tokens = .ok (some t) ∧
      t.yield = (tokens.map Token.kind).filter (fun k => !k.isDelimiter) ∧
      t.leafCount = (tokens.map Token.kind).countP Token.Kind.isOperand ∧
      (run {} {} tokens).cursor = ⟨tokens.reverse, []⟩ := by
  intro kinds tokens t
  have hx : Derives {} {} .expression [.letter "x"] (.letter "x") 0 :=
    .first (.first (.first (.letter "x")))
  have hy : Derives {} {} (.chain .product) [.letter "y"] (.letter "y") 0 :=
    .first (.first (.letter "y"))
  have hrank : BinaryOperator.add.rank = .sum := rfl
  have hsum := Derives.more hrank hx hy
  have hderives : Derives {} {} .expression (tokens.map Token.kind) t 2 :=
    .first (.first (.first (.prefixed .minus (.group .paren hsum))))
  have h : parse {} {} tokens = .ok (some t) := hderives.parse.1 (by decide) (.inr (by decide))
  exact ⟨h, parse_yield h⟩

end Grammar

end Formula
