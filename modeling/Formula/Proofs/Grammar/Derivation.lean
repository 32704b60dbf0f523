import Formula.Grammar.Parser

/-! The grammar of expressions, as rules that derive sequences of token kinds.  Each derivation has
a tree, which a left or right grouping chain folds in its own direction and a group leaves alone,
and a nesting, the greatest number of groups, signs, functions and exponents grouping to the right
on one path through it.  The rules know nothing of the two limits. -/

namespace Formula

/-- The ranks of the operators that join operands, the loosest first. -/
inductive Rank where
  | sum
  | product
  | power
deriving DecidableEq

/-- How tightly operators of a rank bind. -/
def Rank.level : Rank → Nat
  | .sum => 0
  | .product => 1
  | .power => 2

def BinaryOperator.rank : BinaryOperator → Rank
  | .add => .sum
  | .subtract => .sum
  | .multiply => .product
  | .divide => .product
  | .power => .power

/-- The token that an operator before its operand is written as. -/
def UnaryOperator.kind : UnaryOperator → Token.Kind
  | .plus => .operator .add
  | .minus => .operator .subtract
  | .function f => .function f

/-- What an unindexed letter becomes: its value if it has one, else itself. -/
def Bindings.leaf (b : Bindings) (name : String) : Tree :=
  match b.get? name with
  | some value => .number value
  | none => .letter name

/-- Whether a tree is a number or a letter without index. -/
def Tree.isBare : Tree → Bool
  | .number _ => true
  | .letter _ => true
  | _ => false

/-- A tree that the limit on heights allows; a number or a bare letter is always allowed. -/
def Tree.Fits (settings : Settings) (t : Tree) : Prop :=
  t.isBare = true ∨ t.depth ≤ settings.maxTreeDepth

namespace Grammar

/-- What the grammar has rules for. -/
inductive Phrase where
  /-- Operands joined by operators of one rank, grouped to the left. -/
  | chain (rank : Rank)
  /-- Factors joined by `^`, grouped to the right. -/
  | tower
  /-- The tightest unit. -/
  | factor
deriving DecidableEq

/-- A whole expression is a chain of the loosest rank. -/
abbrev Phrase.expression : Phrase := .chain .sum

/-- Factors joined by `^`, grouped as the settings say. -/
def Phrase.powers (settings : Settings) : Phrase :=
  match settings.power with
  | .left => .chain .power
  | .right => .tower

/-- The operands that operators of a rank join. -/
def Phrase.operand (settings : Settings) : Rank → Phrase
  | .sum => .chain .product
  | .product => .powers settings
  | .power => .factor

/-- How tightly the operators bind that a phrase may contain outside groups. -/
def Phrase.level : Phrase → Nat
  | .chain rank => rank.level
  | .tower => 2
  | .factor => 3

/-- `Derives settings bindings p ks t n`: the rules derive the sequence `ks` from the phrase `p`, by
a derivation with tree `t` and nesting `n`. -/
inductive Derives (settings : Settings) (bindings : Bindings) :
    Phrase → List Token.Kind → Tree → Nat → Prop
  | first {rank ks t n} :
      Derives settings bindings (.operand settings rank) ks t n →
      Derives settings bindings (.chain rank) ks t n
  | more {rank op ks ls l r m n} :
      op.rank = rank →
      Derives settings bindings (.chain rank) ks l m →
      Derives settings bindings (.operand settings rank) ls r n →
      Derives settings bindings (.chain rank) (ks ++ .operator op :: ls) (.binary op l r) (max m n)
  | base {ks t n} :
      Derives settings bindings .factor ks t n →
      Derives settings bindings .tower ks t n
  | exponent {ks ls l r m n} :
      Derives settings bindings .factor ks l m →
      Derives settings bindings .tower ls r n →
      Derives settings bindings .tower (ks ++ .operator .power :: ls) (.binary .power l r)
        (max m (n + 1))
  | group {ks t n} (delimiter : Delimiter) :
      Derives settings bindings .expression ks t n →
      Derives settings bindings .factor (.opening delimiter :: ks ++ [.closing delimiter]) t (n + 1)
  | number (value : Double) :
      Derives settings bindings .factor [.number value] (.number value) 0
  | letter (name : String) :
      Derives settings bindings .factor [.letter name] (bindings.leaf name) 0
  | indexed (name : String) (value : Double) :
      settings.indexedLetters = true →
      Derives settings bindings .factor [.letter name, .number value]
        (.indexed name (.number value)) 0
  | prefixed {ks t n} (op : UnaryOperator) :
      Derives settings bindings .factor ks t n →
      Derives settings bindings .factor (op.kind :: ks) (.unary op t) (n + 1)

/-- The tokens are an expression of the grammar; the limits play no part. -/
def Sentence (settings : Settings) (tokens : List Token) : Prop :=
  ∃ t n, Derives settings {} .expression (tokens.map Token.kind) t n

/-- No phrase is empty. -/
theorem Derives.ne_nil {settings : Settings} {bindings : Bindings} {p : Phrase}
    {ks : List Token.Kind} {t : Tree} {n : Nat} (h : Derives settings bindings p ks t n) :
    ks ≠ [] := by
  induction h with
  | first _ ih | base _ ih => exact ih
  | more | exponent | group | number | letter | indexed | prefixed => simp

end Grammar

/-- The operands of an operation that fits are no higher than the settings allow. -/
theorem Tree.Fits.depth_le {settings : Settings} {t : Tree} (h : t.Fits settings)
    (ht : t.isBare = false) : t.depth ≤ settings.maxTreeDepth := by
  rcases h with h | h
  · simp [ht] at h
  · exact h

end Formula
