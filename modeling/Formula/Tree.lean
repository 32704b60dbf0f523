import Formula.Numeral
import Formula.Operator

/-! Expression trees, their size, and their equality as numbers. -/

namespace Formula

/-- An expression.  A letter may carry an index, which is an expression itself. -/
inductive Tree where
  | number (value : Double)
  | letter (name : String)
  | indexed (name : String) (index : Tree)
  | binary (op : BinaryOperator) (left right : Tree)
  | unary (op : UnaryOperator) (operand : Tree)
deriving DecidableEq

namespace Tree

/-- The number of numbers and letters, those inside indices included. -/
def leafCount : Tree → Nat
  | .number _ => 1
  | .letter _ => 1
  | .indexed _ index => 1 + index.leafCount
  | .binary _ left right => left.leafCount + right.leafCount
  | .unary _ operand => operand.leafCount

/-- The height of the tree; a number or a letter without index has depth one. -/
def depth : Tree → Nat
  | .number _ => 1
  | .letter _ => 1
  | .indexed _ index => 1 + index.depth
  | .binary _ left right => 1 + max left.depth right.depth
  | .unary _ operand => 1 + operand.depth

/-- Whether the root is a number or a letter, with or without index. -/
def isLeaf : Tree → Bool
  | .number _ => true
  | .letter _ => true
  | .indexed _ _ => true
  | _ => false

def isNumber : Tree → Bool
  | .number _ => true
  | _ => false

/-- Equality with numbers compared as numbers: a tree with a NaN in it differs from itself. -/
def same : Tree → Tree → Bool
  | .number v, .number w => v.same w
  | .letter a, .letter b => a == b
  | .indexed a i, .indexed b j => a == b && i.same j
  | .binary o l r, .binary p m s => o == p && l.same m && r.same s
  | .unary o t, .unary p u => o == p && t.same u
  | _, _ => false

end Tree

end Formula
