import Formula.Tree

/-! The text of a tree, with parentheses around every binary operation, so that the text shows how
the expression groups. -/

namespace Formula.Tree

/-- The text of a tree.  A number below zero stands in parentheses, which keep its sign from reading
as an operator; a function takes parentheses around a leaf and a space before anything else; an
index that is not a number stands in brackets. -/
def render : Tree → String
  | .number value =>
    if value.negative && !value.isZero then "(" ++ value.text ++ ")" else value.text
  | .letter name => name
  | .indexed name index =>
    if index.isNumber then name ++ index.render else name ++ "[" ++ index.render ++ "]"
  | .binary op left right => "(" ++ left.render ++ " " ++ op.symbol ++ " " ++ right.render ++ ")"
  | .unary op operand =>
    if op.isFunction then
      if operand.isLeaf then op.symbol ++ "(" ++ operand.render ++ ")"
      else op.symbol ++ " " ++ operand.render
    else op.symbol ++ operand.render

end Formula.Tree
