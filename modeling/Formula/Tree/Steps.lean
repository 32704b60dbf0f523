import Formula.Tree

/-! Trees built from a list of steps on a stack, an operation after its operands. -/

namespace Formula.Tree

/-- One step in building a tree. -/
inductive Step where
  /-- Puts a tree on the stack. -/
  | push (t : Tree)
  /-- Makes the top the index of a letter. -/
  | index (name : String)
  /-- Puts the top on the stack once more. -/
  | duplicate
  /-- Joins the two trees at the top, the left one below the right one. -/
  | binary (op : BinaryOperator)
  /-- Applies an operator to the top. -/
  | unary (op : UnaryOperator)

/-- The stack after a step; there is none if operands are missing. -/
def Step.apply? : Step → List Tree → Option (List Tree)
  | .push t, stack => some (t :: stack)
  | .index name, top :: stack => some (.indexed name top :: stack)
  | .duplicate, top :: stack => some (top :: top :: stack)
  | .binary op, right :: left :: stack => some (.binary op left right :: stack)
  | .unary op, top :: stack => some (.unary op top :: stack)
  | _, _ => none

/-- The stacks after each step in turn. -/
def stacks? (stack : List Tree) : List Step → Option (List (List Tree))
  | [] => some []
  | step :: rest => do
    let next ← step.apply? stack
    return next :: (← stacks? next rest)

/-- The tree on top after all steps. -/
def ofSteps? (steps : List Step) : Option Tree := do (← (← stacks? [] steps).getLast?).head?

end Formula.Tree
