import Formula.Text.Lines
import Formula.Tree

/-! Trees read from the root downwards: an operation before its operands, the left operand before
the right one, a letter before its index.  Visits, letters and the outline follow this order. -/

namespace Formula

/-- A node without what is below it. -/
inductive Tree.Entry where
  | number (value : Double)
  | letter (name : String)
  | binary (op : BinaryOperator)
  | unary (op : UnaryOperator)
deriving DecidableEq

namespace Tree.Entry

/-- What an outline shows for a node. -/
def label : Entry → String
  | .number value => "Number(" ++ value.text ++ ")"
  | .letter name => "Letter(" ++ name ++ ")"
  | .binary op => op.name
  | .unary op => op.name

def letter? : Entry → Option String
  | .letter name => some name
  | _ => none

end Tree.Entry

/-- Why a visitor refuses a node. -/
inductive VisitError where
  /-- A reason of the visitor's own. -/
  | custom (message : String)
  /-- A letter that the visitor has no value for. -/
  | unboundLetter (name : String)

def VisitError.message : VisitError → String
  | .custom message => message
  | .unboundLetter name => "unbound letter '" ++ name ++ "'"

namespace Tree

/-- The nodes in order, each with its level, the root being at `level`. -/
def entriesAt (level : Nat) : Tree → List (Nat × Entry)
  | .number value => [(level, .number value)]
  | .letter name => [(level, .letter name)]
  | .indexed name index => (level, .letter name) :: index.entriesAt (level + 1)
  | .binary op left right =>
    (level, .binary op) :: (left.entriesAt (level + 1) ++ right.entriesAt (level + 1))
  | .unary op operand => (level, .unary op) :: operand.entriesAt (level + 1)

/-- The nodes in order. -/
def entries (t : Tree) : List Entry := (t.entriesAt 0).map (·.2)

/-- The names of the letters, each once, in the order in which they are first met. -/
def letters (t : Tree) : List String := (t.entries.filterMap Entry.letter?).eraseDups

/-- Visits nodes in order until `check` refuses one: the nodes visited, the refused one included,
and the reason. -/
def visitAll (check : Entry → Except VisitError Unit) : List Entry → List Entry × Option VisitError
  | [] => ([], none)
  | entry :: rest =>
    match check entry with
    | .error reason => ([entry], some reason)
    | .ok () => let (visited, reason) := visitAll check rest; (entry :: visited, reason)

/-- Visits the nodes of a tree in order until `check` refuses one. -/
def visit (check : Entry → Except VisitError Unit) (t : Tree) : List Entry × Option VisitError :=
  visitAll check t.entries

/-- The names met once another one is: a new name comes last. -/
def meet (met : List String) (name : String) : List String :=
  if name ∈ met then met else met ++ [name]

/-- Visits the tree, with the names met so far, and gives the names met after that.  Nothing is
refused on such a visit. -/
def collect (met : List String) : Tree → Except VisitError (List String)
  | .number _ => .ok met
  | .letter name => .ok (meet met name)
  | .indexed name index => index.collect (meet met name)
  | .binary _ left right => do right.collect (← left.collect met)
  | .unary _ operand => operand.collect met

/-- One line for each node, indented by `indent` spaces a level. -/
def outline (indent : Nat) (t : Tree) : String :=
  String.join ((t.entriesAt 0).map fun (level, entry) =>
    Text.spaces (level * indent) ++ entry.label ++ "\n")

end Tree

end Formula
