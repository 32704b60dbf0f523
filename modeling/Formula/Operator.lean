/-! The operators, functions and delimiters of expressions, with their symbols and names. -/

namespace Formula

/-- The operators that stand between two operands. -/
inductive BinaryOperator where
  | add
  | subtract
  | multiply
  | divide
  | power
deriving DecidableEq

namespace BinaryOperator

def all : List BinaryOperator := [.add, .subtract, .multiply, .divide, .power]

/-- How the operator is written in an expression. -/
def symbol : BinaryOperator → String
  | .add => "+"
  | .subtract => "-"
  | .multiply => "*"
  | .divide => "/"
  | .power => "^"

/-- What the operator is called in outlines and documents. -/
def name : BinaryOperator → String
  | .add => "Add"
  | .subtract => "Subtract"
  | .multiply => "Multiply"
  | .divide => "Divide"
  | .power => "Power"

end BinaryOperator

/-- The functions that have a name of their own in expressions. -/
inductive NamedFunction where
  | sin
  | cos
  | exp
  | sqrt
deriving DecidableEq

namespace NamedFunction

def all : List NamedFunction := [.sin, .cos, .exp, .sqrt]

/-- How the function is written in an expression. -/
def symbol : NamedFunction → String
  | .sin => "sin"
  | .cos => "cos"
  | .exp => "exp"
  | .sqrt => "sqrt"

/-- What the function is called in outlines and documents. -/
def name : NamedFunction → String
  | .sin => "Sin"
  | .cos => "Cos"
  | .exp => "Exp"
  | .sqrt => "Sqrt"

end NamedFunction

/-- The operators that stand before one operand: the two signs and the functions. -/
inductive UnaryOperator where
  | plus
  | minus
  | function (f : NamedFunction)
deriving DecidableEq

namespace UnaryOperator

def all : List UnaryOperator := [.plus, .minus] ++ NamedFunction.all.map .function

/-- How the operator is written in an expression. -/
def symbol : UnaryOperator → String
  | .plus => "+"
  | .minus => "-"
  | .function f => f.symbol

/-- What the operator is called in outlines and documents. -/
def name : UnaryOperator → String
  | .plus => "Plus"
  | .minus => "Minus"
  | .function f => f.name

def isFunction : UnaryOperator → Bool
  | .function _ => true
  | _ => false

end UnaryOperator

/-- The two kinds of group; each is ended by its own closing symbol only. -/
inductive Delimiter where
  | paren
  | bracket
deriving DecidableEq

namespace Delimiter

def all : List Delimiter := [.paren, .bracket]

/-- The symbol that opens a group. -/
def opening : Delimiter → String
  | .paren => "("
  | .bracket => "["

/-- The symbol that closes a group. -/
def closing : Delimiter → String
  | .paren => ")"
  | .bracket => "]"

/-- How the pair appears in messages. -/
def text (d : Delimiter) : String := "'" ++ d.opening ++ "' ... '" ++ d.closing ++ "'"

end Delimiter

end Formula
