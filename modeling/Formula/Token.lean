import Formula.Location
import Formula.Numeral
import Formula.Operator

/-! Tokens: what they are, how they are written and where they stand. -/

namespace Formula

/-- What a token is, with the value of a number and the name of a letter. -/
inductive Token.Kind where
  | number (value : Double)
  | letter (name : String)
  | operator (op : BinaryOperator)
  | opening (delimiter : Delimiter)
  | closing (delimiter : Delimiter)
  | function (f : NamedFunction)
deriving DecidableEq

namespace Token.Kind

/-- The kinds that are always written the same. -/
def fixed : List Kind :=
  BinaryOperator.all.map .operator ++ Delimiter.all.map .opening ++ Delimiter.all.map .closing ++
    NamedFunction.all.map .function

/-- How a token is written in an expression. -/
def symbol : Kind → String
  | .number value => value.text
  | .letter name => name
  | .operator op => op.symbol
  | .opening d => d.opening
  | .closing d => d.closing
  | .function f => f.symbol

/-- How a token is named in messages. -/
def text : Kind → String
  | .number value => "number " ++ value.text
  | .letter name => "letter '" ++ name ++ "'"
  | kind => "'" ++ kind.symbol ++ "'"

/-- The kind that is always written as the given symbol. -/
def ofSymbol? (symbol : String) : Option Kind := fixed.find? (·.symbol == symbol)

def isFunction : Kind → Bool
  | .function _ => true
  | _ => false

def isOperator : Kind → Bool
  | .operator _ => true
  | _ => false

/-- Whether two kinds match, numbers being compared as numbers. -/
def same : Kind → Kind → Bool
  | .number v, .number w => v.same w
  | a, b => a == b

end Token.Kind

/-- A token: its kind, the text it was read from and where that starts. -/
structure Token where
  kind : Token.Kind
  lexeme : String
  location : Location
deriving DecidableEq

namespace Token

/-- A token that comes from no text: its symbol is its lexeme. -/
def synthetic (kind : Kind) : Token := ⟨kind, kind.symbol, {}⟩

def text (t : Token) : String := t.kind.text ++ "@" ++ t.location.text

end Token

end Formula
