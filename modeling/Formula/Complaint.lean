import Formula.Source
import Formula.Text.Quoted

/-! Readings that are expected to succeed, and the complaints when they do not. -/

namespace Formula

/-- Why something that has to be an operator, tokens or a tree is not. -/
inductive Complaint where
  | unknownOperator (symbol : String)
  | notTokens (source : String) (error : LexicalError)
  | empty (source : String)
  | noExpression (source : String) (error : SourceError)

def Complaint.message : Complaint → String
  | .unknownOperator symbol => "Unknown operator: " ++ symbol
  | .notTokens source error => "Failed to tokenize " ++ Text.quoted source ++ ": " ++ error.message
  | .empty source => Text.quoted source ++ " is empty"
  | .noExpression source error => Text.quoted source ++ " failed to parse: " ++ error.message

/-- The token that is written as the given symbol. -/
def requireOperator (symbol : String) : Except Complaint Token :=
  match Token.Kind.ofSymbol? symbol with
  | some kind => .ok (.synthetic kind)
  | none => .error (.unknownOperator symbol)

/-- The tokens of a source text. -/
def requireTokens (source : String) : Except Complaint (List Token) :=
  (Lexer.tokenize source).mapError (.notTokens source)

/-- The tree of a source text, under the default settings. -/
def requireTree (bindings : Bindings) (source : String) : Except Complaint Tree :=
  match Source.parse {} bindings source with
  | .ok (some tree) => .ok tree
  | .ok none => .error (.empty source)
  | .error error => .error (.noExpression source error)

end Formula
