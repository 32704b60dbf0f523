import Formula.Token

/-! Why a sequence of tokens is no expression. -/

namespace Formula

/-- What is wrong with a sequence of tokens, and where. -/
inductive SyntaxError where
  /-- A token where an operand has to stand. -/
  | unexpectedToken (found : Token.Kind) (location : Location)
  /-- The tokens end where an operand has to stand. -/
  | unexpectedEnd (location : Location)
  /-- A group is followed by something other than its closing symbol. -/
  | mismatchedDelimiter (delimiter : Delimiter) (found : Token.Kind) (location : Location)
  /-- The tokens end inside a group. -/
  | unclosedDelimiter (delimiter : Delimiter) (openedAt : Location)
  /-- A token after a complete expression. -/
  | trailingTokens (found : Token.Kind) (location : Location)
  /-- One of the two limits of the settings is exceeded. -/
  | nestingTooDeep (limit : Nat) (location : Location)
deriving DecidableEq

namespace SyntaxError

/-- Where the error is: at a group that is never closed, its opening symbol. -/
def location : SyntaxError → Location
  | .unexpectedToken _ location => location
  | .unexpectedEnd location => location
  | .mismatchedDelimiter _ _ location => location
  | .unclosedDelimiter _ openedAt => openedAt
  | .trailingTokens _ location => location
  | .nestingTooDeep _ location => location

/-- The token that should not stand where it does. -/
def found? : SyntaxError → Option Token.Kind
  | .unexpectedToken found _ => some found
  | .mismatchedDelimiter _ found _ => some found
  | .trailingTokens found _ => some found
  | _ => none

/-- What is wrong, without where it is. -/
def summary : SyntaxError → String
  | .unexpectedToken found _ => "unexpected " ++ found.text ++ " at "
  | .unexpectedEnd _ => "unexpected end of input after "
  | .mismatchedDelimiter delimiter found _ =>
    "expected the end of " ++ delimiter.text ++ " but found " ++ found.text ++ " at "
  | .unclosedDelimiter delimiter _ => "unclosed " ++ delimiter.text ++ " opened at "
  | .trailingTokens found _ => "unexpected trailing " ++ found.text ++ " at "
  | .nestingTooDeep limit _ => "expression nests deeper than " ++ limit.repr ++ " levels at "

def message (e : SyntaxError) : String := "invalid syntax: " ++ e.summary ++ e.location.text

/-- Help on a token that stands where an operand has to stand. -/
def helpOnToken? : Token.Kind → Option String
  | .closing delimiter => some ("Did you forget a matching '" ++ delimiter.opening ++ "' earlier?")
  | .operator .multiply => some "This operator needs an operand on both sides"
  | .operator .divide => some "This operator needs an operand on both sides"
  | .operator .power => some "This operator needs an operand on both sides"
  | _ => none

/-- Help for the errors that have an obvious remedy. -/
def help? : SyntaxError → Option String
  | .unexpectedToken found _ => helpOnToken? found
  | .unexpectedEnd _ => some "The expression ends where an operand was expected"
  | .mismatchedDelimiter delimiter _ _ =>
    some ("A group opened with '" ++ delimiter.opening ++ "' must be closed with '" ++
      delimiter.closing ++ "'")
  | .unclosedDelimiter delimiter _ =>
    some ("Add the missing '" ++ delimiter.closing ++ "' at the end")
  | .trailingTokens found _ =>
    match found with
    | .number _ => some "Two operands need an operator between them, e.g. '2 * x'"
    | .letter _ => some "Two operands need an operator between them, e.g. '2 * x'"
    | .opening _ => some "Two operands need an operator between them, e.g. '2 * x'"
    | found => helpOnToken? found
  | .nestingTooDeep _ _ => some "Simplify the expression or raise the nesting limit"

end SyntaxError

end Formula
