import Formula.Grammar.Settings
import Formula.Token.Lexer
import Formula.Tree.Render

/-! What the log tells about a run, and at which level. -/

namespace Formula

/-- How much a log entry matters; a later level matters less. -/
inductive Level where
  | error
  | warn
  | info
  | debug
  | trace
deriving DecidableEq

namespace Level

def all : List Level := [.error, .warn, .info, .debug, .trace]

def name : Level → String
  | .error => "ERROR"
  | .warn => "WARN"
  | .info => "INFO"
  | .debug => "DEBUG"
  | .trace => "TRACE"

/-- The place of a level among all of them, the most important one being first. -/
def rank : Level → Nat
  | .error => 1
  | .warn => 2
  | .info => 3
  | .debug => 4
  | .trace => 5

end Level

/-- Something that a run does and the log can tell. -/
inductive Event where
  | lexed (token : Token)
  | noToken (error : LexicalError)
  | nothingToParse
  | parsing (bindings : Nat) (settings : Settings)
  | expression (location : Location)
  | factor (kind : Token.Kind) (location : Location)
  | substituted (name : String) (value : Double)
  | parsed (tokens : Nat) (tree : Tree)
  | emptyInput
  | unboundLetters (names : List String)
deriving DecidableEq

namespace Event

def level : Event → Level
  | .lexed _ => .trace
  | .noToken _ => .debug
  | .nothingToParse => .debug
  | .parsing _ _ => .debug
  | .expression _ => .trace
  | .factor _ _ => .trace
  | .substituted _ _ => .debug
  | .parsed _ _ => .debug
  | .emptyInput => .info
  | .unboundLetters _ => .info

/-- The part of the program that an entry names as its origin. -/
def target : Event → String
  | .lexed _ => "mathex_lexer::lexer"
  | .noToken _ => "mathex_lexer::lexer"
  | .nothingToParse => "mathex_parser::parser"
  | .parsing _ _ => "mathex_parser::parser"
  | .expression _ => "mathex_parser::parser::expressions"
  | .factor _ _ => "mathex_parser::parser::factor"
  | .substituted _ _ => "mathex_parser::parser::factor"
  | .parsed _ _ => "mathex_parser::parser"
  | .emptyInput => "mathex"
  | .unboundLetters _ => "mathex"

def message : Event → String
  | .lexed token =>
    "lexed " ++ token.kind.text ++ " '" ++ token.lexeme ++ "' at " ++ token.location.text
  | .noToken error => "no token matches '" ++ error.lexeme ++ "' at " ++ error.location.text
  | .nothingToParse => "empty token sequence, nothing to parse"
  | .parsing bindings settings =>
    "parsing expression with " ++ bindings.repr ++ " binding(s), " ++ settings.text
  | .expression location => "expression at " ++ location.text
  | .factor kind location => "factor " ++ kind.text ++ " at " ++ location.text
  | .substituted name value => "substituting " ++ name ++ " = " ++ value.text
  | .parsed tokens tree => "parsed " ++ tokens.repr ++ " token(s) into " ++ tree.render
  | .emptyInput => "empty input"
  | .unboundLetters names => "unbound letters: " ++ ", ".intercalate names

end Event

end Formula
