import Formula.Grammar.Error
import Formula.Text.Lines
import Formula.Token.Lexer

/-! Problems as they are shown: a message, the line it is about with a mark under the column, and
help. -/

namespace Formula

/-- A problem at a place of a source text. -/
structure Diagnostic where
  location : Location
  message : String
  help : Option String := none
deriving DecidableEq

namespace Diagnostic

/-- The line that the location names, with a mark under the column.  A line that the text does not
have is not shown. -/
def excerpt (d : Diagnostic) (source : String) : String :=
  match d.location.line with
  | 0 => ""
  | line + 1 =>
    match (Text.lines source.toList).drop line with
    | [] => ""
    | text :: _ =>
      let number := d.location.line.repr
      let gutter := Text.spaces number.length
      "\n" ++ gutter ++ " --> " ++ d.location.text ++
        "\n" ++ gutter ++ " |" ++
        "\n" ++ number ++ " | " ++ String.ofList text ++
        "\n" ++ gutter ++ " | " ++ Text.spaces (d.location.column - 1) ++ "^"

/-- The whole report about a problem in a source text. -/
def render (d : Diagnostic) (source : String) : String :=
  "error: " ++ d.message ++ d.excerpt source ++
    match d.help with
    | some help => "\n  = help: " ++ help
    | none => ""

end Diagnostic

/-- A character that starts no token, with help on what does. -/
def LexicalError.diagnostic (e : LexicalError) : Diagnostic where
  location := e.location
  message := e.message
  help := some ("Expressions use numbers, letters, + - * / ^, parentheses, brackets " ++
    "and the functions sin, cos, exp and sqrt")

/-- An error of the grammar with its help. -/
def SyntaxError.diagnostic (e : SyntaxError) : Diagnostic where
  location := e.location
  message := e.message
  help := e.help?

end Formula
