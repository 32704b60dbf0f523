import Formula.Diagnostic
import Formula.Grammar.Parser

/-! From source text to trees.  All of the text is read as tokens first, so a character that starts
no token is reported even when the tokens before it are no expression. -/

namespace Formula

/-- Why a source text is no expression. -/
inductive SourceError where
  | lexical (error : LexicalError)
  | grammatical (error : SyntaxError)
deriving DecidableEq

namespace SourceError

def message : SourceError → String
  | .lexical error => error.message
  | .grammatical error => error.message

def diagnostic : SourceError → Diagnostic
  | .lexical error => error.diagnostic
  | .grammatical error => error.diagnostic

end SourceError

namespace Source

/-- The tree of a source text, none if it has no tokens, and what was done to find it. -/
def run (settings : Settings) (bindings : Bindings) (source : String) :
    Except SourceError (Option Tree) × List Event :=
  match Lexer.untilError (Lexer.items source) with
  | (tokens, some error) => (.error (.lexical error), tokens.map .lexed ++ [.noToken error])
  | (tokens, none) =>
    let outcome := Grammar.run settings bindings tokens
    (outcome.result.mapError .grammatical, tokens.map .lexed ++ outcome.events)

/-- The tree of a source text, none if it has no tokens. -/
def parse (settings : Settings) (bindings : Bindings) (source : String) :
    Except SourceError (Option Tree) :=
  (run settings bindings source).1

theorem parse_of_untilError (settings : Settings) (bindings : Bindings) {source : String}
    {tokens : List Token} (h : Lexer.untilError (Lexer.items source) = (tokens, none)) :
    parse settings bindings source =
      (Grammar.parse settings bindings tokens).mapError .grammatical := by
  rw [parse, run, h, Grammar.parse]

theorem parse_eq_ok_of_untilError {settings : Settings} {bindings : Bindings} {source : String}
    {tokens : List Token} {t : Option Tree}
    (h : Lexer.untilError (Lexer.items source) = (tokens, none)) :
    parse settings bindings source = .ok t ↔ Grammar.parse settings bindings tokens = .ok t := by
  rw [parse_of_untilError settings bindings h]
  cases Grammar.parse settings bindings tokens with
  | error e =>
    show (Except.error (.grammatical e) : Except SourceError (Option Tree)) = .ok t ↔ _
    simp
  | ok tree =>
    show (Except.ok tree : Except SourceError (Option Tree)) = .ok t ↔ _
    simp

theorem parse_eq_error_of_untilError {settings : Settings} {bindings : Bindings} {source : String}
    {tokens : List Token} {e : SourceError}
    (h : Lexer.untilError (Lexer.items source) = (tokens, none)) :
    parse settings bindings source = .error e ↔
      ∃ e', Grammar.parse settings bindings tokens = .error e' ∧ .grammatical e' = e := by
  rw [parse_of_untilError settings bindings h]
  cases Grammar.parse settings bindings tokens with
  | error e' =>
    show (Except.error (.grammatical e') : Except SourceError (Option Tree)) = .error e ↔ _
    simp
  | ok tree =>
    show (Except.ok tree : Except SourceError (Option Tree)) = .error e ↔ _
    simp

theorem parse_of_untilError_error (settings : Settings) (bindings : Bindings) {source : String}
    {tokens : List Token} {e : LexicalError}
    (h : Lexer.untilError (Lexer.items source) = (tokens, some e)) :
    parse settings bindings source = .error (.lexical e) := by
  rw [parse, run, h]

end Source

end Formula
