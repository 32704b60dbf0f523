import Formula.Token

/-! From source text to tokens.  At every place the longest lexeme wins; a character that starts no
token is an error of its own, after which reading goes on.  `items` is the whole reading, tokens and
errors in order, and `tokenize` stops at the first error. -/

namespace Formula

/-- A character that starts no token. -/
structure LexicalError where
  character : Char
  location : Location
deriving DecidableEq

namespace LexicalError

/-- The offending text. -/
def lexeme (e : LexicalError) : String := e.character.toString

def message (e : LexicalError) : String :=
  "unexpected character '" ++ e.lexeme ++ "' at " ++ e.location.text

end LexicalError

namespace Lexer

/-- What may separate tokens: space, tab, carriage return, line feed and form feed. -/
def isSeparator (c : Char) : Bool :=
  c = ' ' || c = '\t' || c = '\r' || c = '\n' || c = '\x0c'

/-- The fixed symbol at the start of a text, if there is one. -/
def fixed? (cs : List Char) : Option Token.Kind :=
  Token.Kind.fixed.find? (·.symbol.toList.isPrefixOf cs)

theorem symbol_ne_nil : ∀ kind ∈ Token.Kind.fixed, kind.symbol.toList ≠ [] := by decide +kernel

/-- A fixed symbol that is found stands at the start of the text. -/
theorem fixed?_eq_some {cs : List Char} {kind : Token.Kind} (h : fixed? cs = some kind) :
    kind ∈ Token.Kind.fixed ∧ kind.symbol.toList <+: cs := by
  unfold fixed? at h
  have hp := List.find?_some h
  exact ⟨List.mem_of_find?_eq_some h, List.isPrefixOf_iff_prefix.mp hp⟩

/-- The longest lexeme at the start of a text, with its kind.  A number, a letter and an operator
start with different characters, and a function name is longer than the letter it starts with, so
no two rules offer different lexemes of one length. -/
def longest? (cs : List Char) : Option (Token.Kind × List Char) :=
  match Numeral.scan? cs with
  | some part => some (.number part.value.value, part.lexeme)
  | none =>
    match fixed? cs with
    | some kind => some (kind, kind.symbol.toList)
    | none =>
      match cs with
      | c :: _ => if c.isAlpha then some (.letter c.toString, [c]) else none
      | [] => none

/-- The longest lexeme stands at the start of the text and has at least one character. -/
theorem longest?_eq_some {cs lexeme : List Char} {kind : Token.Kind}
    (h : longest? cs = some (kind, lexeme)) : lexeme ≠ [] ∧ lexeme <+: cs := by
  unfold longest? at h
  split at h
  · next part hp =>
    cases h
    exact ⟨Numeral.scan?_lexeme_ne_nil hp, part.rest, Numeral.scan?_append hp⟩
  · split at h
    · next hk =>
      cases h
      obtain ⟨hmem, hstart⟩ := fixed?_eq_some hk
      exact ⟨symbol_ne_nil _ hmem, hstart⟩
    · split at h
      · split at h
        · cases h
          exact ⟨by simp, _, rfl⟩
        · contradiction
      · contradiction

/-- A token, or a character that starts none. -/
abbrev Item := Except LexicalError Token

/-- The items of a text that starts at `here`, of which the first `skip` characters belong to an
item already given. -/
def itemsFrom (skip : Nat) (here : Location) : List Char → List Item
  | [] => []
  | c :: rest =>
    match skip with
    | more + 1 => itemsFrom more (here.after c rest) rest
    | 0 =>
      if isSeparator c then itemsFrom 0 (here.after c rest) rest
      else
        match longest? (c :: rest) with
        | some (kind, lexeme) =>
          .ok ⟨kind, String.ofList lexeme, here⟩ ::
            itemsFrom (lexeme.length - 1) (here.after c rest) rest
        | none => .error ⟨c, here⟩ :: itemsFrom 0 (here.after c rest) rest

/-- All items of a source text. -/
def items (source : String) : List Item := itemsFrom 0 .start source.toList

/-- The tokens before the first error, and that error if there is one. -/
def untilError : List Item → List Token × Option LexicalError
  | [] => ([], none)
  | .ok token :: rest => let (tokens, error) := untilError rest; (token :: tokens, error)
  | .error error :: _ => ([], some error)

/-- The tokens of a source text, or its first error. -/
def tokenize (source : String) : Except LexicalError (List Token) :=
  match untilError (items source) with
  | (tokens, none) => .ok tokens
  | (_, some error) => .error error

end Lexer

end Formula
