import Formula.Token

/-! A cursor over tokens: what has been taken, the last token first, and what is left. -/

namespace Formula

/-- A place between two tokens of a list. -/
structure Cursor where
  /-- The tokens before it, the last one first. -/
  taken : List Token
  /-- The tokens after it. -/
  rest : List Token
deriving DecidableEq

namespace Cursor

/-- The cursor before the first token. -/
def ofList (tokens : List Token) : Cursor := ⟨[], tokens⟩

/-- The number of tokens taken. -/
def position (c : Cursor) : Nat := c.taken.length

/-- The kind of the next token. -/
def next? (c : Cursor) : Option Token.Kind := c.rest.head?.map (·.kind)

/-- The next token and the cursor after it. -/
def advance? (c : Cursor) : Option (Token × Cursor) :=
  match c.rest with
  | [] => none
  | token :: rest => some (token, ⟨token :: c.taken, rest⟩)

/-- The location to report here: that of the next token, else that of the last one taken. -/
def location (c : Cursor) : Location :=
  match c.rest, c.taken with
  | token :: _, _ => token.location
  | [], token :: _ => token.location
  | [], [] => {}

/-- The number of tokens taken or in view, of which there is one at a time. -/
def seen (c : Cursor) : Nat := c.position + min 1 c.rest.length

end Cursor

end Formula
