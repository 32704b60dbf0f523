/-! Places in a source text.  A line feed, a carriage return and the pair of both each end one line;
columns count characters and offsets count bytes of UTF-8. -/

namespace Formula

/-- A place in a source text: line and column counted from one, and the byte offset from zero.
Tokens that come from no text are at line zero and column zero, which is the default. -/
structure Location where
  line : Nat := 0
  column : Nat := 0
  offset : Nat := 0
deriving DecidableEq

namespace Location

/-- The start of a text. -/
def start : Location := ⟨1, 1, 0⟩

/-- The place after the character `c`, when `rest` follows it.  A carriage return that a line feed
follows leaves it to the line feed to end the line. -/
def after (here : Location) (c : Char) (rest : List Char) : Location :=
  if c = '\n' || c = '\r' && rest.head? ≠ some '\n' then
    ⟨here.line + 1, 1, here.offset + c.utf8Size⟩
  else if c = '\r' then ⟨here.line, here.column, here.offset + c.utf8Size⟩
  else ⟨here.line, here.column + 1, here.offset + c.utf8Size⟩

/-- A location in messages: line and column. -/
def text (here : Location) : String := here.line.repr ++ ":" ++ here.column.repr

end Location

end Formula
