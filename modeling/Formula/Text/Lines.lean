/-! Texts as lines. -/

namespace Formula.Text

/-- A line without the carriage return that stood before its line feed. -/
def dropReturn (line : List Char) : List Char :=
  if line.getLast? = some '\r' then line.dropLast else line

/-- The lines of a text.  A line feed ends a line and takes a carriage return right before it with
it; a text that ends with a line feed has no further line, and a carriage return elsewhere ends
none.  `line` holds the characters of the first line already read, the last one first. -/
def linesFrom (line : List Char) : List Char → List (List Char)
  | [] => if line.isEmpty then [] else [line.reverse]
  | c :: rest =>
    if c = '\n' then dropReturn line.reverse :: linesFrom [] rest else linesFrom (c :: line) rest

/-- The lines of a whole text. -/
def lines (cs : List Char) : List (List Char) := linesFrom [] cs

/-- The given number of spaces. -/
def spaces (n : Nat) : String := String.ofList (List.replicate n ' ')

end Formula.Text
