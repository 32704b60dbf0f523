import Formula.Numeral.Scaled
import Formula.Text.Lines

/-! JSON values and their indented text.  Numbers are kept as they are written.  A text whose
escapes hold half of a surrogate pair has the form of a string and spells nothing: it is `none`. -/

namespace Formula

/-- A JSON value.  Objects keep the order of their members and may repeat a key. -/
inductive Json where
  | null
  | bool (value : Bool)
  | number (numeral : Numeral)
  | string (text : Option String)
  | array (items : List Json)
  | object (members : List (Option String × Json))

namespace Json

/-- The last hexadecimal digit of a number, in lower case. -/
def hexDigit (n : Nat) : Char := Nat.digitChar (n % 16)

/-- How a character is written inside a string: quotation mark, backslash and control characters are
escaped, and nothing else. -/
def escape (c : Char) : List Char :=
  if c = '"' then ['\\', '"']
  else if c = '\\' then ['\\', '\\']
  else if c = '\x08' then ['\\', 'b']
  else if c = '\x0c' then ['\\', 'f']
  else if c = '\n' then ['\\', 'n']
  else if c = '\r' then ['\\', 'r']
  else if c = '\t' then ['\\', 't']
  else if c.toNat < 0x20 then ['\\', 'u', '0', '0', hexDigit (c.toNat / 16), hexDigit c.toNat]
  else [c]

/-- A text as a string with its quotation marks. -/
def quote (text : String) : String := "\"" ++ String.ofList (text.toList.flatMap escape) ++ "\""

/-- The start of a line at the given level, two spaces a level. -/
def newLine (level : Nat) : String := "\n" ++ Text.spaces (2 * level)

mutual

/-- The indented text of a value whose first line is at `level`, in pieces. -/
def piecesAt (level : Nat) : Json → List String
  | .null => ["null"]
  | .bool value => [if value then "true" else "false"]
  | .number numeral => [numeral.text]
  | .string text => [quote (text.getD "")]
  | .array [] => ["[]"]
  | .array (item :: items) =>
    "[" :: newLine (level + 1) ::
      (piecesAt (level + 1) item ++ (itemPieces (level + 1) items ++ [newLine level, "]"]))
  | .object [] => ["\x7b\x7d"]
  | .object ((key, value) :: members) =>
    "\x7b" :: newLine (level + 1) :: quote (key.getD "") :: ": " ::
      (piecesAt (level + 1) value ++
        (memberPieces (level + 1) members ++ [newLine level, "\x7d"]))

/-- The items of an array after the first one, each after a comma and on a line of its own. -/
def itemPieces (level : Nat) : List Json → List String
  | [] => []
  | item :: items => "," :: newLine level :: (piecesAt level item ++ itemPieces level items)

/-- The members of an object after the first one, each after a comma and on a line of its own. -/
def memberPieces (level : Nat) : List (Option String × Json) → List String
  | [] => []
  | (key, value) :: members =>
    "," :: newLine level :: quote (key.getD "") :: ": " ::
      (piecesAt level value ++ memberPieces level members)

end

/-- The indented text of a value. -/
def pretty (json : Json) : String := String.join (json.piecesAt 0)

/-- Whether a value can be taken in whole: every text spells something, every number is in the
range of doubles, and at most `room` arrays and objects are nested in each other. -/
def isReadable : (room : Nat) → Json → Bool
  | _, .null => true
  | _, .bool _ => true
  | _, .number numeral => numeral.scaled?.isSome
  | _, .string text => text.isSome
  | 0, .array _ => false
  | room + 1, .array items => items.all (isReadable room)
  | 0, .object _ => false
  | room + 1, .object members =>
    members.all fun (key, value) => key.isSome && isReadable room value

end Json

end Formula
