/-! Texts for a terminal, and what is left of them elsewhere.  A terminal takes sequences that start
with the escape character as orders, for colours among other things; a file gets the text without
the orders and without control characters other than white space. -/

namespace Formula.Text

/-- The escape character. -/
def escapeCharacter : Char := '\x1b'

/-- A text in a colour that makes it stand out. -/
def marked (text : String) : String := "\x1b[33m" ++ text ++ "\x1b[0m"

/-- How far an order has been read. -/
inductive Order where
  /-- The escape character alone. -/
  | escape
  /-- The escape character and marks that belong to the character after them. -/
  | designation
  /-- The parameters of a control sequence. -/
  | parameters
  /-- The start of a device control string. -/
  | deviceStart
  /-- The parameters of a device control string. -/
  | deviceParameters
  /-- The marks of a device control string, which stand after its parameters. -/
  | deviceMarks
  /-- A string that goes on until it is ended from outside. -/
  | string
  /-- A string for the window system, which the bell ends. -/
  | windowString
deriving DecidableEq

namespace Order

/-- Whether white space inside an order is shown. -/
def showsSpace : Order → Bool
  | .escape => true
  | .designation => true
  | .parameters => true
  | _ => false

/-- How an order goes on after the escape character; none if it is complete. -/
def afterEscape (c : Char) : Option Order :=
  if c < '\x20' || '\x7e' < c then some .escape
  else if c ≤ '/' then some .designation
  else if c = '[' then some .parameters
  else if c = ']' then some .windowString
  else if c = 'P' then some .deviceStart
  else if c = 'X' || c = '^' || c = '_' then some .string
  else none

/-- How a device control string goes on that is at `state`.  A parameter that is out of place, as
`misplaced` tells, makes the rest of the string have no meaning, which it is read without. -/
def afterDevice (state : Order) (misplaced : Char → Bool) (c : Char) : Order :=
  if c < '\x20' || '\x7e' < c then state
  else if c ≤ '/' then .deviceMarks
  else if '@' ≤ c || misplaced c then .string
  else .deviceParameters

/-- How an order goes on with a character; none if it is complete.  A string also ends within a
character whose encoding holds the byte that once stood for its end. -/
def next? (order : Order) (c : Char) : Option Order :=
  match order with
  | .escape => afterEscape c
  | .designation => if '0' ≤ c && c ≤ '\x7e' then none else some .designation
  | .parameters => if '@' ≤ c && c ≤ '\x7e' then none else some .parameters
  | .deviceStart => some (afterDevice .deviceStart (fun _ => false) c)
  | .deviceParameters => some (afterDevice .deviceParameters (fun c => '<' ≤ c) c)
  | .deviceMarks => some (afterDevice .deviceMarks (fun _ => true) c)
  | .string => if (String.utf8EncodeChar c).contains 0x9c then none else some .string
  | .windowString => if c = '\x07' then none else some .windowString

end Order

/-- Where the reading of a text for a terminal stands. -/
inductive Reading where
  /-- In text that is shown.  White space inside an order lets text through; the order then goes on
  after the next control character, unless a character beyond ASCII comes first. -/
  | shown (interrupted : Option Order)
  /-- Inside an order. -/
  | inside (order : Order)

/-- Control characters that are white space. -/
def isControlSpace (c : Char) : Bool := c = '\t' || c = '\n' || c = '\x0c' || c = '\r'

/-- Whether a character is shown outside of orders. -/
def isShown (c : Char) : Bool := '\x20' ≤ c && c ≠ '\x7f' || isControlSpace c

namespace Reading

/-- Where an order stands; after the last character of an order text is shown. -/
def ofOrder : Option Order → Reading
  | none => .shown none
  | some order => .inside order

/-- Reads a character.  The escape character starts an order anywhere, and two control characters
end one anywhere. -/
def next (reading : Reading) (c : Char) : Reading :=
  if c = escapeCharacter then .inside .escape
  else if c = '\x18' || c = '\x1a' then .shown none
  else
    match reading with
    | .shown interrupted =>
      if isShown c then .shown (if c ≤ '\x7f' then interrupted else none) else ofOrder interrupted
    | .inside order =>
      if isControlSpace c && order.showsSpace then .shown (some order) else ofOrder (order.next? c)

/-- Whether a character is shown. -/
def shows (reading : Reading) (c : Char) : Bool :=
  match reading with
  | .shown _ => isShown c
  | .inside order => isControlSpace c && order.showsSpace

end Reading

/-- The characters of a text that are shown. -/
def plainFrom (reading : Reading) : List Char → List Char
  | [] => []
  | c :: rest =>
    if reading.shows c then c :: plainFrom (reading.next c) rest
    else plainFrom (reading.next c) rest

/-- A text without orders and control characters. -/
def plain (text : String) : String := String.ofList (plainFrom (.shown none) text.toList)

end Formula.Text
