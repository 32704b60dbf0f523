import Formula.Pattern.Form
import Formula.Text.Blank

/-! How far the text of a pattern has been read, and the moves that take it further.  A text is read
from left to right, and the first fault from the left is told. -/

namespace Formula.Pattern

/-- How far a text has been read. -/
structure State where
  /-- How many characters have been read. -/
  place : Nat
  rest : List Char
  /-- Whether blanks and comments in the pattern have no meaning. -/
  spaced : Bool := false
  /-- The names of groups, with their places. -/
  names : List (List Char × Span) := []

abbrev Reader := StateT State (Except Fault)

def peek? : Reader (Option Char) := return (← get).rest.head?

/-- The character after the next one. -/
def second? : Reader (Option Char) := return (← get).rest[1]?

def place : Reader Nat := return (← get).place

def spaced : Reader Bool := return (← get).spaced

/-- The characters from `first` on that have been read. -/
def since (first : Nat) : Reader Span := return ⟨first, ← place⟩

/-- Moves on by at most `n` characters. -/
def move (n : Nat) : Reader Unit :=
  modify fun s => { s with place := s.place + (s.rest.take n).length, rest := s.rest.drop n }

def refuse {α : Type} (first past : Nat) (reason : Reason) : Reader α :=
  throw ⟨[⟨first, past⟩], reason⟩

/-- Refuses the place that has been reached. -/
def refuseHere {α : Type} (reason : Reason) : Reader α := do refuse (← place) (← place) reason

/-- Refuses the next character. -/
def refuseNext {α : Type} (reason : Reason) : Reader α := do refuse (← place) ((← place) + 1) reason

/-- The number of characters without meaning at the start of a spaced pattern. -/
def spaceLength (comment : Bool) : List Char → Nat
  | [] => 0
  | c :: rest =>
    if comment then 1 + spaceLength (c ≠ '\n') rest
    else if c = '#' then 1 + spaceLength true rest
    else if Text.isBlank c then 1 + spaceLength false rest
    else 0

def skipSpace : Reader Unit := do
  if ← spaced then move (spaceLength false (← get).rest)

/-- Moves past the next character and what has no meaning after it, and tells whether more
follows. -/
def advance : Reader Bool := do
  move 1
  skipSpace
  return (← peek?).isSome

/-- Moves past the first of some words that comes next, if one does. -/
def accept (words : List String) : Reader Bool := do
  let rest := (← get).rest
  match words.find? (·.toList.isPrefixOf rest) with
  | some word =>
    move word.length
    return true
  | none => return false

end Formula.Pattern
