import Formula.Pattern.Form.Escape

/-! Sets of characters in brackets: characters, ranges, classes and other sets in brackets, joined
by operators that take all that stands before them as one set. -/

namespace Formula.Pattern

/-- The operator that two characters write. -/
def setOperator? (c : Char) (second : Option Char) : Option SetOperator :=
  if second ≠ some c then none
  else if c = '&' then some .inter
  else if c = '-' then some .diff
  else if c = '~' then some .symmDiff
  else none

/-- The classes of ASCII characters by their names. -/
def namedClasses : List (String × CharSet) :=
  [("alnum", .ofRanges [('0', '9'), ('A', 'Z'), ('a', 'z')]),
    ("alpha", .ofRanges [('A', 'Z'), ('a', 'z')]),
    ("ascii", .range '\x00' '\x7f'),
    ("blank", .ofRanges [('\t', '\t'), (' ', ' ')]),
    ("cntrl", .ofRanges [('\x00', '\x1f'), ('\x7f', '\x7f')]),
    ("digit", .range '0' '9'),
    ("graph", .range '!' '~'),
    ("lower", .range 'a' 'z'),
    ("print", .range ' ' '~'),
    ("punct", .ofRanges [('!', '/'), (':', '@'), ('[', '\x60'), ('\x7b', '~')]),
    ("space", .ofRanges [('\t', '\r'), (' ', ' ')]),
    ("upper", .range 'A' 'Z'),
    ("word", wordSet),
    ("xdigit", .ofRanges [('0', '9'), ('A', 'F'), ('a', 'f')])]

/-- Reads the name of a class between `[:` and `:]`, if there is one; a circumflex before the name
stands for all other characters. -/
def namedClass? : Reader (Option SetForm) := do
  match (← get).rest with
  | '[' :: ':' :: rest =>
    let negated := rest.head? = some '^'
    let rest := if negated then rest.drop 1 else rest
    let name := rest.takeWhile (· ≠ ':')
    match namedClasses.lookup (String.ofList name), rest.drop name.length with
    | some set, ':' :: ']' :: _ =>
      let start ← place
      move (name.length + if negated then 5 else 4)
      return some (.named (← since start) negated set)
    | _, _ => return none
  | _ => return none

/-- A set in brackets that is being read. -/
structure OpenSet where
  opening : Span
  negated : Bool
  /-- The place after the start or the last operator. -/
  place : Nat
  /-- The set before the last operator, and that operator. -/
  left : Option (SetForm × SetOperator) := none
  /-- The sets since then, the last one first. -/
  items : List SetForm := []

namespace OpenSet

def add (o : OpenSet) (set : SetForm) : OpenSet := { o with items := set :: o.items }

/-- All that has been read as one set. -/
def value (o : OpenSet) : SetForm :=
  let right := SetForm.join o.place o.items.reverse
  match o.left with
  | none => right
  | some (left, op) => .operation ⟨left.span.first, right.span.past⟩ op left right

end OpenSet

/-- Reads the dashes that stand first in brackets. -/
def leadingDashes : (bound : Nat) → OpenSet → Reader OpenSet
  | 0, o => return o
  | bound + 1, o => do
    if (← peek?) = some '-' then
      let dash := SetForm.single { span := ⟨← place, (← place) + 1⟩, char := '-' }
      if !(← advance) then refuse o.opening.first o.opening.first .classUnclosed
      leadingDashes bound (o.add dash)
    else return o

/-- Reads the start of a set in brackets, where a closing bracket and dashes stand for
themselves. -/
def openSet : Reader OpenSet := do
  let start ← place
  if !(← advance) then refuse start (← place) .classUnclosed
  let negated := (← peek?) = some '^'
  if negated then
    if !(← advance) then refuse start (← place) .classUnclosed
  let o ← leadingDashes (← get).rest.length
    { opening := ⟨start, start⟩, negated, place := ← place }
  let o ←
    if o.items.isEmpty && (← peek?) = some ']' then
      let bracket := SetForm.single { span := ⟨← place, (← place) + 1⟩, char := ']' }
      if !(← advance) then refuse start (← place) .classUnclosed
      pure (o.add bracket)
    else pure o
  return { o with opening := ← since start }

/-- Reads a character or an escape in brackets. -/
def setPrimitive : Reader Form := do
  match ← peek? with
  | some '\\' => escape
  | some c =>
    let start ← place
    move 1
    return .letter { span := ← since start, char := c }
  | none => refuseHere .classUnclosed

/-- The character that decides whether a dash before it makes a range.  In a spaced pattern it is
the first one that is neither a blank nor the mark of a comment. -/
def afterDash? (spaced : Bool) (rest : List Char) : Option Char :=
  if spaced then
    match Text.trimStart rest with
    | '#' :: rest => (Text.trimStart rest).head?
    | rest => rest.head?
  else rest.head?

/-- Reads one item of a set: a character, a range of them, or a class. -/
def setItem (opening : Span) : Reader SetForm := do
  let unclosed := refuse opening.first opening.past .classUnclosed
  let first ← setPrimitive
  skipSpace
  let next ← peek?
  if next.isNone then unclosed
  let after := afterDash? (← spaced) ((← get).rest.drop 1)
  if next ≠ some '-' || after = some ']' || after = some '-' then
    match first with
    | .letter letter => return .single letter
    | .set set => return set
    | _ => refuse first.span.first first.span.past .classEscapeInvalid
  else
    if !(← advance) then unclosed
    let last ← setPrimitive
    match first, last with
    | .letter a, .letter b =>
      if b.char < a.char then refuse a.span.first b.span.past .classRangeInvalid
      return .range a b
    | .letter _, _ => refuse last.span.first last.span.past .classRangeLiteral
    | _, _ => refuse first.span.first first.span.past .classRangeLiteral

/-- Reads a set in brackets after its start.  Every round takes a character, so `bound` need not be
above their number. -/
def bracketed : (bound : Nat) → OpenSet → Reader SetForm
  | 0, o => refuse o.opening.first o.opening.past .classUnclosed
  | bound + 1, o => do
    skipSpace
    match ← peek? with
    | none => refuse o.opening.first o.opening.past .classUnclosed
    | some ']' =>
      move 1
      return .brackets (← since o.opening.first) o.negated o.value
    | some '[' =>
      match ← namedClass? with
      | some set => bracketed bound (o.add set)
      | none =>
        let inner ← openSet
        let set ← bracketed bound inner
        bracketed bound (o.add set)
    | some c =>
      match setOperator? c (← second?) with
      | some op =>
        move 2
        bracketed bound { o with place := ← place, left := some (o.value, op), items := [] }
      | none =>
        let set ← setItem o.opening
        bracketed bound (o.add set)

end Formula.Pattern
