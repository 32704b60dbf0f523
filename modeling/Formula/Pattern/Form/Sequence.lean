import Formula.Pattern.Form.Bracket
import Formula.Pattern.Form.Group

/-! The forms of whole patterns: sequences of parts that may be repeated, alternatives of sequences,
and groups of alternatives. -/

namespace Formula.Pattern

/-- Reads the digits of a number; `bound` is not below their number. -/
def countDigits : (bound : Nat) → (digits : List Char) → Reader (List Char)
  | 0, digits => return digits
  | bound + 1, digits => do
    match ← peek? with
    | none => return digits
    | some c =>
      if c.isDigit then
        let _ ← advance
        countDigits bound (digits ++ [c])
      else return digits

/-- Reads a number of repetitions, or what is wrong with it. -/
def repetitions : Reader (Except Fault Nat) := do
  move ((← get).rest.takeWhile Text.isBlank).length
  let start ← place
  let digits ← countDigits (← get).rest.length []
  let span ← since start
  move ((← get).rest.takeWhile Text.isBlank).length
  if digits.isEmpty then return .error ⟨[span], .repetitionCountEmpty⟩
  let n := Nat.ofDigitChars 10 digits 0
  return if 0xffffffff < n then .error ⟨[span], .decimalInvalid⟩ else .ok n

/-- Passes over the mark that asks for as few repetitions as possible, which makes no difference to
whether a pattern occurs. -/
def lazyMark : Reader Unit := do
  if (← peek?) = some '?' then move 1

/-- Reads repetitions in braces and gives the least and the largest number of them. -/
def counted : Reader (Nat × Option Nat) := do
  let start ← place
  let unclosed {α : Type} : Reader α := do refuse start (← place) .repetitionCountUnclosed
  if !(← advance) then unclosed
  let least ← repetitions
  let next ← peek?
  if next.isNone then unclosed
  let bounds : Nat × Option Nat ←
    if next = some ',' then
      if !(← advance) then unclosed
      let least ← least
      if (← peek?) = some '\x7d' then pure (least, none)
      else
        let most ← repetitions
        pure (least, some (← most))
    else do
      let n ← least
      pure (n, some n)
  if (← peek?) ≠ some '\x7d' then unclosed
  let _ ← advance
  lazyMark
  if bounds.2.any (· < bounds.1) then refuse start (← place) .repetitionCountInvalid
  return bounds

/-- The numbers of repetitions that a character asks for. -/
def repetition? (c : Char) : Option (Nat × Option Nat) :=
  if c = '?' then some (0, some 1)
  else if c = '*' then some (0, none)
  else if c = '+' then some (1, none)
  else none

/-- Alternatives that are being read. -/
structure Draft where
  /-- The place where the first alternative starts. -/
  first : Nat
  /-- The place where the last alternative starts. -/
  start : Nat
  /-- The alternatives before the last one, the last of them first. -/
  branches : List Form := []
  /-- The parts of the last alternative, the last of them first. -/
  parts : List Form := []

namespace Draft

def add (d : Draft) (part : Form) : Draft := { d with parts := part :: d.parts }

/-- The last alternative, which ends at `past`. -/
def branch (d : Draft) (past : Nat) : Form := .inSequence ⟨d.start, past⟩ d.parts.reverse

/-- Starts another alternative after a bar at `bar`. -/
def bar (d : Draft) (bar : Nat) : Draft :=
  { d with start := bar + 1, branches := d.branch bar :: d.branches, parts := [] }

/-- All that has been read, up to `past`. -/
def form (d : Draft) (past : Nat) : Form :=
  .inAlternation ⟨d.first, past⟩ (d.branch past :: d.branches).reverse

/-- Takes the part that an operator repeats off the others. -/
def repeated (d : Draft) : Reader (Form × Draft) :=
  match d.parts with
  | part :: parts => if part.repeatable then return (part, { d with parts })
    else refuseHere .repetitionMissing
  | [] => refuseHere .repetitionMissing

/-- Adds repetitions of a part, which have been read. -/
def addRepeated (d : Draft) (part : Form) (bounds : Nat × Option Nat) : Reader Draft := do
  return d.add (.rep (← since part.span.first) bounds.1 bounds.2 part)

end Draft

/-- Reads alternatives up to the end of the group that starts at `opening`, or of the pattern.
Every round takes a character, so `bound` need not be above their number. -/
def alternatives (opening : Option Nat) : (bound : Nat) → Draft → Reader Form
  | 0, d => return d.form (← place)
  | bound + 1, d => do
    skipSpace
    match ← peek? with
    | none =>
      match opening with
      | some start => refuse start (start + 1) .groupUnclosed
      | none => return d.form (← place)
    | some ')' =>
      if opening.isNone then refuseNext .groupUnopened
      let past ← place
      move 1
      return d.form past
    | some '|' =>
      let here ← place
      move 1
      alternatives opening bound (d.bar here)
    | some '(' =>
      let start ← place
      let outer ← spaced
      match ← openGroup with
      | .modes letters => alternatives opening bound (d.add (.modes (← since start) letters))
      | .group kept letters =>
        let inner ← place
        let form ← alternatives (some start) bound { first := inner, start := inner }
        modify fun s => { s with spaced := outer }
        alternatives opening bound (d.add (.group (← since start) kept letters form))
    | some '[' =>
      let inner ← openSet
      let set ← bracketed (← get).rest.length inner
      alternatives opening bound (d.add (.set set))
    | some '\x7b' =>
      let (part, d) ← d.repeated
      let bounds ← counted
      alternatives opening bound (← d.addRepeated part bounds)
    | some c =>
      match repetition? c with
      | some bounds =>
        let (part, d) ← d.repeated
        move 1
        lazyMark
        alternatives opening bound (← d.addRepeated part bounds)
      | none =>
        let form ← primitive c
        alternatives opening bound (d.add form)

/-- The form of a whole text. -/
def Form.read (cs : List Char) : Except Fault Form :=
  (alternatives none (cs.length + 1) { first := 0, start := 0 }).run' { place := 0, rest := cs }

end Formula.Pattern
