import Formula.Json.Reader
import Formula.Pattern.Form.Reader

/-! The least parts of a pattern: characters, and what a backslash makes of the one after it. -/

namespace Formula.Pattern

/-- The characters that have a meaning of their own. -/
def isMeta (c : Char) : Bool := "\\.+*?()|[]\x7b\x7d^$#&-~".toList.contains c

/-- The characters that a backslash may stand before to no effect. -/
def isEscapable (c : Char) : Bool :=
  isMeta c || c ≤ '\x7f' && !c.isAlphanum && c ≠ '<' && c ≠ '>'

/-- Reads hexadecimal digits in braces; `bound` is not below their number. -/
def bracedDigits (opening : Nat) : (bound : Nat) → (digits : List Char) → Reader (List Char)
  | 0, digits => return digits
  | bound + 1, digits => do
    let _ ← advance
    match ← peek? with
    | none => refuse opening (← place) .escapeUnexpectedEnd
    | some '\x7d' => return digits
    | some c =>
      if (Json.hexValue? c).isNone then refuseNext .escapeHexInvalidDigit
      else bracedDigits opening bound (digits ++ [c])

/-- Reads as many hexadecimal digits as are left to read. -/
def countedDigits : (left : Nat) → (digits : List Char) → Reader (List Char)
  | 0, digits => return digits
  | left + 1, digits => do
    match ← peek? with
    | none => refuseHere .escapeUnexpectedEnd
    | some c =>
      if (Json.hexValue? c).isNone then refuseNext .escapeHexInvalidDigit
      else
        let _ ← advance
        countedDigits left (digits ++ [c])

/-- The character that hexadecimal digits number. -/
def numbered? (digits : List Char) : Option Char :=
  let n := digits.foldl (fun n c => 16 * n + (Json.hexValue? c).getD 0) 0
  if n < 0xd800 || 0xdfff < n && n < 0x110000 then some (Char.ofNat n) else none

/-- Reads a number of a character after its mark; `start` is the place of the backslash. -/
def hexadecimal (start size : Nat) : Reader Form := do
  if !(← advance) then refuseHere .escapeUnexpectedEnd
  let opening ← place
  if (← peek?) = some '\x7b' then
    let digits ← bracedDigits opening (← get).rest.length []
    let past ← place
    let _ ← advance
    if digits.isEmpty then refuse opening (← place) .escapeHexEmpty
    match numbered? digits with
    | some c => return .letter { span := ← since start, char := c }
    | none => refuse (opening + 1) past .escapeHexInvalid
  else
    let digits ← countedDigits size []
    match numbered? digits with
    | some c => return .letter { span := ← since start, char := c, asByte := size = 2 }
    | none => refuse opening (← place) .escapeHexInvalid

/-- Reads the name of a property in braces; `bound` is not below its length. -/
def bracedName : (bound : Nat) → (name : List Char) → Reader (List Char)
  | 0, name => return name
  | bound + 1, name => do
    let _ ← advance
    match ← peek? with
    | none => refuseHere .escapeUnexpectedEnd
    | some '\x7d' =>
      move 1
      return name
    | some c => bracedName bound (name ++ [c])

/-- Reads a property after its mark. -/
def property (start : Nat) : Reader Form := do
  if !(← advance) then refuseHere .escapeUnexpectedEnd
  let name ←
    match ← peek? with
    | some '\x7b' => bracedName (← get).rest.length []
    | some '\\' => refuseNext .propertyInvalid
    | c =>
      let _ ← advance
      pure c.toList
  return .set (.property (← since start) name)

/-- The characters of the names of edges. -/
def isEdgeChar (c : Char) : Bool := c = '-' || c.isAlpha

/-- The edges of words by their names. -/
def namedEdges : List (String × Edge) :=
  [("start", .start), ("end", .stop), ("start-half", .clearBefore), ("end-half", .clearAfter)]

/-- Reads the name of an edge; `bound` is not below its length. -/
def edgeName : (bound : Nat) → (name : List Char) → Reader (List Char)
  | 0, name => return name
  | bound + 1, name => do
    match ← peek? with
    | none => return name
    | some c =>
      if isEdgeChar c then
        let _ ← advance
        edgeName bound (name ++ [c])
      else return name

/-- Reads the name of an edge of words in braces, if one follows.  Braces without a name are left:
they tell how often any edge is repeated. -/
def namedEdge? (start : Nat) : Reader (Option Edge) := do
  if (← peek?) ≠ some '\x7b' then return none
  let before ← get
  if !(← advance) then refuse start (← place) .edgeUnexpectedEnd
  let contents ← place
  if !(← peek?).any isEdgeChar then
    set before
    return none
  let name ← edgeName (← get).rest.length []
  if (← peek?) ≠ some '\x7d' then refuse before.place (← place) .edgeUnclosed
  let past ← place
  move 1
  match namedEdges.lookup (String.ofList name) with
  | some edge => return some edge
  | none => refuse contents past .edgeUnrecognized

/-- The characters that letters after a backslash write. -/
def letterEscapes : List (Char × Char) :=
  [('a', '\x07'), ('f', '\x0c'), ('t', '\t'), ('n', '\n'), ('r', '\r'), ('v', '\x0b')]

/-- The places that characters after a backslash write. -/
def anchorEscapes : List (Char × Anchor) :=
  [('A', .textStart), ('z', .textEnd), ('B', .word .none), ('<', .word .start), ('>', .word .stop)]

/-- Reads the one character that makes an escape. -/
def shortEscape (start : Nat) (c : Char) : Reader Form := do
  move 1
  let span ← since start
  if isEscapable c then return .letter { span, char := c }
  else if c = 'b' then
    let edge ← namedEdge? start
    return .anchor (← since start) (.word (edge.getD .any))
  else
    match letterEscapes.lookup c, anchorEscapes.lookup c with
    | some char, _ => return .letter { span, char }
    | none, some anchor => return .anchor span anchor
    | none, none => refuse start span.past .escapeUnrecognized

/-- Reads what a backslash starts. -/
def escape : Reader Form := do
  let start ← place
  move 1
  match ← peek? with
  | none => refuse start (← place) .escapeUnexpectedEnd
  | some c =>
    if c.isDigit then refuse start ((← place) + 1) .backreference
    else if c = 'x' then hexadecimal start 2
    else if c = 'u' then hexadecimal start 4
    else if c = 'U' then hexadecimal start 8
    else if c = 'p' || c = 'P' then property start
    else if "dswDSW".toList.contains c then
      move 1
      return .set (.lettered (← since start) c)
    else shortEscape start c

/-- Reads a character or an escape outside of brackets. -/
def primitive (c : Char) : Reader Form := do
  if c = '\\' then escape
  else
    let start ← place
    move 1
    let span ← since start
    if c = '.' then return .point span
    else if c = '^' then return .anchor span .lineStart
    else if c = '$' then return .anchor span .lineEnd
    else return .letter { span, char := c }

end Formula.Pattern
