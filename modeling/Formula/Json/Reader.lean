import Formula.Json

/-! From text to JSON values.  Reading checks the form of a text and nothing else: numbers may be of
any size and values may nest to any depth. -/

namespace Formula.Json

/-- Reads something at the start of a text and gives what follows it. -/
abbrev Reader (α : Type) := List Char → Option (α × List Char)

/-- What may stand between the parts of a value. -/
def isSpace (c : Char) : Bool := c = ' ' || c = '\t' || c = '\n' || c = '\r'

def skipSpace (cs : List Char) : List Char := cs.dropWhile isSpace

/-- A piece of a string: a character, or the value of an escape of four hexadecimal digits, which
may be half of a character. -/
inductive Piece where
  | plain (c : Char)
  | unit (value : Nat)

/-- The value of a hexadecimal digit, of either case. -/
def hexValue? (c : Char) : Option Nat :=
  if c.isDigit then some (c.toNat - '0'.toNat)
  else if 'a' ≤ c && c ≤ 'f' then some (c.toNat - 'a'.toNat + 10)
  else if 'A' ≤ c && c ≤ 'F' then some (c.toNat - 'A'.toNat + 10)
  else none

/-- The value of four hexadecimal digits. -/
def unit? (a b c d : Char) : Option Nat := do
  return (((← hexValue? a) * 16 + (← hexValue? b)) * 16 + (← hexValue? c)) * 16 + (← hexValue? d)

/-- The character that a backslash and one more character stand for. -/
def escaped? (c : Char) : Option Char :=
  if c = '"' || c = '\\' || c = '/' then some c
  else if c = 'b' then some '\x08'
  else if c = 'f' then some '\x0c'
  else if c = 'n' then some '\n'
  else if c = 'r' then some '\r'
  else if c = 't' then some '\t'
  else none

/-- The pieces of a string after its opening quotation mark. -/
def pieces? : Reader (List Piece)
  | [] => none
  | '"' :: rest => some ([], rest)
  | '\\' :: 'u' :: a :: b :: c :: d :: rest => do
    let value ← unit? a b c d
    let (more, rest) ← pieces? rest
    return (.unit value :: more, rest)
  | '\\' :: c :: rest => do
    let c ← escaped? c
    let (more, rest) ← pieces? rest
    return (.plain c :: more, rest)
  | c :: rest =>
    if c.toNat < 0x20 || c = '\\' then none
    else do
      let (more, rest) ← pieces? rest
      return (.plain c :: more, rest)

def isHighSurrogate (value : Nat) : Bool := 0xd800 ≤ value && value < 0xdc00

def isLowSurrogate (value : Nat) : Bool := 0xdc00 ≤ value && value < 0xe000

/-- The characters that pieces spell.  Two escapes may spell one character as a surrogate pair; half
of a pair spells nothing. -/
def spell? : List Piece → Option (List Char)
  | [] => some []
  | .plain c :: rest => (spell? rest).map (c :: ·)
  | .unit high :: .unit low :: rest =>
    if isHighSurrogate high then
      if isLowSurrogate low then
        (spell? rest).map (Char.ofNat (0x10000 + (high - 0xd800) * 0x400 + (low - 0xdc00)) :: ·)
      else none
    else if isLowSurrogate high then none
    else (spell? (.unit low :: rest)).map (Char.ofNat high :: ·)
  | .unit value :: rest =>
    if isHighSurrogate value || isLowSurrogate value then none
    else (spell? rest).map (Char.ofNat value :: ·)

/-- A string, as the text it spells if it spells one. -/
def string? : Reader (Option String)
  | '"' :: rest => do
    let (pieces, rest) ← pieces? rest
    return ((spell? pieces).map String.ofList, rest)
  | _ => none

/-- A number: a minus or none, digits before the point without leading zeros, a fraction and an
exponent if there are. -/
def number? (cs : List Char) : Option (Numeral × List Char) := do
  let sign := if cs.head? = some '-' then Numeral.signPart cs else .none false cs
  let part ← Numeral.scan? sign.rest
  let whole := part.value.whole
  if whole.isEmpty || whole.length ≠ 1 && whole.head? = some '0' then none
  else return (⟨sign.value, whole, part.value.fraction, part.value.exponent⟩, part.rest)

/-- One or more of what `item?` reads, divided by commas, up to the closing character.  Every item
takes at least one character, so `bound`, the text before the first one, is long enough to count
them. -/
def sequence? {α : Type} (item? : Reader α) (close : Char) : (bound : List Char) → Reader (List α)
  | [], _ => none
  | _ :: bound, cs => do
    let (item, rest) ← item? cs
    match skipSpace rest with
    | c :: rest =>
      if c = close then return ([item], rest)
      else if c = ',' then
        let (items, rest) ← sequence? item? close bound (skipSpace rest)
        return (item :: items, rest)
      else none
    | [] => none

/-- Nothing, or a sequence, up to the closing character. -/
def listed? {α : Type} (item? : Reader α) (close : Char) (cs : List Char) :
    Option (List α × List Char) :=
  match skipSpace cs with
  | c :: rest => if c = close then some ([], rest) else sequence? item? close cs (c :: rest)
  | [] => none

/-- A key and its value. -/
def member? (value? : Reader Json) (cs : List Char) :
    Option ((Option String × Json) × List Char) := do
  let (key, rest) ← string? cs
  match skipSpace rest with
  | ':' :: rest =>
    let (value, rest) ← value? (skipSpace rest)
    return ((key, value), rest)
  | _ => none

/-- A word that stands for a value. -/
def word? (word : String) (value : Json) (cs : List Char) : Option (Json × List Char) :=
  if word.toList.isPrefixOf cs then some (value, cs.drop word.length) else none

/-- A value of at most `depth` nested arrays and objects. -/
def value? : (depth : Nat) → Reader Json
  | depth, '[' :: rest =>
    match depth with
    | 0 => none
    | depth + 1 => do
      let (items, rest) ← listed? (value? depth) ']' rest
      return (.array items, rest)
  | depth, '\x7b' :: rest =>
    match depth with
    | 0 => none
    | depth + 1 => do
      let (members, rest) ← listed? (member? (value? depth)) '\x7d' rest
      return (.object members, rest)
  | _, '"' :: rest => do
    let (text, rest) ← string? ('"' :: rest)
    return (.string text, rest)
  | _, 'n' :: rest => word? "null" .null ('n' :: rest)
  | _, 't' :: rest => word? "true" (.bool true) ('t' :: rest)
  | _, 'f' :: rest => word? "false" (.bool false) ('f' :: rest)
  | _, cs => do
    let (numeral, rest) ← number? cs
    return (.number numeral, rest)

/-- The value that a whole text writes.  An array or object takes two characters, so the length of
the text bounds how deep it nests. -/
def parse? (text : String) : Option Json := do
  let cs := text.toList
  let (value, rest) ← value? cs.length (skipSpace cs)
  if (skipSpace rest).isEmpty then return value else none

end Formula.Json
