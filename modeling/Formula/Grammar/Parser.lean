import Formula.Bindings
import Formula.Event
import Formula.Grammar.Cursor
import Formula.Grammar.Error

/-! The grammar of expressions, from the loosest to the tightest binding:

* an expression is terms joined by `+` and `-`, grouped to the left;
* a term is powers joined by `*` and `/`, grouped to the left;
* a power is factors joined by `^`, grouped as the settings say;
* a factor is an expression in parentheses or brackets, a number, a letter, or a sign or a function
  before another factor.

A parser is a function on cursors; its outcome tells the events of its own run only, so it cannot
depend on what was told before.  Nesting is bounded by recursion on the room that is left, and the
height of trees by a check on every tree that is built. -/

namespace Formula

/-- What a parser leaves behind: its result, the cursor where it stopped, and what it did. -/
structure Outcome (α : Type) where
  result : Except SyntaxError α
  cursor : Cursor
  events : List Event

/-- Reads an `α` from a cursor on. -/
def Parser (α : Type) := Cursor → Outcome α

namespace Parser

/-- Runs `p` and, if it succeeds, what follows it at the cursor that it leaves. -/
def andThen {α β : Type} (p : Parser α) (f : α → Parser β) : Parser β := fun cursor =>
  let first := p cursor
  match first.result with
  | .error e => ⟨.error e, first.cursor, first.events⟩
  | .ok a =>
    let second := f a first.cursor
    ⟨second.result, second.cursor, first.events ++ second.events⟩

instance : Monad Parser where
  pure a := fun cursor => ⟨.ok a, cursor, []⟩
  bind := andThen

/-- Stops with an error. -/
def fail {α : Type} (e : SyntaxError) : Parser α := fun cursor => ⟨.error e, cursor, []⟩

/-- Tells an event. -/
def note (event : Event) : Parser Unit := fun cursor => ⟨.ok (), cursor, [event]⟩

/-- The cursor as it stands. -/
def here : Parser Cursor := fun cursor => ⟨.ok cursor, cursor, []⟩

/-- Takes the next token, if there is one. -/
def advance : Parser (Option Token) := fun cursor =>
  match cursor.advance? with
  | none => ⟨.ok none, cursor, []⟩
  | some (token, cursor) => ⟨.ok (some token), cursor, []⟩

end Parser

/-- A tree with its height, which is kept rather than measured again for every operation. -/
structure Subtree where
  tree : Tree
  height : Nat
deriving DecidableEq

namespace Grammar

open Formula.Parser

/-- A number or letter by itself. -/
def leaf (tree : Tree) : Subtree := ⟨tree, 1⟩

/-- The tree, unless it is higher than the settings allow. -/
def checked (settings : Settings) (location : Location) (s : Subtree) : Parser Subtree :=
  if settings.maxTreeDepth < s.height then fail (.nestingTooDeep settings.maxTreeDepth location)
  else pure s

/-- Joins two operands by the operator at `location`. -/
def join (settings : Settings) (op : BinaryOperator) (location : Location) (left right : Subtree) :
    Parser Subtree :=
  checked settings location ⟨.binary op left.tree right.tree, 1 + max left.height right.height⟩

/-- Applies the operator at `location` to an operand. -/
def wrap (settings : Settings) (op : UnaryOperator) (location : Location) (operand : Subtree) :
    Parser Subtree :=
  checked settings location ⟨.unary op operand.tree, 1 + operand.height⟩

/-- The operators that join terms. -/
def additive? : Token.Kind → Option BinaryOperator
  | .operator .add => some .add
  | .operator .subtract => some .subtract
  | _ => none

/-- The operators that join powers. -/
def multiplicative? : Token.Kind → Option BinaryOperator
  | .operator .multiply => some .multiply
  | .operator .divide => some .divide
  | _ => none

/-- The operator that joins factors. -/
def power? : Token.Kind → Option BinaryOperator
  | .operator .power => some .power
  | _ => none

/-- What a token means as the start of a factor that is an operator and its operand. -/
def unary? : Token.Kind → Option UnaryOperator
  | .operator .add => some .plus
  | .operator .subtract => some .minus
  | .function f => some (.function f)
  | _ => none

/-- Goes on from `left` as long as an operator is next, grouping to the left.  Every operator takes
a token, so `bound`, the tokens left at the first one, is long enough to count them. -/
def chain (settings : Settings) (operator? : Token.Kind → Option BinaryOperator)
    (operand : Parser Subtree) : (bound : List Token) → (left : Subtree) → Parser Subtree
  | [], left => pure left
  | _ :: bound, left => do
    let cursor ← here
    match cursor.next?.bind operator? with
    | none => pure left
    | some op => do
      let _ ← advance
      let right ← operand
      let joined ← join settings op cursor.location left right
      chain settings operator? operand bound joined

/-- Operands joined by operators of one rank, grouped to the left. -/
def joined (settings : Settings) (operator? : Token.Kind → Option BinaryOperator)
    (operand : Parser Subtree) : Parser Subtree := do
  let first ← operand
  let cursor ← here
  chain settings operator? operand cursor.rest first

/-- What can be asked for one level deeper. -/
inductive Goal where
  | expression
  | power
  | factor

section Productions

variable (settings : Settings) (bindings : Bindings) (deeper : Goal → Parser Subtree)

/-- A group whose opening symbol, at `openedAt`, has been taken. -/
def group (delimiter : Delimiter) (openedAt : Location) : Parser Subtree := do
  let inner ← deeper .expression
  match ← advance with
  | none => fail (.unclosedDelimiter delimiter openedAt)
  | some token =>
    if token.kind = .closing delimiter then pure inner
    else fail (.mismatchedDelimiter delimiter token.kind token.location)

/-- A letter that has been taken and that no index follows: its value if it has one. -/
def letter (name : String) : Parser Subtree :=
  match bindings.get? name with
  | some value => do
    note (.substituted name value)
    pure (leaf (.number value))
  | none => pure (leaf (.letter name))

/-- A letter that has been taken at `location`, with its index if it takes one.  An index is a
factor too, and needs no room. -/
def letterOrIndexed (name : String) (location : Location) : Parser Subtree := do
  let cursor ← here
  match settings.indexedLetters, cursor.next? with
  | true, some (.number value) => do
    let _ ← advance
    note (.factor (.number value) cursor.location)
    checked settings location ⟨.indexed name (.number value), 2⟩
  | _, _ => letter bindings name

/-- A factor whose first token has been taken. -/
def factorFrom (token : Token) : Parser Subtree :=
  match token.kind with
  | .opening delimiter => group deeper delimiter token.location
  | .number value => pure (leaf (.number value))
  | .letter name => letterOrIndexed settings bindings name token.location
  | kind =>
    match unary? kind with
    | some op => do
      let operand ← deeper .factor
      wrap settings op token.location operand
    | none => fail (.unexpectedToken kind token.location)

/-- The tightest unit: what one token starts by itself. -/
def factor : Parser Subtree := do
  match ← advance with
  | none => do
    let cursor ← here
    fail (.unexpectedEnd cursor.location)
  | some token =>
    note (.factor token.kind token.location)
    factorFrom settings bindings deeper token

/-- Factors joined by `^`.  When powers group to the right, all that follows the first `^` is one
power, a level deeper. -/
def power : Parser Subtree :=
  match settings.power with
  | .left => joined settings power? (factor settings bindings deeper)
  | .right => do
    let base ← factor settings bindings deeper
    let cursor ← here
    match cursor.next?.bind power? with
    | none => pure base
    | some op => do
      let _ ← advance
      let exponent ← deeper .power
      join settings op cursor.location base exponent

/-- Powers joined by `*` and `/`. -/
def term : Parser Subtree := joined settings multiplicative? (power settings bindings deeper)

/-- Terms joined by `+` and `-`. -/
def expression : Parser Subtree := do
  let cursor ← here
  note (.expression cursor.location)
  joined settings additive? (term settings bindings deeper)

/-- What the goal asks for, with `deeper` for what is nested in it. -/
def produce : Goal → Parser Subtree
  | .expression => expression settings bindings deeper
  | .power => power settings bindings deeper
  | .factor => factor settings bindings deeper

end Productions

/-- What the goal asks for, one level deeper than where it is asked, when `room` levels are left. -/
def descend (settings : Settings) (bindings : Bindings) : (room : Nat) → Goal → Parser Subtree
  | 0, _, cursor => fail (.nestingTooDeep settings.maxDepth cursor.location) cursor
  | room + 1, goal, cursor => produce settings bindings (descend settings bindings room) goal cursor

/-- A whole sequence of tokens: nothing, or one expression and no more. -/
def whole (settings : Settings) (bindings : Bindings) : Parser (Option Tree) := do
  let start ← here
  if start.rest.isEmpty then
    note .nothingToParse
    pure none
  else
    note (.parsing bindings.size settings)
    let result ← expression settings bindings (descend settings bindings settings.maxDepth)
    match ← advance with
    | some token => fail (.trailingTokens token.kind token.location)
    | none =>
      let finish ← here
      note (.parsed finish.position result.tree)
      pure (some result.tree)

/-- The outcome of parsing a list of tokens. -/
def run (settings : Settings) (bindings : Bindings) (tokens : List Token) :
    Outcome (Option Tree) :=
  whole settings bindings (.ofList tokens)

/-- The tree of a list of tokens; none for the empty list. -/
def parse (settings : Settings) (bindings : Bindings) (tokens : List Token) :
    Except SyntaxError (Option Tree) :=
  (run settings bindings tokens).result

end Grammar

end Formula
