import Formula.Json.Reader
import Formula.Tree

/-! Trees as JSON documents.  A node is an object with the members `type` and `value`; the value is
a number, an array of two nodes, one node, or, for a letter, an object with `name` and `index`.
Reading also takes a node or a letter as an array of its members, members in any order and members
of other names, which it ignores.  When the value of a node comes before its type it is stored until
the type is known, and inside a stored value types may be given in more ways. -/

namespace Formula

namespace Double

/-- The numeral of a finite double in documents: the shortest digits, a tie going to the even ones.
With a first digit between `10 ^ -5` and `10 ^ 15` it is positional and has a fraction always;
otherwise it has an exponent. -/
def documented (v : Double) : Numeral :=
  let d := Decimal.shortest .even v.magnitude
  let order := d.exponent + (Nat.toDigits 10 d.digits).length - 1
  if -5 ≤ order && order ≤ 15 then
    let n := Numeral.positional v.negative d
    if n.fraction.isEmpty then { n with fraction := ['0'] } else n
  else Numeral.scientific v.negative d

end Double

namespace Tree

/-- An object with the members of a node. -/
def node (type : String) (value : Json) : Json :=
  .object [(some "type", .string (some type)), (some "value", value)]

/-- The value of a letter. -/
def letterValue (name : String) (index : Json) : Json :=
  .object [(some "name", .string (some name)), (some "index", index)]

/-- The document of a tree.  Numbers that are not finite have no numeral and are `null`. -/
def toJson : Tree → Json
  | .number value => node "Number" (if value.isFinite then .number value.documented else .null)
  | .letter name => node "Letter" (letterValue name .null)
  | .indexed name index => node "Letter" (letterValue name index.toJson)
  | .binary op left right => node op.name (.array [left.toJson, right.toJson])
  | .unary op operand => node op.name operand.toJson

/-- The text of the document of a tree. -/
def document (t : Tree) : String := t.toJson.pretty

/-- The values of the members with the given key, in order. -/
def valuesOf (key : String) (members : List (Option String × Json)) : List Json :=
  members.filterMap fun (k, value) => if k = some key then some value else none

/-- Whether the first of the members that have one of the two keys has the second one. -/
def comesLate (first second : String) (members : List (Option String × Json)) : Bool :=
  (members.find? fun (k, _) => k = some first || k = some second).any (·.1 = some second)

/-- The types of nodes, in the order in which they are counted. -/
def typeNames : List String :=
  ["Number", "Letter"] ++ BinaryOperator.all.map (·.name) ++ UnaryOperator.all.map (·.name)

/-- The type that a number stands for, by counting from zero. -/
def countedType? (n : Numeral) : Option String :=
  if n.negative || !n.fraction.isEmpty || n.exponent.isSome then none
  else typeNames[Nat.ofDigitChars 10 n.whole 0]?

/-- The type that starts the array of a node.  Only a stored value may count it. -/
def leadingType? (stored : Bool) : Json → Option String
  | .string name => name
  | .number numeral => if stored then countedType? numeral else none
  | _ => none

/-- The type that the member of a node gives: a name, or an object, for which there has to be room,
with the name as its only key and with nothing as its value.  In a stored value an empty object is
nothing, too. -/
def memberType? (stored : Bool) (room : Nat) : Json → Option String
  | .string name => name
  | .object [(name, .null)] => if room = 0 then none else name
  | .object [(name, .object [])] => if stored then name else none
  | _ => none

/-- What a node is made of.  A node is stored if it was taken in before its type was known, and so
are then the nodes inside it. -/
structure NodeParts where
  type : String
  value : Json
  stored : Bool

/-- The parts of a node.  In an object both members stand exactly once and all keys spell something;
a value that comes before the type is stored, so it must be readable in `room`. -/
def nodeParts? (stored : Bool) (room : Nat) : Json → Option NodeParts
  | .array [type, value] => (leadingType? stored type).map fun type => ⟨type, value, stored⟩
  | .object members =>
    match valuesOf "type" members, valuesOf "value" members with
    | [type], [value] =>
      let late := comesLate "type" "value" members
      if members.all (·.1.isSome) && (!late || value.isReadable room) then
        (memberType? stored room type).map fun type => ⟨type, value, stored || late⟩
      else none
    | _, _ => none
  | _ => none

/-- The name and the index of a letter; the index may be missing. -/
def letterParts? : Json → Option (String × Json)
  | .array [.string (some name)] => some (name, .null)
  | .array [.string (some name), index] => some (name, index)
  | .object members =>
    if members.all (·.1.isSome) then
      match valuesOf "name" members, valuesOf "index" members with
      | [.string (some name)], [] => some (name, .null)
      | [.string (some name)], [index] => some (name, index)
      | _, _ => none
    else none
  | _ => none

/-- The letter of the given name and index, `null` being no index. -/
def letterOf? (read : Json → Option Tree) (name : String) : Json → Option Tree
  | .null => some (.letter name)
  | index => (read index).map (.indexed name)

/-- The tree of a node of the given type and value.  `operand` reads the value as a node, and
`inner` reads nodes inside it, if there is room for an array or object around them. -/
def ofParts? (operand : Json → Option Tree) (inner : Option (Json → Option Tree)) (type : String)
    (value : Json) : Option Tree :=
  if type = "Number" then
    match value with
    | .number numeral => numeral.scaled?.map .number
    | _ => none
  else if type = "Letter" then do
    let read ← inner
    let (name, index) ← letterParts? value
    letterOf? read name index
  else
    match BinaryOperator.all.find? (·.name == type), UnaryOperator.all.find? (·.name == type) with
    | some op, _ =>
      match value with
      | .array [left, right] => do
        let read ← inner
        return .binary op (← read left) (← read right)
      | _ => none
    | none, some op => (operand value).map (.unary op)
    | none, none => none

/-- The tree that a JSON value describes, with room for at most `room` arrays and objects nested in
each other. -/
def ofJson? : (room : Nat) → (stored : Bool) → Json → Option Tree
  | 0, _, _ => none
  | room + 1, stored, json => do
    let parts ← nodeParts? stored room json
    let inner : Option (Json → Option Tree) :=
      match room with
      | 0 => none
      | deeper + 1 => some (ofJson? deeper parts.stored)
    ofParts? (ofJson? room parts.stored) inner parts.type parts.value

/-- The nesting of arrays and objects that documents may have. -/
def documentRoom : Nat := 127

/-- The tree that the text of a document describes. -/
def ofDocument? (text : String) : Option Tree := do
  ofJson? documentRoom false (← Json.parse? text)

end Tree

end Formula
