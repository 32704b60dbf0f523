/-! What can be set about the grammar, and the limits on what it accepts. -/

namespace Formula

/-- How a chain of powers groups. -/
inductive Associativity where
  /-- As `(a ^ b) ^ c`. -/
  | left
  /-- As `a ^ (b ^ c)`. -/
  | right
deriving DecidableEq

def Associativity.name : Associativity → String
  | .left => "Left"
  | .right => "Right"

/-- The settings of the grammar; the defaults are those of the command line. -/
structure Settings where
  /-- How many groups, signs, functions and powers that group to the right may nest. -/
  maxDepth : Nat := 100
  /-- How high a tree may be, a leaf being of height one. -/
  maxTreeDepth : Nat := 1000
  /-- How a chain of powers groups. -/
  power : Associativity := .left
  /-- Whether a letter takes a number that follows it as its index. -/
  indexedLetters : Bool := false
deriving DecidableEq

/-- The settings as the log shows them. -/
def Settings.text (s : Settings) : String :=
  "ParserConfig \x7b max_depth: " ++ s.maxDepth.repr ++ ", max_tree_depth: " ++
    s.maxTreeDepth.repr ++ ", power_associativity: " ++ s.power.name ++ ", indexed_letters: " ++
    (if s.indexedLetters then "true" else "false") ++ " \x7d"

end Formula
