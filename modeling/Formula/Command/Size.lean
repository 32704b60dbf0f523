/-! Sizes on the command line: whole numbers of at most 64 bits. -/

namespace Formula.Command

/-- The largest size. -/
def largestSize : Nat := 0xffffffffffffffff

/-- Why an argument is no size. -/
inductive SizeError where
  | empty
  | invalidDigit
  | tooLarge

def SizeError.message : SizeError → String
  | .empty => "cannot parse integer from empty string"
  | .invalidDigit => "invalid digit found in string"
  | .tooLarge => "number too large to fit in target type"

/-- Reads digits onto `size`; the first fault from the left is the one that is told. -/
def readDigits (size : Nat) : List Char → Except SizeError Nat
  | [] => .ok size
  | c :: rest =>
    if !c.isDigit then .error .invalidDigit
    else
      let next := size * 10 + (c.toNat - '0'.toNat)
      if largestSize < next then .error .tooLarge else readDigits next rest

/-- The size that an argument states: digits, with a plus before them or not. -/
def readSize (argument : String) : Except SizeError Nat :=
  match argument.toList with
  | [] => .error .empty
  | '+' :: [] => .error .invalidDigit
  | '+' :: rest => readDigits 0 rest
  | cs => readDigits 0 cs

end Formula.Command
