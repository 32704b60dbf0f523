import Formula.Pattern

/-! The memory that a pattern takes when it is prepared for matching, for a text that is read from
its start and for one that is read from its end.  Every step of a match takes a state, a choice
takes a state and its branches, and a set takes a state and its ranges.  Repetitions are written
out, so a short pattern may take more memory than there may be. -/

namespace Formula

namespace CharSet

/-- Whether a set may have characters beyond ASCII. -/
def reachesBeyond : CharSet → Bool
  | .range _ last => '\x7f' < last
  | .union a b => a.reachesBeyond || b.reachesBeyond
  | .inter a b => a.reachesBeyond && b.reachesBeyond
  | .complement _ => true
  | .anyCase a => a.reachesBeyond

/-- The ASCII characters of a set. -/
def asciiChars (set : CharSet) : List Char := ((List.range 128).map Char.ofNat).filter set.contains

/-- The number of ranges that the ASCII characters of a set make. -/
def asciiRanges (set : CharSet) : Nat :=
  (set.asciiChars.filter fun c => c.toNat = 0 || !set.contains (Char.ofNat (c.toNat - 1))).length

end CharSet

namespace Pattern

/-- The bytes of a state. -/
def stateSize : Nat := 32

/-- The bytes of a set of any characters.  Those beyond ASCII take a state for each of their bytes,
and more of them from the end, where the number of bytes is not known yet. -/
def rangesWeight (backward : Bool) (set : CharSet) : Nat :=
  let ranges := set.asciiRanges
  if set.reachesBeyond then
    if backward then stateSize * (28 + ranges) + 4 * (8 + ranges)
    else 9 * stateSize + 8 * (15 + ranges)
  else if set.asciiChars.length ≤ 1 then stateSize
  else 2 * stateSize + 8 * ranges

/-- The bytes of a set; a single character takes a state for each of its bytes. -/
def setWeight (backward : Bool) : CharSet → Nat
  | .range first last =>
    if first = last then first.utf8Size * stateSize else rangesWeight backward (.range first last)
  | set => rangesWeight backward set

/-- Whether a pattern matches nothing but the empty text. -/
def onlyEmpty : Pattern → Bool
  | .empty | .look _ => true
  | .one _ => false
  | .seq a b | .alt a b => a.onlyEmpty && b.onlyEmpty
  | .keep a => a.onlyEmpty
  | .rep a _ most => a.onlyEmpty || most = some 0

/-- Whether a pattern may match the empty text. -/
def mayBeEmpty : Pattern → Bool
  | .empty | .look _ => true
  | .one _ => false
  | .seq a b => a.mayBeEmpty && b.mayBeEmpty
  | .alt a b => a.mayBeEmpty || b.mayBeEmpty
  | .keep a => a.mayBeEmpty
  | .rep a least _ => least = 0 || a.mayBeEmpty

/-- The bytes of repetitions of what takes `one` bytes and may be empty or not. -/
def repeatedWeight (one : Nat) (mayBeEmpty : Bool) (least : Nat) : Option Nat → Nat
  | none =>
    if 0 < least then least * one + stateSize + 8
    else if mayBeEmpty then one + 3 * stateSize + 16
    else one + stateSize + 8
  | some most =>
    if most = 0 then stateSize
    else if least = most then least * one
    else if most = 1 then one + 2 * stateSize + 8
    else (if least = 0 then stateSize else least * one) + stateSize +
      (most - least) * (one + stateSize + 8)

/-- The bytes of a branch with its place in a choice; the branches of a choice within another one
are branches of that one. -/
def branchWeight (weight : Nat) : Pattern → Nat
  | .alt _ _ => weight - 2 * stateSize
  | _ => weight + 4

/-- The bytes of a pattern.  What matches only the empty text is not repeated, and what a match of a
part is kept in is only needed from the start. -/
def weight (backward : Bool) : Pattern → Nat
  | .empty | .look _ => stateSize
  | .one set => setWeight backward set
  | .seq a b => a.weight backward + b.weight backward
  | .alt a b =>
    2 * stateSize + branchWeight (a.weight backward) a + branchWeight (b.weight backward) b
  | .keep a => a.weight backward + if backward then 0 else 2 * stateSize
  | .rep a least most =>
    let one := a.weight backward
    if a.onlyEmpty then repeatedWeight one true (min least 1) (some (min (most.getD 1) 1))
    else repeatedWeight one a.mayBeEmpty least most

/-- The most bytes that a pattern may take. -/
def weightLimit : Nat := 10485760

/-- Whether a pattern takes too much memory, with what finds the place where a match starts. -/
def tooHeavy (p : Pattern) (backward : Bool) : Bool :=
  weightLimit < p.weight backward + if backward then 144 else 208

end Pattern

end Formula
