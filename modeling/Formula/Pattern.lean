/-! Patterns and the texts in which they occur.  Matching works on places of a text, the one before
each of its characters and the one at its end: from all places where a part of a pattern may start
it finds all places where that part may end, so it never goes back. -/

namespace Formula

/-- A set of characters. -/
inductive CharSet where
  | range (first last : Char)
  | union (a b : CharSet)
  | inter (a b : CharSet)
  | complement (a : CharSet)
  /-- The characters that are in a set, and the same letters in the other case. -/
  | anyCase (a : CharSet)
deriving DecidableEq

namespace CharSet

def contains (c : Char) : CharSet → Bool
  | .range first last => first ≤ c && c ≤ last
  | .union a b => a.contains c || b.contains c
  | .inter a b => a.contains c && b.contains c
  | .complement a => !a.contains c
  | .anyCase a => a.contains c || a.contains c.toLower || a.contains c.toUpper

def single (c : Char) : CharSet := .range c c

/-- The set without characters: its least one is above its greatest one. -/
def none : CharSet := .range '\x01' '\x00'

def ofRanges (ranges : List (Char × Char)) : CharSet :=
  ranges.foldl (fun set (first, last) => .union set (.range first last)) none

def diff (a b : CharSet) : CharSet := .inter a (.complement b)

def symmDiff (a b : CharSet) : CharSet := .union (a.diff b) (b.diff a)

end CharSet

/-- The characters of words. -/
def wordSet : CharSet := .ofRanges [('0', '9'), ('A', 'Z'), ('_', '_'), ('a', 'z')]

/-- How a place lies to the words around it. -/
inductive Edge where
  /-- A word starts or ends there. -/
  | any
  /-- No word starts or ends there. -/
  | none
  | start
  | stop
  /-- No character of a word is right before. -/
  | clearBefore
  /-- No character of a word is right after. -/
  | clearAfter
deriving DecidableEq

/-- Whether a place lies so to words, where `before` and `after` tell whether the characters right
before and right after it are in words. -/
def Edge.holds (before after : Bool) : Edge → Bool
  | .any => before != after
  | .none => before == after
  | .start => !before && after
  | .stop => before && !after
  | .clearBefore => !before
  | .clearAfter => !after

/-- A condition on the characters right before and right after a place. -/
inductive Look where
  | textStart
  | textEnd
  | lineStart
  | lineEnd
  /-- A line starts there, where lines may also end with carriage returns. -/
  | returnStart
  /-- A line ends there, where lines may also end with carriage returns. -/
  | returnEnd
  | word (edge : Edge)
deriving DecidableEq

/-- Whether there is a character and words have it. -/
def inWord (c : Option Char) : Bool := c.any wordSet.contains

/-- Whether a condition holds between two characters, each of which may be missing.  No line starts
or ends between a carriage return and a line feed. -/
def Look.holds (before after : Option Char) : Look → Bool
  | .textStart => before.isNone
  | .textEnd => after.isNone
  | .lineStart => before.all (· = '\n')
  | .lineEnd => after.all (· = '\n')
  | .returnStart =>
    before.all (· = '\n') || before = some '\r' && after ≠ some '\n'
  | .returnEnd =>
    after.all (· = '\r') || after = some '\n' && before ≠ some '\r'
  | .word edge => edge.holds (inWord before) (inWord after)

inductive Pattern where
  /-- Matches the empty text. -/
  | empty
  /-- Matches one character of a set. -/
  | one (set : CharSet)
  /-- Matches the empty text where a condition holds. -/
  | look (condition : Look)
  | seq (a b : Pattern)
  | alt (a b : Pattern)
  /-- Matches what `a` matches, and keeps it. -/
  | keep (a : Pattern)
  /-- Matches `least` repetitions or more, up to `most` if there is a limit. -/
  | rep (a : Pattern) (least : Nat) (most : Option Nat)
deriving DecidableEq

namespace Pattern

/-- The places of a text, each with the characters right before and right after it; `before` stands
before the first one. -/
def places (before : Option Char) : List Char → List (Option Char × Option Char)
  | [] => [(before, none)]
  | c :: rest => (before, some c) :: places (some c) rest

/-- The places in either of two lists of marks. -/
def either (marks others : List Bool) : List Bool := List.zipWith (· || ·) marks others

/-- What `step` reaches from some places in exactly `n` steps, of which there need be no more once
one of them leads back to where it started. -/
def steps (step : List Bool → List Bool) : (n : Nat) → List Bool → List Bool
  | 0, marks => marks
  | n + 1, marks =>
    let next := step marks
    if next = marks then marks else steps step n next

/-- What `step` reaches from some places in at most `n` steps. -/
def upToSteps (step : List Bool → List Bool) : (n : Nat) → List Bool → List Bool
  | 0, marks => marks
  | n + 1, marks =>
    let wider := either marks (step marks)
    if wider = marks then marks else upToSteps step n wider

/-- The places of a text where a match that starts at one of the marked places may end.  Without a
limit, as many repetitions as the text has places reach all that can be reached. -/
def ends (text : List Char) : Pattern → List Bool → List Bool
  | .empty, marks => marks
  | .one set, marks => false :: List.zipWith (fun mark c => mark && set.contains c) marks text
  | .look condition, marks =>
    List.zipWith (fun mark (before, after) => mark && condition.holds before after) marks
      (places none text)
  | .seq a b, marks => ends text b (ends text a marks)
  | .alt a b, marks => either (ends text a marks) (ends text b marks)
  | .keep a, marks => ends text a marks
  | .rep a least most, marks =>
    upToSteps (ends text a) ((most.getD (least + text.length + 1)) - least)
      (steps (ends text a) least marks)

/-- Whether a pattern occurs in a text. -/
def occursIn (p : Pattern) (text : String) : Bool :=
  let cs := text.toList
  (p.ends cs (List.replicate (cs.length + 1) true)).any id

end Pattern

end Formula
