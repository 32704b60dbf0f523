import Formula.Pattern
import Formula.Pattern.Fault

/-! Patterns as they are written: the parts of a text, each with the characters that write it.  What
a part means depends on the modes that have been switched before it, and is not decided here. -/

namespace Formula.Pattern

/-- A character that stands for itself, or the one that an escape writes. -/
structure Letter where
  span : Span
  char : Char
  /-- Whether two hexadecimal digits write it, which would also write a byte. -/
  asByte : Bool := false

/-- How two sets make one. -/
inductive SetOperator where
  | inter
  | diff
  | symmDiff

/-- A set of characters as it is written. -/
inductive SetForm where
  /-- Nothing at all, where one side of an operator has no characters. -/
  | nothing (place : Nat)
  | single (letter : Letter)
  | range (first last : Letter)
  /-- A class of ASCII characters by its name, or all characters that are not in it. -/
  | named (span : Span) (negated : Bool) (set : CharSet)
  /-- The class that a letter stands for. -/
  | lettered (span : Span) (letter : Char)
  /-- The characters that have a property. -/
  | property (span : Span) (name : List Char)
  | brackets (span : Span) (negated : Bool) (body : SetForm)
  /-- Two or more sets side by side. -/
  | union (span : Span) (items : List SetForm)
  | operation (span : Span) (op : SetOperator) (left right : SetForm)

namespace SetForm

def span : SetForm → Span
  | .nothing place => ⟨place, place⟩
  | .single l => l.span
  | .range first last => ⟨first.span.first, last.span.past⟩
  | .named span _ _ | .lettered span _ | .property span _ | .brackets span _ _ | .union span _
  | .operation span _ _ _ => span

/-- Sets side by side, which start at `place` if there are any. -/
def join (place : Nat) : List SetForm → SetForm
  | [] => .nothing place
  | [item] => item
  | item :: items =>
    .union ⟨item.span.first, (items.getLast?.getD item).span.past⟩ (item :: items)

end SetForm

/-- A place in a text as it is written. -/
inductive Anchor where
  | lineStart
  | lineEnd
  | textStart
  | textEnd
  | word (edge : Edge)

/-- A pattern as it is written. -/
inductive Form where
  | empty (place : Nat)
  /-- The letters of modes that are switched for what follows, with a dash before those that are
  switched off. -/
  | modes (span : Span) (letters : List Char)
  | letter (letter : Letter)
  | point (span : Span)
  | anchor (span : Span) (anchor : Anchor)
  | set (set : SetForm)
  | rep (span : Span) (least : Nat) (most : Option Nat) (form : Form)
  /-- A group, which may be kept or switch modes for what is in it. -/
  | group (span : Span) (kept : Bool) (letters : List Char) (form : Form)
  /-- Two or more alternatives. -/
  | alt (span : Span) (branches : List Form)
  /-- Two or more parts, one after the other. -/
  | seq (span : Span) (parts : List Form)

namespace Form

def span : Form → Span
  | .empty place => ⟨place, place⟩
  | .letter l => l.span
  | .set s => s.span
  | .modes span _ | .point span | .anchor span _ | .rep span _ _ _ | .group span _ _ _
  | .alt span _ | .seq span _ => span

/-- Whether a form stands for something that could be repeated. -/
def repeatable : Form → Bool
  | .empty _ | .modes _ _ => false
  | _ => true

/-- Parts that come one after the other between two places. -/
def inSequence (span : Span) : List Form → Form
  | [] => .empty span.first
  | [part] => part
  | parts => .seq span parts

/-- Alternatives between two places, of which there is at least one. -/
def inAlternation (span : Span) : List Form → Form
  | [branch] => branch
  | branches => .alt span branches

end Form

end Formula.Pattern
