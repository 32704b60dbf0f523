import Formula.Pattern.Form

/-! How deep the parts of a pattern lie in each other.  Groups, repetitions, alternatives, sequences
and sets with parts each take a level, and there are only so many. -/

namespace Formula.Pattern

/-- The number of levels that a pattern may have. -/
def levels : Nat := 250

mutual

/-- The first part of a set for which no level is left. -/
def SetForm.tooDeep? : (left : Nat) → SetForm → Option Span
  | 0, .brackets span _ _ => some span
  | left + 1, .brackets _ _ body => body.tooDeep? left
  | 0, .union span _ => some span
  | left + 1, .union _ items => SetForm.anyTooDeep? left items
  | 0, .operation span _ _ _ => some span
  | left + 1, .operation _ _ a b => (a.tooDeep? left).or (b.tooDeep? left)
  | _, _ => none
termination_by structural _ form => form

/-- The first part of several sets for which no level is left. -/
def SetForm.anyTooDeep? (left : Nat) : List SetForm → Option Span
  | [] => none
  | item :: items => (item.tooDeep? left).or (SetForm.anyTooDeep? left items)
termination_by structural items => items

end

mutual

/-- The first part of a pattern, from the left and from the outside, for which no level is left. -/
def Form.tooDeep? : (left : Nat) → Form → Option Span
  | left, .set s => s.tooDeep? left
  | 0, .rep span _ _ _ => some span
  | left + 1, .rep _ _ _ form => form.tooDeep? left
  | 0, .group span _ _ _ => some span
  | left + 1, .group _ _ _ form => form.tooDeep? left
  | 0, .alt span _ => some span
  | left + 1, .alt _ branches => Form.anyTooDeep? left branches
  | 0, .seq span _ => some span
  | left + 1, .seq _ parts => Form.anyTooDeep? left parts
  | _, _ => none
termination_by structural _ form => form

/-- The first part of several patterns for which no level is left. -/
def Form.anyTooDeep? (left : Nat) : List Form → Option Span
  | [] => none
  | form :: forms => (form.tooDeep? left).or (Form.anyTooDeep? left forms)
termination_by structural forms => forms

end

end Formula.Pattern
