import Formula.Pattern.Form.Depth
import Formula.Pattern.Form.Sequence
import Formula.Pattern.Meaning
import Formula.Pattern.Weight

/-! Patterns from their texts.  A text is refused for the first of these reasons: it has no form,
its parts lie too deep in each other, they have no meaning, or it cannot be prepared for
matching. -/

namespace Formula.Pattern

/-- The pattern that a text writes, and whether it asks for the edges of words. -/
def ofText (text : String) : Except Fault (Pattern × Bool) := do
  let form ← Form.read text.toList
  match form.tooDeep? levels with
  | some span => faulty span .nestTooDeep
  | none =>
    let (pattern, scope) ← form.meaning.run {}
    return (pattern, scope.edges)

/-- What is told about a pattern that takes too much memory. -/
def tooHeavyMessage : String :=
  "Compiled regex exceeds size limit of " ++ toString weightLimit ++ " bytes."

/-- The pattern that a text writes, or what is told about a text that writes none. -/
def parse (text : String) : Except String Pattern :=
  match ofText text with
  | .error fault => .error (fault.message text)
  | .ok (pattern, edges) =>
    if pattern.tooHeavy false then .error tooHeavyMessage
    else if edges then .error "error building NFA"
    else if pattern.tooHeavy true then .error tooHeavyMessage
    else .ok pattern

end Formula.Pattern
