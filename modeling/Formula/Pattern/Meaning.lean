import Formula.Pattern.Form

/-! What the forms of patterns mean.  Some of them take tables of all characters: letters in any
case, the classes of digits, spaces and words, properties, and the edges of words.  There are none,
so a pattern that asks for them is refused, unless it says that it means ASCII alone; and ASCII
alone must not leave a part of another character. -/

namespace Formula.Pattern

/-- How the parts of a pattern are meant. -/
structure Modes where
  anyCase : Bool := false
  /-- What stands for the start or the end of the text also stands for that of a line. -/
  lines : Bool := false
  /-- A point also stands for a line feed. -/
  pointForAll : Bool := false
  /-- Lines may also end with carriage returns. -/
  returns : Bool := false
  /-- Classes of characters hold ASCII characters alone. -/
  ascii : Bool := false

namespace Modes

/-- Switches a mode. -/
def switch (m : Modes) (on : Bool) (c : Char) : Modes :=
  if c = 'i' then { m with anyCase := on }
  else if c = 'm' then { m with lines := on }
  else if c = 's' then { m with pointForAll := on }
  else if c = 'R' then { m with returns := on }
  else if c = 'u' then { m with ascii := !on }
  else m

/-- Switches modes on, and those after a dash off. -/
def switchAll (m : Modes) (letters : List Char) : Modes :=
  let m := (letters.takeWhile (· ≠ '-')).foldl (·.switch true ·) m
  (letters.dropWhile (· ≠ '-')).foldl (·.switch false ·) m

end Modes

/-- The fault that some characters are. -/
def faulty {α : Type} (span : Span) (reason : Reason) : Except Fault α := .error ⟨[span], reason⟩

/-- The name of a property without what makes no difference: `is` before it, blanks, underscores and
dashes, the case of letters, and characters that are not ASCII. -/
def plainName (name : List Char) : List Char :=
  let lower := name.map Char.toLower
  let bare := if "is".toList.isPrefixOf lower then lower.drop 2 else lower
  bare.filter fun c => c ≤ '\x7f' && c ≠ ' ' && c ≠ '_' && c ≠ '-'

/-- Why there is no property of a name.  A few names are looked for as values of one. -/
def noProperty (name : List Char) : Reason :=
  if ["cf", "sc", "lc"].contains (String.ofList (plainName name)) then .propertyValueNotFound
  else .propertyNotFound

/-- The ASCII characters of the class that a letter stands for. -/
def letterClass (c : Char) : CharSet :=
  if c = 'd' then .range '0' '9'
  else if c = 's' then .ofRanges [('\t', '\r'), (' ', ' ')]
  else wordSet

/-- A character of a set of ASCII characters. -/
def asciiChar (letter : Letter) : Except Fault Char :=
  if letter.char ≤ '\x7f' then .ok letter.char
  else faulty letter.span (if letter.asByte then .partialCharacter else .beyondAscii)

def SetOperator.apply (a b : CharSet) : SetOperator → CharSet
  | .inter => .inter a b
  | .diff => a.diff b
  | .symmDiff => a.symmDiff b

namespace SetForm

mutual

/-- Whether a set has characters of its own, which are not in brackets within it. -/
def hasOwn : SetForm → Bool
  | .nothing _ | .brackets _ _ _ | .operation _ _ _ _ => false
  | .union _ items => anyHasOwn items
  | _ => true
termination_by structural form => form

/-- Whether one of several sets has characters of its own. -/
def anyHasOwn : List SetForm → Bool
  | [] => false
  | item :: items => item.hasOwn || anyHasOwn items
termination_by structural items => items

end

/-- Refuses a set with characters of its own, for which letters in any case are asked. -/
def refuseAnyCase (m : Modes) (set : SetForm) (span : Span) : Except Fault Unit :=
  if m.anyCase && set.hasOwn then faulty span .caseUnavailable else .ok ()

mutual

/-- The set of characters that a form means, among all characters. -/
def meaning (m : Modes) : SetForm → Except Fault CharSet
  | .nothing _ => .ok .none
  | .single letter => .ok (.single letter.char)
  | .range first last => .ok (.range first.char last.char)
  | .named span negated set =>
    if m.anyCase then faulty span .caseUnavailable
    else .ok (if negated then .complement set else set)
  | .lettered span _ => faulty span .classNotFound
  | .property span name => faulty span (noProperty name)
  | .brackets span negated body => do
    let set ← meaning m body
    refuseAnyCase m body span
    return if negated then .complement set else set
  | .union _ items => meanings m items
  | .operation _ op left right => do
    let a ← meaning m left
    let b ← meaning m right
    refuseAnyCase m right right.span
    refuseAnyCase m left left.span
    return op.apply a b
termination_by structural form => form

/-- The characters of several sets, among all characters. -/
def meanings (m : Modes) : List SetForm → Except Fault CharSet
  | [] => .ok .none
  | item :: items => do
    let set ← meaning m item
    let others ← meanings m items
    return .union set others
termination_by structural items => items

end

/-- A set with its letters in any case, if the modes say so. -/
def cased (m : Modes) (set : CharSet) : CharSet := if m.anyCase then .anyCase set else set

mutual

/-- The set of characters that a form means, among ASCII characters alone. -/
def asciiMeaning (m : Modes) : SetForm → Except Fault CharSet
  | .nothing _ => .ok .none
  | .single letter => return .single (← asciiChar letter)
  | .range first last => do
    let a ← asciiChar first
    let b ← asciiChar last
    return .range a b
  | .named span negated set =>
    if negated then faulty span .partialCharacter else .ok (cased m set)
  | .lettered span c => if c.isUpper then faulty span .partialCharacter else .ok (letterClass c)
  | .property span _ => faulty span .beyondAscii
  | .brackets span negated body => do
    let set ← asciiMeaning m body
    if negated then faulty span .partialCharacter else return cased m set
  | .union _ items => asciiMeanings m items
  | .operation _ op left right => do
    let a ← asciiMeaning m left
    let b ← asciiMeaning m right
    return op.apply (cased m a) (cased m b)
termination_by structural form => form

/-- The characters of several sets, among ASCII characters alone. -/
def asciiMeanings (m : Modes) : List SetForm → Except Fault CharSet
  | [] => .ok .none
  | item :: items => do
    let set ← asciiMeaning m item
    let others ← asciiMeanings m items
    return .union set others
termination_by structural items => items

end

end SetForm

/-- The modes at a place of a pattern, and whether it has asked for the edges of words before that
place.  Parts that are repeated no times do not ask. -/
structure Scope where
  modes : Modes := {}
  edges : Bool := false

abbrev Meaning := StateT Scope (Except Fault)

/-- The set that stands for a point. -/
def pointSet (m : Modes) : CharSet :=
  if m.pointForAll then .complement .none
  else if m.returns then .complement (.ofRanges [('\n', '\n'), ('\r', '\r')])
  else .complement (.single '\n')

/-- The condition on a place that an anchor writes. -/
def Anchor.look (m : Modes) : Anchor → Look
  | .lineStart =>
    if !m.lines then .textStart else if m.returns then .returnStart else .lineStart
  | .lineEnd => if !m.lines then .textEnd else if m.returns then .returnEnd else .lineEnd
  | .textStart => .textStart
  | .textEnd => .textEnd
  | .word edge => .word edge

/-- One pattern after the other. -/
def sequence : List Pattern → Pattern
  | [] => .empty
  | [p] => p
  | p :: rest => if p = .empty then sequence rest else .seq p (sequence rest)

/-- The characters of patterns that all match one character. -/
def charsOf? : List Pattern → Option CharSet
  | [] => some .none
  | .one set :: rest => (charsOf? rest).map (.union set)
  | _ => none

/-- One of several patterns, of which there is at least one. -/
def choice : List Pattern → Pattern
  | [] => .empty
  | [p] => p
  | p :: rest => .alt p (choice rest)

namespace Form

mutual

/-- The pattern that a form means. -/
def meaning : Form → Meaning Pattern
  | .empty _ => return .empty
  | .modes _ letters => do
    modify fun s => { s with modes := s.modes.switchAll letters }
    return .empty
  | .letter l => do
    let m := (← get).modes
    if m.ascii then
      if l.asByte && '\x7f' < l.char then faulty l.span .partialCharacter
      return .one (SetForm.cased m (.single l.char))
    else if m.anyCase then faulty l.span .caseUnavailable
    else return .one (.single l.char)
  | .point span => do
    let m := (← get).modes
    if m.ascii then faulty span .partialCharacter
    return .one (pointSet m)
  | .anchor _ a => do
    let m := (← get).modes
    match a with
    | .word _ => modify fun s => { s with edges := s.edges || !m.ascii }
    | _ => pure ()
    return .look (a.look m)
  | .set s => do
    let m := (← get).modes
    return .one (← if m.ascii then s.asciiMeaning m else s.meaning m)
  | .rep _ least most form => do
    let edges := (← get).edges
    let p ← meaning form
    if most = some 0 then modify fun s => { s with edges }
    return .rep p least most
  | .group _ kept letters form => do
    let outer := (← get).modes
    modify fun s => { s with modes := outer.switchAll letters }
    let p ← meaning form
    modify fun s => { s with modes := outer }
    return if kept then .keep p else p
  | .alt _ branches => do
    let ps ← meanings branches
    return match charsOf? ps with
      | some chars => .one chars
      | none => choice ps
  | .seq _ parts => return sequence (← meanings parts)
termination_by structural form => form

/-- The patterns that several forms mean, each after those before it. -/
def meanings : List Form → Meaning (List Pattern)
  | [] => return []
  | form :: forms => do
    let p ← meaning form
    let ps ← meanings forms
    return p :: ps
termination_by structural forms => forms

end

end Form

end Formula.Pattern
