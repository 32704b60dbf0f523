import Formula.Pattern.Form.Reader
import Formula.Text.Letter

/-! The start of a group in parentheses, which may give it a name or switch modes. -/

namespace Formula.Pattern

/-- The letters of modes. -/
def isMode (c : Char) : Bool := "imsUuRx".toList.contains c

/-- Reads letters of modes and a dash before those that are switched off, each with its place. -/
def modeLetters : (bound : Nat) → (seen : List (Char × Nat)) → Reader (List (Char × Nat))
  | 0, seen => return seen
  | bound + 1, seen => do
    match ← peek? with
    | none => refuseHere .flagUnexpectedEnd
    | some c =>
      let here ← place
      if c = ':' || c = ')' then
        match seen.getLast? with
        | some ('-', first) => refuse first (first + 1) .flagDanglingNegation
        | _ => return seen
      else if c ≠ '-' && !isMode c then refuseNext .flagUnrecognized
      else
        match seen.lookup c with
        | some first =>
          throw ⟨[⟨first, first + 1⟩, ⟨here, here + 1⟩],
            if c = '-' then .flagRepeatedNegation else .flagDuplicate⟩
        | none =>
          move 1
          modeLetters bound (seen ++ [(c, here)])

/-- Switches blanks and comments off or on as the letters of modes say, if they say so. -/
def switchSpace (letters : List Char) : Reader Unit := do
  if letters.contains 'x' then
    modify fun s => { s with spaced := !(letters.dropWhile (· ≠ '-')).contains 'x' }

/-- The characters that a name may have; it starts with a letter or an underscore. -/
def isNameChar (first : Bool) (c : Char) : Bool :=
  c = '_' || if first then Text.isLetter c
    else Text.isLetterOrNumber c || c = '.' || c = '[' || c = ']'

/-- Reads the name of a group and the bracket after it. -/
def groupName : Reader Unit := do
  let start ← place
  let rest := (← get).rest
  let name := rest.takeWhile (· ≠ '>')
  if rest.isEmpty then refuseHere .groupNameUnexpectedEnd
  match name with
  | c :: more =>
    if !isNameChar true c then refuseNext .groupNameInvalid
    move (1 + (more.takeWhile (isNameChar false)).length)
    if !more.all (isNameChar false) then refuseNext .groupNameInvalid
  | [] => pure ()
  if (← peek?).isNone then refuseHere .groupNameUnexpectedEnd
  let past ← place
  move 1
  if name.isEmpty then refuse start start .groupNameEmpty
  match (← get).names.lookup name with
  | some first => throw ⟨[first, ⟨start, past⟩], .groupNameDuplicate⟩
  | none => modify fun s => { s with names := (name, ⟨start, past⟩) :: s.names }

/-- The start of a group. -/
inductive Opening where
  /-- No more than modes for what follows. -/
  | modes (letters : List Char)
  | group (kept : Bool) (letters : List Char)

/-- Reads the start of a group. -/
def openGroup : Reader Opening := do
  let start ← place
  let _ ← advance
  if ← accept ["?=", "?!", "?<=", "?<!"] then refuse start (← place) .lookAround
  let inner ← place
  if ← accept ["?P<", "?<"] then
    groupName
    return .group true []
  if !(← accept ["?"]) then return .group true []
  if (← peek?).isNone then refuse start (start + 1) .groupUnclosed
  let letters := (← modeLetters ((← get).rest.length + 1) []).map (·.1)
  let closed := (← peek?) = some ')'
  move 1
  if closed && letters.isEmpty then refuse inner inner .repetitionMissing
  switchSpace letters
  return if closed then .modes letters else .group false letters

end Formula.Pattern
