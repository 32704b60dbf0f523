import Formula.Event
import Formula.Pattern.Parser
import Formula.Text.Plain

/-! Which events the log shows, and how.  A specification is a list of parts divided by commas: a
level for all targets, `name=level` for the targets whose names start with `name`, or a name alone
for all that they tell.  The longest name that fits decides.  After a slash a pattern may follow,
which has to occur in what is told. -/

namespace Formula.Command

/-- A part of a specification: a level, none for nothing at all, for the targets of a name. -/
structure Directive where
  name : Option String
  level : Option Level

/-- The levels by their names, in any case. -/
def levelOf? (word : List Char) : Option (Option Level) :=
  let upper := String.ofList (word.map Char.toUpper)
  if upper = "OFF" then some none
  else (Level.all.find? (·.name = upper)).map some

/-- Cuts a text at every occurrence of a character. -/
def cut (mark : Char) : List Char → List (List Char)
  | [] => [[]]
  | c :: rest =>
    match cut mark rest with
    | part :: parts => if c = mark then [] :: part :: parts else (c :: part) :: parts
    | [] => []

/-- The directive that a part states, or the words that make no sense. -/
def directive (part : List Char) : Except (List Char) Directive :=
  match cut '=' part with
  | [word] =>
    match levelOf? word with
    | some level => .ok ⟨none, level⟩
    | none => .ok ⟨some (String.ofList word), some .trace⟩
  | [name, word] =>
    let word := Text.trim word
    if word.isEmpty then .ok ⟨some (String.ofList name), some .trace⟩
    else
      match levelOf? word with
      | some level => .ok ⟨some (String.ofList name), level⟩
      | none => .error word
  | _ => .error part

/-- What a specification says, and what in it makes no sense. -/
structure Specification where
  directives : List Directive
  pattern : Option Pattern
  problems : List String

/-- Adds a directive, which takes the place of an earlier one for the same name. -/
def addDirective (directives : List Directive) (d : Directive) : List Directive :=
  if directives.any (·.name = d.name) then
    directives.map fun earlier => if earlier.name = d.name then d else earlier
  else directives ++ [d]

/-- The problem with a text that is none of the parts a specification has. -/
def notSpecified (text : List Char) : String :=
  "invalid logging spec '" ++ String.ofList text ++ "'"

/-- The parts of a specification before the pattern. -/
def readDirectives (text : List Char) : List Directive × List String :=
  let parts := ((cut ',' text).map Text.trim).filter (!·.isEmpty)
  parts.foldl (fun (directives, problems) part =>
    match directive part with
    | .ok d => (addDirective directives d, problems)
    | .error word => (directives, problems ++ [notSpecified word])) ([], [])

/-- Reads a specification.  One with two slashes says nothing. -/
def specification (text : String) : Specification :=
  match cut '/' text.toList with
  | [parts] =>
    let (directives, problems) := readDirectives parts
    ⟨directives, none, problems⟩
  | [parts, pattern] =>
    let (directives, problems) := readDirectives parts
    match Pattern.parse (String.ofList pattern) with
    | .ok pattern => ⟨directives, some pattern, problems⟩
    | .error reason => ⟨directives, none, problems ++ ["invalid regex filter - " ++ reason]⟩
  | _ => ⟨[], none, [notSpecified text.toList ++ " (too many '/'s)"]⟩

/-- The directive that decides about a target: of those that fit, the one with the longest name, and
the last of several. -/
def deciding? (directives : List Directive) (target : String) : Option Directive :=
  let size (d : Directive) : Nat := (d.name.getD "").length
  let fits := directives.filter fun d => (d.name.getD "").toList.isPrefixOf target.toList
  fits.foldl (fun best d =>
    match best with
    | none => some d
    | some b => if size b ≤ size d then some d else some b) none

/-- Whether directives let an event pass; without any, errors alone do. -/
def admits (directives : List Directive) (event : Event) : Bool :=
  let directives := if directives.isEmpty then [⟨none, some .error⟩] else directives
  match deciding? directives event.target with
  | some d => d.level.any fun level => event.level.rank ≤ level.rank
  | none => false

/-- Whether a specification shows an event. -/
def Specification.shows (spec : Specification) (event : Event) : Bool :=
  admits spec.directives event && spec.pattern.all (·.occursIn event.message)

/-- The specification that a count of `-v` stands for. -/
def defaultSpecification (verbose : Nat) : String :=
  match verbose with
  | 0 => "warn"
  | 1 => "info"
  | 2 => "debug"
  | _ => "trace"

/-- An event as a line of the log. -/
def logLine (event : Event) : String :=
  let level := event.level.name
  Text.plain ("[" ++ level ++ Text.spaces (5 - level.length) ++ " " ++ event.target ++ "] " ++
    event.message ++ "\n")

/-- What the log prints of some events: first what it ignores of its specification. -/
def logText (text : String) (events : List Event) : String :=
  let spec := specification text
  String.join (spec.problems.map fun problem => "warning: " ++ problem ++ ", ignoring it\n") ++
    String.join ((events.filter spec.shows).map logLine)

end Formula.Command
