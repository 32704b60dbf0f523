import Formula.Text.Lines

/-! Why a text is not taken as a pattern, and how that is told: under the text, with the characters
at fault pointed out.  A text of several lines is shown with their numbers. -/

namespace Formula.Pattern

/-- What is wrong with a pattern. -/
inductive Reason where
  | classEscapeInvalid
  | classRangeInvalid
  | classRangeLiteral
  | classUnclosed
  | decimalInvalid
  | escapeHexEmpty
  | escapeHexInvalid
  | escapeHexInvalidDigit
  | escapeUnexpectedEnd
  | escapeUnrecognized
  | flagDanglingNegation
  | flagDuplicate
  | flagRepeatedNegation
  | flagUnexpectedEnd
  | flagUnrecognized
  | groupNameDuplicate
  | groupNameEmpty
  | groupNameInvalid
  | groupNameUnexpectedEnd
  | groupUnclosed
  | groupUnopened
  | repetitionCountInvalid
  | repetitionCountEmpty
  | repetitionCountUnclosed
  | repetitionMissing
  | propertyInvalid
  | backreference
  | lookAround
  | edgeUnclosed
  | edgeUnrecognized
  | edgeUnexpectedEnd
  | nestTooDeep
  /-- A set that may hold a part of a character. -/
  | partialCharacter
  /-- A character that is not ASCII where only those may stand. -/
  | beyondAscii
  | propertyNotFound
  | propertyValueNotFound
  | classNotFound
  | caseUnavailable

def Reason.message : Reason → String
  | .classEscapeInvalid => "invalid escape sequence found in character class"
  | .classRangeInvalid => "invalid character class range, the start must be <= the end"
  | .classRangeLiteral => "invalid range boundary, must be a literal"
  | .classUnclosed => "unclosed character class"
  | .decimalInvalid => "decimal literal invalid"
  | .escapeHexEmpty => "hexadecimal literal empty"
  | .escapeHexInvalid => "hexadecimal literal is not a Unicode scalar value"
  | .escapeHexInvalidDigit => "invalid hexadecimal digit"
  | .escapeUnexpectedEnd => "incomplete escape sequence, reached end of pattern prematurely"
  | .escapeUnrecognized => "unrecognized escape sequence"
  | .flagDanglingNegation => "dangling flag negation operator"
  | .flagDuplicate => "duplicate flag"
  | .flagRepeatedNegation => "flag negation operator repeated"
  | .flagUnexpectedEnd => "expected flag but got end of regex"
  | .flagUnrecognized => "unrecognized flag"
  | .groupNameDuplicate => "duplicate capture group name"
  | .groupNameEmpty => "empty capture group name"
  | .groupNameInvalid => "invalid capture group character"
  | .groupNameUnexpectedEnd => "unclosed capture group name"
  | .groupUnclosed => "unclosed group"
  | .groupUnopened => "unopened group"
  | .repetitionCountInvalid => "invalid repetition count range, the start must be <= the end"
  | .repetitionCountEmpty => "repetition quantifier expects a valid decimal"
  | .repetitionCountUnclosed => "unclosed counted repetition"
  | .repetitionMissing => "repetition operator missing expression"
  | .propertyInvalid => "invalid Unicode character class"
  | .backreference => "backreferences are not supported"
  | .lookAround => "look-around, including look-ahead and look-behind, is not supported"
  | .edgeUnclosed =>
    "special word boundary assertion is either unclosed or contains an invalid character"
  | .edgeUnrecognized =>
    "unrecognized special word boundary assertion, valid choices are: " ++
      "start, end, start-half or end-half"
  | .edgeUnexpectedEnd =>
    "found either the beginning of a special word boundary or a bounded repetition on a \\b " ++
      "with an opening brace, but no closing brace"
  | .nestTooDeep => "exceed the maximum number of nested parentheses/brackets (250)"
  | .partialCharacter => "pattern can match invalid UTF-8"
  | .beyondAscii => "Unicode not allowed here"
  | .propertyNotFound => "Unicode property not found"
  | .propertyValueNotFound => "Unicode property value not found"
  | .classNotFound =>
    "Unicode-aware Perl class not found (make sure the unicode-perl feature is enabled)"
  | .caseUnavailable =>
    "Unicode-aware case insensitivity matching is not available " ++
      "(make sure the unicode-case feature is enabled)"

/-- Some characters of a text: those from `first` on that come before `past`.  There may be none. -/
structure Span where
  first : Nat
  past : Nat

/-- A reason with the characters at fault, after those that they repeat, if they do. -/
structure Fault where
  spans : List Span
  reason : Reason

/-- A line with marks under the characters of spans, one mark at least for each, after `written`
characters. -/
def underline (written : Nat) : List Span → String
  | [] => ""
  | span :: rest =>
    let marks := max 1 (span.past - span.first)
    Text.spaces (span.first - written) ++ String.ofList (List.replicate marks '^') ++
      underline (max written span.first + marks) rest

/-- The line and the column of a place in a text, both counted from zero. -/
def lineColumn (cs : List Char) (place : Nat) : Nat × Nat :=
  let before := cs.take place
  (before.count '\n', (before.reverse.takeWhile (· ≠ '\n')).length)

/-- The columns of a span in a line of a text, if the span is within that line. -/
def columnsIn? (cs : List Char) (line : Nat) (span : Span) : Option Span :=
  let (first, column) := lineColumn cs span.first
  let (last, past) := lineColumn cs span.past
  if first = line && last = line then some ⟨column, past⟩ else none

/-- What is told about a span that is not within one line. -/
def acrossLines? (cs : List Char) (span : Span) : Option String :=
  let (first, column) := lineColumn cs span.first
  let (last, past) := lineColumn cs span.past
  if first = last then none
  else some ("on line " ++ toString (first + 1) ++ " (column " ++ toString (column + 1) ++
    ") through line " ++ toString (last + 1) ++ " (column " ++ toString past ++ ")\n")

/-- The lines of a text behind a margin, each with the spans in it pointed out on a line of its own;
`width` is that of the margin. -/
def annotated (cs : List Char) (width : Nat) (margin : Nat → String) (spans : List Span) : String :=
  String.join ((Text.lines cs).zipIdx.map fun (line, i) =>
    let here := spans.filterMap (columnsIn? cs i)
    margin i ++ String.ofList line ++ "\n" ++
      if here.isEmpty then "" else Text.spaces width ++ underline 0 here ++ "\n")

/-- A text of several lines between two rules, its lines with their numbers.  A line feed at the end
counts as the start of another line. -/
def numbered (cs : List Char) (spans : List Span) : String :=
  let count := (Text.lines cs).length + if cs.getLast? = some '\n' then 1 else 0
  let width := (toString count).length
  let rule := String.ofList (List.replicate 79 '~') ++ "\n"
  let margin (i : Nat) :=
    let number := toString (i + 1)
    Text.spaces (width - number.length) ++ number ++ ": "
  rule ++ annotated cs (width + 2) margin spans ++ rule ++
    String.join (spans.filterMap (acrossLines? cs))

/-- What is told about a fault in a pattern. -/
def Fault.message (pattern : String) (fault : Fault) : String :=
  let cs := pattern.toList
  "regex parse error:\n" ++
    (if cs.contains '\n' then numbered cs fault.spans
      else annotated cs 4 (fun _ => Text.spaces 4) fault.spans) ++
    "error: " ++ fault.reason.message

end Formula.Pattern
