import Formula.Command.Log
import Formula.Command.Run

/-! The whole program as a function of its arguments and its input. -/

namespace Formula.Command

/-- What the program leaves behind.  What it prints is kept one entry for each write. -/
structure Ending where
  code : Nat
  output : List String
  messages : String

/-- The first line of a text. -/
def firstLine (text : String) : String := String.ofList (text.toList.takeWhile (· ≠ '\n'))

/-- What is printed for the version. -/
def versionText : String := "mathex 0.1.0\n"

/-- What is printed for help. -/
def helpText : String :=
  UsageError.purpose ++ "\n\nUsage: mathex [OPTIONS] <COMMAND>\n\nCommands:\n" ++
    "  parse   Parse an expression and print its tree\n" ++
    "  tokens  Print the tokens of an expression, one per line\n"

/-- The ending of a run that failed to read its input. -/
def unreadable : Report :=
  ⟨[], [], some (.transfer "failed to read from stdin: stream did not contain valid UTF-8")⟩

/-- The report of an invocation: on its expression, or on all of the input if it has none. -/
def Invocation.report (i : Invocation) (writer : Writer) (input : ByteArray) : Report :=
  match i.expression with
  | some source => i.task.run writer source
  | none =>
    match String.fromUTF8? input with
    | some source => i.task.run writer source
    | none => unreadable

/-- The exit code of a report. -/
def Report.code (r : Report) : Nat :=
  match r.failure with
  | none => 0
  | some failure => failure.exitCode

/-- What is told after a run, when more than the least is to be told. -/
def closingNote (verbose code : Nat) : String :=
  if verbose = 0 then "" else "note: finished with exit code " ++ code.repr ++ "\n"

/-- The ending of an invocation.  A specification of the log given by the environment replaces the
one that the count of `-v` stands for. -/
def Invocation.ending (i : Invocation) (writer : Writer) (input : ByteArray)
    (logSpec : Option String) : Ending :=
  let report := i.report writer input
  let spec := logSpec.getD (defaultSpecification i.verbose)
  { code := report.code
    output := report.written
    messages := logText spec report.events ++
      (match report.failure with
        | none => ""
        | some failure => failure.report) ++
      closingNote i.verbose report.code }

/-- The ending of a run that prints one text about the program and does nothing else, not even mind
that the text cannot be written. -/
def telling (text : String) (writer : Writer) : Ending :=
  ⟨0, if writer.accepts 0 then [text] else [], ""⟩

/-- The ending of the program. -/
def program (args : List String) (writer : Writer) (input : ByteArray) (logSpec : Option String) :
    Ending :=
  match readArguments 0 args with
  | .error e => ⟨2, [], firstLine e.message⟩
  | .ok .help => telling helpText writer
  | .ok .version => telling versionText writer
  | .ok (.invoke i) => i.ending writer input logSpec

end Formula.Command
