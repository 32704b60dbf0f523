import Formula.Command.Arguments
import Formula.Source
import Formula.Tree.Document
import Formula.Tree.Visit

/-! The two commands, as functions of the source and of a writer that may fail. -/

namespace Formula.Command

/-- Where output goes: the first `capacity` writes are taken whole, all of them if there is no
capacity, and the ones after that fail for a reason. -/
structure Writer where
  capacity : Option Nat
  reason : String

/-- Whether a write succeeds after `done` others. -/
def Writer.accepts (w : Writer) (done : Nat) : Bool := w.capacity.all (done < ·)

/-- Why a command fails. -/
inductive Failure where
  /-- The source is no expression; the report shows where. -/
  | source (report : String)
  /-- Reading or writing fails. -/
  | transfer (message : String)
deriving DecidableEq

namespace Failure

def exitCode : Failure → Nat
  | .source _ => 1
  | .transfer _ => 2

/-- What a failure carries: a report or a message. -/
def text : Failure → String
  | .source report => report
  | .transfer message => message

/-- What is printed about a failure. -/
def report : Failure → String
  | .source report => report ++ "\n"
  | .transfer message => "error: " ++ message ++ "\n"

end Failure

/-- The failure of a write. -/
def Writer.failure (w : Writer) : Failure := .transfer ("failed to write output: " ++ w.reason)

/-- What a command leaves behind: what it wrote, one entry for each write, what it did, and why it
failed if it did. -/
structure Report where
  written : List String
  events : List Event
  failure : Option Failure
deriving DecidableEq

/-- The line for a token. -/
def tokenLine (t : Token) : String := t.location.text ++ "\t" ++ t.kind.text ++ "\n"

/-- Writes a line for each token after `done` others, up to the first item that is none. -/
def listItems (writer : Writer) (source : String) (done : Nat) : List Lexer.Item → Report
  | [] => ⟨[], [], none⟩
  | .error e :: _ => ⟨[], [.noToken e], some (.source (e.diagnostic.render source))⟩
  | .ok t :: rest =>
    if writer.accepts done then
      let report := listItems writer source (done + 1) rest
      ⟨tokenLine t :: report.written, .lexed t :: report.events, report.failure⟩
    else ⟨[], [.lexed t], some writer.failure⟩

/-- The command `tokens`. -/
def runTokens (writer : Writer) (source : String) : Report :=
  listItems writer source 0 (Lexer.items source)

/-- The text that `parse` prints for a tree. -/
def OutputMode.print (mode : OutputMode) (t : Tree) : String :=
  match mode with
  | .text => t.render ++ "\n"
  | .json => t.document ++ "\n"
  | .outline => t.outline 2

/-- What is told about the letters that a tree has left. -/
def lettersLeft (t : Tree) : List Event :=
  if t.letters.isEmpty then [] else [.unboundLetters t.letters]

/-- The command `parse`, which writes once if there is a tree. -/
def runParse (options : ParseOptions) (writer : Writer) (source : String) : Report :=
  match Source.run options.settings options.bindings source with
  | (.error e, events) => ⟨[], events, some (.source (e.diagnostic.render source))⟩
  | (.ok none, events) => ⟨[], events ++ [.emptyInput], none⟩
  | (.ok (some t), events) =>
    if writer.accepts 0 then ⟨[options.mode.print t], events ++ lettersLeft t, none⟩
    else ⟨[], events ++ lettersLeft t, some writer.failure⟩

/-- A command on a source. -/
def Task.run (task : Task) (writer : Writer) (source : String) : Report :=
  match task with
  | .parse options => runParse options writer source
  | .tokens => runTokens writer source

end Formula.Command
