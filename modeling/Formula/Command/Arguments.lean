import Formula.Bindings
import Formula.Command.Size
import Formula.Grammar.Settings
import Formula.Text.Plain

/-! The arguments of the command line, read from left to right.  An option that takes a value as a
separate argument holds it back: the value is read only when the next option or the expression
begins, or at the end, so an argument that is not known at all is told first. -/

namespace Formula.Command

/-- How a tree is printed. -/
inductive OutputMode where
  | text
  | json
  | outline
deriving DecidableEq

def OutputMode.name : OutputMode → String
  | .text => "Text"
  | .json => "Json"
  | .outline => "Outline"

/-- What `parse` is asked to do. -/
structure ParseOptions where
  bindings : Bindings
  settings : Settings
  mode : OutputMode

/-- The two commands. -/
inductive Task where
  | parse (options : ParseOptions)
  | tokens

/-- A command with the expression it is given, if any, and how much the log is to tell. -/
structure Invocation where
  verbose : Nat
  task : Task
  expression : Option String

/-- What the arguments ask for. -/
inductive Request where
  | help
  | version
  | invoke (invocation : Invocation)

/-- Options of `parse` that are given or not. -/
inductive Flag where
  | json
  | outline
  | rightAssocPower
  | indexedLetters
deriving DecidableEq

def Flag.all : List Flag := [.json, .outline, .rightAssocPower, .indexedLetters]

def Flag.name : Flag → String
  | .json => "json"
  | .outline => "outline"
  | .rightAssocPower => "right-assoc-power"
  | .indexedLetters => "indexed-letters"

/-- Options of `parse` that take a value. -/
inductive Setting where
  | var
  | maxDepth
  | maxTreeDepth
deriving DecidableEq

def Setting.all : List Setting := [.var, .maxDepth, .maxTreeDepth]

def Setting.name : Setting → String
  | .var => "var"
  | .maxDepth => "max-depth"
  | .maxTreeDepth => "max-tree-depth"

/-- How messages name the value of an option. -/
def Setting.placeholder : Setting → String
  | .var => "<NAME=VALUE>"
  | .maxDepth => "<N>"
  | .maxTreeDepth => "<N>"

/-- All options. -/
inductive Switch where
  | verbose
  | help
  | version
  | flag (f : Flag)
  | setting (s : Setting)
deriving DecidableEq

namespace Switch

def name : Switch → String
  | .verbose => "verbose"
  | .help => "help"
  | .version => "version"
  | .flag f => f.name
  | .setting s => s.name

/-- How messages show an option. -/
def text : Switch → String
  | .verbose => "--verbose..."
  | .setting s => "--" ++ s.name ++ " " ++ s.placeholder
  | switch => "--" ++ switch.name

/-- The letter that also names an option. -/
def letter? : Switch → Option Char
  | .verbose => some 'v'
  | .help => some 'h'
  | .version => some 'V'
  | _ => none

end Switch

/-- Why arguments are refused. -/
inductive UsageError where
  | unknownArgument (argument : String)
  | unknownSubcommand (name : String)
  | missingSubcommand
  | noArguments
  | invalidValue (value : String) (setting : Setting) (reason : String)
  | missingValue (setting : Setting)
  | unneededValue (value : String) (switch : Switch)
  | repeated (switch : Switch)
  | conflict (first second : Switch)

namespace UsageError

open Text (marked plain)

/-- What the program is for, which it tells when it is given no arguments. -/
def purpose : String := "Parse mathematical expressions into expression trees"

/-- What is wrong, in the words and colours for a terminal.  What an argument says is marked; the
reason that a value is refused for is not. -/
def notice : UsageError → String
  | .unknownArgument argument => "error: unexpected argument '" ++ marked argument ++ "' found"
  | .unknownSubcommand name => "error: unrecognized subcommand '" ++ marked name ++ "'"
  | .missingSubcommand => "error: 'mathex' requires a subcommand but one was not provided"
  | .noArguments => purpose
  | .invalidValue value setting reason =>
    "error: invalid value '" ++ marked value ++ "' for '" ++ (Switch.setting setting).text ++
      "': " ++ reason
  | .missingValue setting =>
    "error: a value is required for '" ++ (Switch.setting setting).text ++ "' but none was supplied"
  | .unneededValue value switch =>
    "error: unexpected value '" ++ marked value ++ "' for '" ++ switch.text ++
      "' found; no more were expected"
  | .repeated switch => "error: the argument '" ++ switch.text ++ "' cannot be used multiple times"
  | .conflict first second =>
    "error: the argument '" ++ first.text ++ "' cannot be used with '" ++ second.text ++ "'"

/-- Where to read more, which stands after every notice. -/
def advice : String := "\n\nFor more information, try '" ++ marked "--help" ++ "'.\n"

/-- What is told about arguments that are refused. -/
def message (e : UsageError) : String := plain (e.notice ++ advice)

end UsageError

/-- One more, up to the largest count that is kept. -/
def countOne (n : Nat) : Nat := min 255 (n + 1)

/-- The name and the attached value of an argument that starts with two dashes. -/
def longParts? (argument : String) : Option (String × Option String) :=
  match argument.toList with
  | '-' :: '-' :: c :: rest =>
    match (c :: rest).span (· ≠ '=') with
    | (name, []) => some (String.ofList name, none)
    | (name, _ :: value) => some (String.ofList name, some (String.ofList value))
  | _ => none

/-- The letters of an argument that starts with one dash. -/
def shortParts? (argument : String) : Option (List Char) :=
  match argument.toList with
  | '-' :: c :: rest => if c = '-' then none else some (c :: rest)
  | _ => none

/-- What has been read of the arguments of a command. -/
structure Draft where
  verbose : Option Nat := none
  expression : Option String := none
  pairs : List (String × Double) := []
  maxDepth : Option Nat := none
  maxTreeDepth : Option Nat := none
  /-- The flags given, in order. -/
  flags : List Flag := []
  /-- An option whose value is still to be given or still to be read. -/
  pending : Option (Setting × Option String) := none

namespace Draft

/-- The size that an option is given. -/
def size (setting : Setting) (value : String) : Except UsageError Nat :=
  (readSize value).mapError fun e => .invalidValue value setting e.message

/-- Gives an option its value; those that state a size may be given once only. -/
def assign (d : Draft) (setting : Setting) (value : String) : Except UsageError Draft := do
  match setting with
  | .var =>
    let pair ← (parseBinding value).mapError fun e => .invalidValue value setting e.message
    return { d with pairs := d.pairs ++ [pair] }
  | .maxDepth =>
    if d.maxDepth.isSome then throw (.repeated (.setting setting))
    return { d with maxDepth := some (← size setting value) }
  | .maxTreeDepth =>
    if d.maxTreeDepth.isSome then throw (.repeated (.setting setting))
    return { d with maxTreeDepth := some (← size setting value) }

/-- Reads the value that is held back, if any. -/
def settle (d : Draft) : Except UsageError Draft :=
  match d.pending with
  | none => .ok d
  | some (setting, none) => .error (.missingValue setting)
  | some (setting, some value) => { d with pending := none }.assign setting value

/-- Takes the expression, of which there is one at most. -/
def positional (d : Draft) (argument : String) : Except UsageError Draft := do
  match d.expression with
  | some _ => throw (.unknownArgument argument)
  | none => return { (← d.settle) with expression := some argument }

/-- Takes an option without a value attached to it; none if it asks for help. -/
def take (d : Draft) (switch : Switch) : Except UsageError (Option Draft) := do
  let d ← d.settle
  match switch with
  | .verbose => return some { d with verbose := some (countOne (d.verbose.getD 0)) }
  | .flag f =>
    if d.flags.contains f then throw (.repeated switch)
    return some { d with flags := d.flags ++ [f] }
  | .setting s => return some { d with pending := some (s, none) }
  | .help => return none
  | .version => return none

/-- Takes the options that letters name, one after the other. -/
def takeLetters (switches : List Switch) (d : Draft) : List Char → Except UsageError (Option Draft)
  | [] => .ok (some d)
  | c :: rest =>
    match switches.find? (·.letter? = some c) with
    | none => .error (.unknownArgument ("-" ++ c.toString))
    | some switch => do
      match ← d.take switch with
      | none => return none
      | some d => takeLetters switches d rest

/-- Takes an option by its name, with the value attached to it, if any. -/
def takeNamed (switches : List Switch) (d : Draft) (name : String) (value : Option String) :
    Except UsageError (Option Draft) := do
  match switches.find? (·.name = name), value with
  | none, _ => throw (.unknownArgument ("--" ++ name))
  | some (.setting s), some value => return some (← (← d.settle).assign s value)
  | some switch, some value => throw (.unneededValue value switch)
  | some switch, none => d.take switch

/-- Takes an argument before `--`: an option, the value of one, or the expression. -/
def argument (switches : List Switch) (d : Draft) (argument : String) :
    Except UsageError (Option Draft) := do
  match longParts? argument, shortParts? argument, d.pending with
  | some (name, value), _, _ => d.takeNamed switches name value
  | none, some letters, _ => d.takeLetters switches letters
  | none, none, some (setting, none) =>
    return some { d with pending := some (setting, some argument) }
  | none, none, _ => return some (← d.positional argument)

/-- Reads the arguments of a command, which end with the last value that is held back; none if they
ask for help.  After `--` no argument is an option. -/
def read (switches : List Switch) : (trailing : Bool) → Draft → List String →
    Except UsageError (Option Draft)
  | _, d, [] => do return some (← d.settle)
  | true, d, arg :: rest => do read switches true (← d.positional arg) rest
  | false, d, arg :: rest =>
    if arg = "--" then read switches true d rest
    else do
      match ← d.argument switches arg with
      | none => return none
      | some d => read switches false d rest

/-- The settings that were given, with the defaults for the others. -/
def settings (d : Draft) : Settings :=
  let default : Settings := {}
  { maxDepth := d.maxDepth.getD default.maxDepth
    maxTreeDepth := d.maxTreeDepth.getD default.maxTreeDepth
    power := if d.flags.contains .rightAssocPower then .right else .left
    indexedLetters := d.flags.contains .indexedLetters }

/-- What `parse` is asked to do; a tree is printed in one way only. -/
def parseOptions (d : Draft) : Except UsageError ParseOptions :=
  match d.flags.filter (fun f => f = .json || f = .outline) with
  | [] => .ok ⟨.ofList d.pairs, d.settings, .text⟩
  | [.json] => .ok ⟨.ofList d.pairs, d.settings, .json⟩
  | [_] => .ok ⟨.ofList d.pairs, d.settings, .outline⟩
  | first :: second :: _ => .error (.conflict (.flag first) (.flag second))

end Draft

/-- The options that `parse` knows. -/
def parseSwitches : List Switch :=
  [.verbose, .help] ++ Flag.all.map .flag ++ Setting.all.map .setting

/-- The options that `tokens` knows. -/
def tokensSwitches : List Switch := [.verbose, .help]

/-- The options that stand before a command. -/
def leadingSwitches : List Switch := [.verbose, .help, .version]

/-- What the arguments after `parse` ask for.  A count of `-v` here replaces the one before. -/
def readParse (verbose : Nat) (args : List String) : Except UsageError Request := do
  match ← Draft.read parseSwitches false {} args with
  | none => return .help
  | some d => return .invoke ⟨d.verbose.getD verbose, .parse (← d.parseOptions), d.expression⟩

/-- What the arguments after `tokens` ask for.  A count of `-v` here replaces the one before. -/
def readTokens (verbose : Nat) (args : List String) : Except UsageError Request := do
  match ← Draft.read tokensSwitches false {} args with
  | none => return .help
  | some d => return .invoke ⟨d.verbose.getD verbose, .tokens, d.expression⟩

/-- Reads the letters of options before a command: the count of `-v`, or what else they ask for. -/
def leadingLetters (verbose : Nat) : List Char → Except UsageError (Nat ⊕ Request)
  | [] => .ok (.inl verbose)
  | c :: rest =>
    match leadingSwitches.find? (·.letter? = some c) with
    | some .verbose => leadingLetters (countOne verbose) rest
    | some .help => .ok (.inr .help)
    | some .version => .ok (.inr .version)
    | _ => .error (.unknownArgument ("-" ++ c.toString))

/-- Reads an option before a command by its name. -/
def leadingNamed (verbose : Nat) (name : String) (value : Option String) :
    Except UsageError (Nat ⊕ Request) :=
  match leadingSwitches.find? (·.name = name), value with
  | none, _ => .error (.unknownArgument ("--" ++ name))
  | some switch, some value => .error (.unneededValue value switch)
  | some .help, none => .ok (.inr .help)
  | some .version, none => .ok (.inr .version)
  | some _, none => .ok (.inl (countOne verbose))

/-- The commands by their names. -/
def commandNames : List String := ["parse", "tokens", "help"]

/-- What arguments after `--` ask for when no command was given: the name of a command comes too
late there. -/
def readTrailing (verbose : Nat) : List String → UsageError
  | [] => if verbose = 0 then .noArguments else .missingSubcommand
  | arg :: _ =>
    if commandNames.contains arg then .unknownArgument arg else .unknownSubcommand arg

/-- What arguments after `help` ask for: no more than the name of one command can follow it. -/
def readHelp : List String → Except UsageError Request
  | [] => .ok .help
  | [name] => if commandNames.contains name then .ok .help else .error (.unknownSubcommand name)
  | name :: second :: _ =>
    .error (.unknownSubcommand (if commandNames.contains name then second else name))

/-- What arguments ask for, after `verbose` times `-v`. -/
def readArguments (verbose : Nat) : List String → Except UsageError Request
  | [] => .error (readTrailing verbose [])
  | arg :: rest =>
    if arg = "parse" then readParse verbose rest
    else if arg = "tokens" then readTokens verbose rest
    else if arg = "help" then readHelp rest
    else if arg = "--" then .error (readTrailing verbose rest)
    else do
      let leading ← match longParts? arg, shortParts? arg with
        | some (name, value), _ => leadingNamed verbose name value
        | none, some letters => leadingLetters verbose letters
        | none, none => throw (.unknownSubcommand arg)
      match leading with
      | .inl verbose => readArguments verbose rest
      | .inr request => return request

end Formula.Command
