import Formula.Command.Program

/-! The command line: reads the input if it is needed, writes what the program prints, and returns
its exit code.  A write that fails is told to the program, which decides what follows from it. -/

namespace Formula.Command

/-- All bytes that are left of a stream. -/
partial def readAll (stream : IO.FS.Stream) (bytes : ByteArray) : IO ByteArray := do
  let more ← stream.read 65536
  if more.isEmpty then return bytes else readAll stream (bytes ++ more)

/-- The reason for a failed write, with the number that the system gives it. -/
def reasonOf : IO.Error → String
  | .resourceExhausted _ code details => details ++ " (os error " ++ code.toNat.repr ++ ")"
  | .resourceVanished code details => details ++ " (os error " ++ code.toNat.repr ++ ")"
  | e => e.toString

/-- Writes texts one by one; if one fails, how many went before it and why. -/
def writeAll (stream : IO.FS.Stream) (done : Nat) : List String → IO (Option (Nat × String))
  | [] => return none
  | text :: rest => do
    let failed ← try
        stream.putStr text
        stream.flush
        pure none
      catch e => pure (some (done, reasonOf e))
    match failed with
    | some failure => return some failure
    | none => writeAll stream (done + 1) rest

/-- Whether the arguments leave the expression to the input. -/
def needsInput (args : List String) : Bool :=
  match readArguments 0 args with
  | .ok (.invoke i) => i.expression.isNone
  | _ => false

/-- Runs the program on its arguments, its input and the environment. -/
def start (args : List String) : IO UInt32 := do
  let input ← if needsInput args then readAll (← IO.getStdin) .empty else pure .empty
  let logSpec ← IO.getEnv "RUST_LOG"
  let ending := program args ⟨none, ""⟩ input logSpec
  let ending ← match ← writeAll (← IO.getStdout) 0 ending.output with
    | none => pure ending
    | some (done, reason) => pure (program args ⟨some done, reason⟩ input logSpec)
  IO.eprint ending.messages
  return .ofNat ending.code

end Formula.Command

/-- The entry point. -/
def main (args : List String) : IO UInt32 := Formula.Command.start args
