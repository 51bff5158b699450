/-
ScriptSyntax.Main — the program on real files and streams.

Everything that is decided is decided in `ScriptSyntax.CommandLine`; this
module reads the file, looks at the clock, and writes.
-/
import ScriptSyntax.CommandLine

namespace ScriptSyntax.Main

/-- The reason for which the system refused to read a file. -/
def failureOf : IO.Error → ReadFailure
  | .noFileOrDirectory .. => .missing
  | .inappropriateType (some _) .. => .notDirectory
  | .inappropriateType none .. => .isDirectory
  | error => .other (toString error)

/-- The bytes of a file. -/
def readBytes (path : String) : IO (Except ReadFailure ByteArray) := do
  try
    return .ok (← IO.FS.readBinFile path)
  catch error =>
    return .error (failureOf error)

/-- Writes both streams, and answers with the exit code. -/
def finish (outcome : CommandLine.Outcome) : IO UInt32 := do
  IO.print outcome.stdout
  IO.eprint outcome.stderr
  return UInt32.ofNat outcome.code

/-- Lists the tokens of the file that the arguments name. -/
def runProgram (args : List String) : IO UInt32 := do
  match CommandLine.parse args with
  | .list options =>
    match CommandLine.decode (← readBytes options.file) with
    | .error failure => finish (CommandLine.unreadable options.file failure)
    | .ok text =>
      let before ← IO.monoNanosNow
      let tokens ← IO.lazyPure fun _ => options.tokens text
      let after ← IO.monoNanosNow
      finish (options.outcome (toString (after - before) ++ "ns") tokens)
  | command => finish command.reply

end ScriptSyntax.Main

/-- The program. -/
def main (args : List String) : IO UInt32 :=
  ScriptSyntax.Main.runProgram args
