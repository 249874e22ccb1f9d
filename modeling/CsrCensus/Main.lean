import CsrCensus.Command.Arguments
import CsrCensus.Command.Run
import CsrCensus.Log.Filter

/-!
# The command line

Runs a command on the files of the system. Reports and listings go to files or
to standard output, log records and failures to standard error.
-/

namespace CsrCensus.Command

/-- Commands run with a log filter. -/
abbrev Shell := ReaderT Log.Filter IO

/-- The number of an error of the system. Some calls give it with the opposite
sign. -/
private def errorNumber (code : UInt32) : Nat :=
  if code < 0x80000000 then code.toNat else (0 - code).toNat

/-- The fault behind an error of the system. -/
private def faultOf (error : IO.Error) : Files.Fault :=
  let ofNumber (code : UInt32) : Files.Fault :=
    match errorNumber code with
    | 20 => .notDirectory
    | 21 => .isDirectory
    | 36 => .nameTooLong
    | _ => .other (toString error)
  match error with
  | .noFileOrDirectory .. => .notFound
  | .inappropriateType _ code _ => ofNumber code
  | .invalidArgument _ code _ => ofNumber code
  | other => .other (toString other)

/-- Runs an action and gives its error as a fault. -/
private def attempt {result : Type} (action : IO result) :
    Shell (Except Files.Fault result) := do
  try
    return .ok (← action)
  catch error => return .error (faultOf error)

/-- Runs an action on the file at a path. No path has a zero character. -/
private def attemptAt {result : Type} (path : String) (action : IO result) :
    Shell (Except Files.Fault result) :=
  if path.contains '\x00' then return .error .zeroInPath else attempt action

/-- Writes a text to a stream at once. -/
private def writeNow (stream : IO.FS.Stream) (text : String) :
    Shell (Except String Unit) := do
  let written ← attempt do
    stream.putStr text
    stream.flush
  return written.mapError Files.Fault.message

/-- The system as the host of a command. -/
instance : Host Shell where
  Handle := IO.FS.Stream
  read path := attemptAt path do return (← IO.FS.readBinFile path).toList
  create path := attemptAt path do
    return IO.FS.Stream.ofHandle (← IO.FS.Handle.mk path .write)
  write stream text := writeNow stream text
  print text := do writeNow (← IO.getStdout) text
  log record := do
    if (← read).shows record then IO.eprintln record.line
  workingDirectory := do return (← IO.currentDir).toString

/-- Runs a command and gives the exit code. -/
private def execute (invocation : Invocation) : IO UInt32 := do
  let standard := Log.Filter.ofLevel invocation.level
  let filter := ((← IO.getEnv "RUST_LOG").map fun text =>
    (Log.Filter.ofText? text).getD standard).getD standard
  let outcome ← (run invocation.request : Task Shell Unit).run.run filter
  if let .error failure := outcome then
    IO.eprintln ("error: " ++ failure.message)
  return exitCode outcome

end CsrCensus.Command

/-- The entry point: exit code 2 stands for a command line that is not valid. -/
def main (arguments : List String) : IO UInt32 := do
  match CsrCensus.Command.readArguments arguments with
  | none =>
      IO.eprintln "error: invalid command line"
      return 2
  | some .version =>
      IO.print CsrCensus.Command.versionText
      return 0
  | some (.run invocation) => CsrCensus.Command.execute invocation
