import LS8.CommandLine.Arguments
import LS8.CommandLine.Session

namespace LS8

/-!
# The program

Reads the program file, lets the session decide, and writes what comes out of
it. A run is carried out in batches, so that its output appears while it is
going on.

Whether standard output takes a text shows only when it is written. The session
is therefore carried out as on an output that accepts everything, and once more
as on a full one if that turns out to be wrong. Up to then nothing has been
written to standard error, since a session ends with it.
-/

/-- The content of a file, or why it cannot be read. -/
def readContent (path : String) : IO (Except ReadError ByteArray) := do
  try
    let content ← IO.FS.readBinFile path
    return .ok content
  catch error =>
    match error with
    | .noFileOrDirectory .. => return .error .missing
    | .inappropriateType _ code _ =>
        return .error (if code = 21 then .isDirectory else .notDirectory)
    | .invalidArgument .. => return .error .nameTooLong
    | _ => throw error

/-- Write what is seen of a history. -/
def writeEvents (verbosity : Verbosity) (events : List Event) : IO Unit := do
  let output ← IO.getStdout
  output.putStr (transcript verbosity events)
  output.flush

/-- Write the rest of a session and yield its exit code. -/
def writeOutcome (verbosity : Verbosity) (outcome : Outcome) : IO UInt32 := do
  writeEvents verbosity outcome.events
  IO.eprint outcome.diagnostics
  return UInt32.ofNat outcome.status.code

/-- Carry out a run and write its events as they come; yield its end. -/
def writeRun
    (verbosity : Verbosity)
    (left : Nat)
    (run : Run) :
    IO Run := do
  let batch := min left 1024
  let next := run.iterate batch
  writeEvents verbosity next.events.toList
  let ahead := { next with events := #[] }
  if _ : left ≤ batch ∨ next.processor.status = .halted then
    return ahead
  else
    writeRun verbosity (left - batch) ahead
termination_by left
decreasing_by omega

/-- Carry out a session on an output that accepts what is written. -/
def runAccepted
    (options : Options)
    (content : Except ReadError ByteArray) :
    IO UInt32 := do
  let output := StandardOutput.accepting
  match Session.opening options content output with
  | .ended outcome => writeOutcome options.verbosity outcome
  | .ready processor loaded =>
      writeEvents options.verbosity loaded
      let started := Run.start processor.prepare output.sink
      let run ← writeRun options.verbosity options.limit started
      let noted := run.noteLimit options.limit
      writeOutcome options.verbosity (Session.closing options noted output)

/-- Carry out a session. -/
def runSession (options : Options) : IO UInt32 := do
  let content ← readContent options.program
  try
    runAccepted options content
  catch _ =>
    let outcome := Session.ofContent options content .full
    IO.eprint outcome.diagnostics
    return UInt32.ofNat outcome.status.code

/-- Do what a reader makes of the arguments. -/
def runArguments
    (read : ArgumentReader)
    (arguments : List String) :
    IO UInt32 := do
  match read arguments with
  | .accepted options =>
      try
        runSession options
      catch error =>
        IO.eprint (Session.diagnostic error.toString)
        return UInt32.ofNat ExitStatus.failure.code
  | .help text =>
      try
        writeEvents .silent (Session.helped text .accepting).events
      catch _ =>
        pure ()
      return UInt32.ofNat ExitStatus.success.code
  | .rejected text => writeOutcome .silent (Session.misused text)

end LS8

/-- Run the simulator with the given arguments. -/
def main (arguments : List String) : IO UInt32 :=
  LS8.runArguments LS8.Options.wordlessReader arguments
