import LS8.CommandLine.Options
import LS8.Image
import LS8.Listing
import LS8.Processor.Run
import LS8.Processor.Summary

namespace LS8

/-!
# Sessions

A session does what the options ask for with a program: it loads the image and
then either prints its listing or runs it and reports how the run ended. The
options are what a reader makes of the arguments (`Session.ofArguments`).

Printed text and log records share standard output, so the outcome of a
session holds them as one history with records of every severity; which of
them are seen is decided when the history is shown. A session on an output
without room ends early: text that the program prints is refused like any
other output, while the session's own text and its records break it off.
-/

/-- How a session ends, as its exit code tells. -/
inductive ExitStatus where
  | success
  | failure
  | usage
  | accessFault
  | fileNotFound
  /-- The session broke off because its own text could not be written. -/
  | brokenOff
  deriving Repr, DecidableEq

/-- The exit code. -/
def ExitStatus.code : ExitStatus → Nat
  | .success => 0
  | .failure => 1
  | .usage => 2
  | .accessFault => 3
  | .fileNotFound => 4
  | .brokenOff => 101

/-- Where a session gives up when its own text cannot be written. -/
structure Abort where
  /-- The number of the thread. -/
  thread : Nat
  /-- The place in the code. -/
  place : String
  deriving Repr, DecidableEq

/-- What is told of an abort. -/
def Abort.notice (abort : Abort) (refusal : Refusal) : String :=
  "\nthread 'main' (" ++ decimal abort.thread ++ ") panicked at " ++
    abort.place ++ ":\n" ++
    "failed printing to stdout: " ++ refusal.message ++ "\n" ++
    "note: run with `RUST_BACKTRACE=1` environment variable " ++
    "to display a backtrace\n"

/-- What standard output is like. -/
inductive StandardOutput where
  /-- Everything is accepted. -/
  | accepting
  /-- A device without room: every write fails, and an abort is at this place. -/
  | refusing (abort : Abort)
  deriving Repr, DecidableEq

namespace StandardOutput

/-- A full device, and where an abort takes place in one environment. -/
def full : StandardOutput :=
  .refusing {
    thread := 4
    place :=
      "/rustc/b940084d7eb6a299eb4bfeb8e34901bc051e7ac4/library/std/src/io/" ++
        "stdio.rs:1168:9"
  }

/-- The sink for the text that a program prints. -/
def sink : StandardOutput → Sink
  | .accepting => Sink.unlimited
  | .refusing _ => { room := some 0, refusal := .noSpace }

/-- What is told of the session's own text where it is refused. -/
def notice : StandardOutput → String
  | .accepting => ""
  | .refusing abort => abort.notice .noSpace

end StandardOutput

/-- Everything that is seen of a session. -/
structure Outcome where
  status : ExitStatus
  /-- What came out on standard output, with records of every severity. -/
  events : List Event
  /-- The text on standard error. -/
  diagnostics : String
  deriving Repr

/-- The text on standard output at a verbosity. -/
def Outcome.transcript (outcome : Outcome) (verbosity : Verbosity) : String :=
  LS8.transcript verbosity outcome.events

/-- The greatest number of instructions that a session executes. -/
def Options.limit (options : Options) : Nat :=
  options.stepLimit.getD greatestWord

namespace Session

/-- A line on standard error. -/
def diagnostic (message : String) : String :=
  "ls8: " ++ message ++ "\n"

/-- Whether standard output cannot take what is to be shown on it. -/
def blocks
    (output : StandardOutput)
    (verbosity : Verbosity)
    (events : List Event) :
    Bool :=
  match output with
  | .accepting => false
  | .refusing _ => transcript verbosity events ≠ ""

/-- The end of a session whose own text cannot be written. -/
def brokenOff (output : StandardOutput) (diagnostics : String) : Outcome :=
  {
    status := .brokenOff
    events := []
    diagnostics := diagnostics ++ output.notice
  }

/-- The end of a session whose program cannot be loaded. -/
def notLoaded (path : String) (error : LoadError) : Outcome :=
  match error with
  | .fileNotFound _ =>
      {
        status := .fileNotFound
        events := []
        diagnostics := diagnostic error.message
      }
  | _ =>
      {
        status := .failure
        events := []
        diagnostics := diagnostic (path ++ ": " ++ error.message)
      }

/-- The end of a session whose image does not fit into the memory. -/
def notPlaced (error : AccessError) : Outcome :=
  {
    status := .failure
    events := []
    diagnostics := diagnostic error.message
  }

/-- The listing in place of a run. -/
def list (image : List UInt8) : Outcome :=
  {
    status := .success
    events := [.printed (Listing.text image)]
    diagnostics := ""
  }

/-- The state of the processor after a run, if the options ask for it. -/
def dump (options : Options) (processor : Processor) : String :=
  if options.dumpState then processor.summary else ""

/-- What is reported after a run that left a processor and a result. -/
def report
    (options : Options)
    (processor : Processor)
    (result : Except Fault Nat) :
    Outcome :=
  let dumped := dump options processor
  match result with
  | .ok count =>
      {
        status := .success
        events := [.logged (.executed count)]
        diagnostics := dumped
      }
  | .error (.unknownOpcode opcode pc) =>
      {
        status := .success
        events :=
          [.printed ((Fault.unknownOpcode opcode pc).message ++ "\n")]
        diagnostics := dumped
      }
  | .error (.access error) =>
      {
        status := .accessFault
        events := []
        diagnostics :=
          dumped ++
            diagnostic
              ("fault at pc " ++ addressText processor.pc ++ ": " ++
                error.message)
      }
  | .error (.output refusal) =>
      {
        status := .failure
        events := []
        diagnostics := dumped ++ diagnostic refusal.message
      }

/-- An outcome after what was already seen before it. -/
def after (earlier : List Event) (outcome : Outcome) : Outcome :=
  { outcome with events := earlier ++ outcome.events }

/-- How far a session comes before its program runs. -/
inductive Opening where
  /-- The session has come to its end. -/
  | ended (outcome : Outcome)
  /-- The program is in memory, and this came out so far. -/
  | ready (processor : Processor) (events : List Event)

/-- Load the program; print its listing if the options ask for that instead. -/
def opening
    (options : Options)
    (content : Except ReadError ByteArray)
    (output : StandardOutput) :
    Opening :=
  match Image.ofContent options.program content with
  | .error error =>
      .ended (notLoaded options.program error)
  | .ok image =>
      let loaded := [Event.logged (.loaded image.length options.program)]
      if blocks output options.verbosity loaded then
        .ended (brokenOff output "")
      else if options.disassemble then
        if blocks output options.verbosity (list image).events then
          .ended (brokenOff output "")
        else
          .ended (after loaded (list image))
      else
        match Processor.initial.load image with
        | .error error => .ended (after loaded (notPlaced error))
        | .ok processor => .ready processor loaded

/-- The end of a session after its run: the report, unless output blocks. -/
def closing
    (options : Options)
    (run : Run)
    (output : StandardOutput) :
    Outcome :=
  let reported := report options run.processor run.result
  if blocks output options.verbosity run.events.toList then
    brokenOff output ""
  else if blocks output options.verbosity reported.events then
    brokenOff output (dump options run.processor)
  else
    after run.events.toList reported

/-- The run of a session, for as many instructions as the options allow. -/
def execute
    (options : Options)
    (processor : Processor)
    (output : StandardOutput) :
    Run :=
  processor.runFor output.sink options.limit

/-- A session with the content of its program file, or the failure to read it. -/
def ofContent
    (options : Options)
    (content : Except ReadError ByteArray)
    (output : StandardOutput) :
    Outcome :=
  match opening options content output with
  | .ended outcome => outcome
  | .ready processor loaded =>
      after loaded (closing options (execute options processor output) output)

/-- A session in a tree of files. -/
def ofFiles
    (options : Options)
    (files : Files)
    (output : StandardOutput) :
    Outcome :=
  ofContent options (files.read options.program) output

/-- The end of a session that only shows help, of which a refusal is not told. -/
def helped (text : String) (output : StandardOutput) : Outcome :=
  {
    status := .success
    events :=
      match output with
      | .accepting => [.printed text]
      | .refusing _ => []
    diagnostics := ""
  }

/-- The end of a session whose arguments are wrong. -/
def misused (text : String) : Outcome :=
  {
    status := .usage
    events := []
    diagnostics := text
  }

/-- A session that begins with its arguments. -/
def ofArguments
    (read : ArgumentReader)
    (arguments : List String)
    (files : Files)
    (output : StandardOutput) :
    Outcome :=
  match read arguments with
  | .accepted options => ofFiles options files output
  | .help text => helped text output
  | .rejected text => misused text

end Session

end LS8
