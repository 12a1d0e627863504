import LS8.Processor.Step

namespace LS8

/-!
# Runs

A run repeats the step until the processor halts, a step faults, or as many
instructions as the limit allows have been executed. Before its very first
instruction a processor sets its stack pointer to the top of memory; a run
that goes on after that keeps its stack.

`Run.iterate` is the loop, a recursion on the instructions that are left. It
may be cut anywhere (`iterate_add`).
-/

/-- A run in progress, or at its end. -/
structure Run where
  processor : Processor
  sink : Sink
  /-- What came out so far, in order. -/
  events : Array Event
  /-- The number of instructions that this run executed. -/
  count : Nat
  /-- The fault that ended the run, if one did. -/
  fault? : Option Fault
  deriving Repr

namespace Run

/-- A run before its first step. -/
def start (processor : Processor) (sink : Sink) : Run :=
  {
    processor := processor
    sink := sink
    events := #[]
    count := 0
    fault? := none
  }

/-- A run after one more step. -/
def advance (run : Run) : Run :=
  let transition := run.processor.step run.sink
  let events := run.events ++ transition.events
  match transition.result with
  | .ok _ =>
      {
        processor := transition.processor
        sink := transition.sink
        events := events
        count := run.count + 1
        fault? := none
      }
  | .error fault =>
      {
        processor := transition.processor
        sink := transition.sink
        events := events
        count := run.count
        fault? := some fault
      }

/-- At most so many more steps, as long as the processor is running. -/
def iterate : Nat → Run → Run
  | 0, run => run
  | limit + 1, run =>
      match run.processor.status with
      | .halted => run
      | .running => iterate limit run.advance

/-- A run with a last record if it ended with the processor still running. -/
def noteLimit (run : Run) (limit : Nat) : Run :=
  match run.processor.status with
  | .halted => run
  | .running =>
      {
        run with
        events :=
          run.events.push (.logged (.limitReached limit run.processor.pc))
      }

/-- The number of instructions executed, or the fault that ended the run. -/
def result (run : Run) : Except Fault Nat :=
  match run.fault? with
  | none => .ok run.count
  | some fault => .error fault

/-- The events of a step follow those of the run before it. -/
@[simp] theorem toList_events_advance (run : Run) :
    run.advance.events.toList =
      run.events.toList ++ (run.processor.step run.sink).events := by
  unfold advance
  cases stepped : (run.processor.step run.sink).result <;> simp [stepped]

@[simp] theorem processor_advance (run : Run) :
    run.advance.processor = (run.processor.step run.sink).processor := by
  unfold advance
  cases stepped : (run.processor.step run.sink).result <;> simp [stepped]

@[simp] theorem sink_advance (run : Run) :
    run.advance.sink = (run.processor.step run.sink).sink := by
  unfold advance
  cases stepped : (run.processor.step run.sink).result <;> simp [stepped]

theorem iterate_of_halted
    {run : Run}
    (halted : run.processor.status = .halted)
    (limit : Nat) :
    run.iterate limit = run := by
  cases limit with
  | zero => rfl
  | succ limit => simp only [iterate, halted]

theorem iterate_succ_of_running
    {run : Run}
    (running : run.processor.status = .running)
    (limit : Nat) :
    run.iterate (limit + 1) = run.advance.iterate limit := by
  simp only [iterate, running]

/-- A run of two parts is the second part after the first. -/
theorem iterate_add
    (run : Run)
    (earlier later : Nat) :
    run.iterate (earlier + later) = (run.iterate earlier).iterate later := by
  induction earlier generalizing run with
  | zero => simp [iterate]
  | succ earlier inductionHypothesis =>
      cases status : run.processor.status with
      | halted => simp only [iterate_of_halted status]
      | running =>
          rw [Nat.add_right_comm,
            iterate_succ_of_running status,
            iterate_succ_of_running status]
          exact inductionHypothesis run.advance

end Run

namespace Processor

/-- Before the first instruction the stack pointer is set to the stack's top. -/
def prepare (processor : Processor) : Processor :=
  if processor.steps = 0 then
    processor.setStackPointer Registers.stackTop
  else
    processor

/-- Run for at most `limit` instructions. -/
def runFor (processor : Processor) (sink : Sink) (limit : Nat) : Run :=
  ((Run.start processor.prepare sink).iterate limit).noteLimit limit

/-- Run until the processor halts or faults; no run is longer than a word counts. -/
def run (processor : Processor) (sink : Sink) : Run :=
  processor.runFor sink greatestWord

end Processor

end LS8
