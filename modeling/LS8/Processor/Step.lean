import LS8.Processor.Execute

namespace LS8

/-!
# One step

A step fetches, decodes and executes the instruction at the program counter.
It yields the processor and the sink after it, the events in between, and
whether the processor may go on. A fault halts the processor as the failing
instruction left it; a halted processor does not step.

There is one equation for each way in which a step begins: the processor has
halted, the fetch fails, the byte encodes no opcode, or an instruction is
executed.
-/

/-- What a step leads to. -/
structure Transition where
  processor : Processor
  sink : Sink
  /-- What came out during the step, in order. -/
  events : List Event
  /-- The status after the step, or the fault that stopped it. -/
  result : Except Fault Status
  deriving Repr

namespace Processor

/-- The byte after the one at the program counter; zero beyond the last cell. -/
def firstByte (processor : Processor) : UInt8 :=
  processor.memory.peek (processor.pc + 1)

/-- The second byte after the one at the program counter. -/
def secondByte (processor : Processor) : UInt8 :=
  processor.memory.peek (processor.pc + 2)

end Processor

namespace Action

/-- Fetch, decode and execute the instruction at the program counter. -/
def cycle : Action Unit := do
  let processor := (← get).processor
  let byte ← readCell processor.pc
  -- Fetched in any case; there are zeros beyond the last cell.
  let first := processor.firstByte
  let second := processor.secondByte
  match Opcode.decode? byte with
  | none =>
      log (.unknownInstruction byte processor.pc)
      throw (.unknownOpcode byte processor.pc)
  | some opcode =>
      log (.decoded processor.pc opcode first second
        processor.registers processor.flags)
      execute opcode first second

end Action

namespace Machine

/-- A processor about to step. -/
def start (processor : Processor) (sink : Sink) : Machine :=
  { processor := processor, sink := sink, events := [] }

/-- A processor about to execute an instruction, which it has recorded. -/
def decoded (processor : Processor) (sink : Sink) (opcode : Opcode) : Machine :=
  {
    processor := processor
    sink := sink
    events := [
      .logged
        (.decoded processor.pc opcode
          processor.firstByte processor.secondByte
          processor.registers processor.flags)
    ]
  }

/-- The end of a step whose instruction was executed; it is counted. -/
def complete (machine : Machine) : Transition :=
  let processor := machine.processor
  {
    processor := { processor with steps := processor.steps + 1 }
    sink := machine.sink
    events := machine.events
    result := .ok processor.status
  }

/-- The end of a step at a fault; the processor halts. -/
def stopAt (machine : Machine) (fault : Fault) : Transition :=
  {
    processor := { machine.processor with status := .halted }
    sink := machine.sink
    events := machine.events
    result := .error fault
  }

end Machine

/-- One step: fetch, decode and execute the instruction at the program counter. -/
def Processor.step (processor : Processor) (sink : Sink) : Transition :=
  match processor.status with
  | .halted =>
      {
        processor := processor
        sink := sink
        events := []
        result := .ok .halted
      }
  | .running =>
      match Action.cycle.run (Machine.start processor sink) with
      | .ok _ machine => machine.complete
      | .error fault machine => machine.stopAt fault

namespace Processor

variable {processor : Processor}

/-- A halted processor stays as it is. -/
theorem step_of_halted
    (halted : processor.status = .halted)
    (sink : Sink) :
    processor.step sink =
      {
        processor := processor
        sink := sink
        events := []
        result := .ok .halted
      } := by
  simp only [step, halted]

/-- There is nothing to fetch beyond the last cell. -/
theorem step_of_le
    (running : processor.status = .running)
    (beyond : 256 ≤ processor.pc)
    (sink : Sink) :
    processor.step sink =
      (Machine.start processor sink).stopAt
        (.access (.memory processor.pc)) := by
  simp [step, running, Action.cycle, Action.run_readCell_of_le, beyond,
    Machine.start]

/-- A byte that encodes no opcode is recorded and stops the processor. -/
theorem step_of_undecoded
    (running : processor.status = .running)
    (inMemory : processor.pc < 256)
    (undecoded :
      Opcode.decode? (processor.memory.peek processor.pc) = none)
    (sink : Sink) :
    processor.step sink =
      Machine.stopAt
        {
          processor := processor
          sink := sink
          events := [
            .logged
              (.unknownInstruction
                (processor.memory.peek processor.pc) processor.pc)
          ]
        }
        (.unknownOpcode
          (processor.memory.peek processor.pc) processor.pc) := by
  simp [step, running, Action.cycle, Action.run_readCell_of_lt, inMemory,
    undecoded, Machine.start]

/-- A decoded instruction is recorded, then executed. -/
theorem step_of_decoded
    (running : processor.status = .running)
    (inMemory : processor.pc < 256)
    {opcode : Opcode}
    (decodes :
      Opcode.decode? (processor.memory.peek processor.pc) = some opcode)
    (sink : Sink) :
    processor.step sink =
      match (Action.execute opcode
          processor.firstByte processor.secondByte).run
            (Machine.decoded processor sink opcode) with
      | .ok _ machine => machine.complete
      | .error fault machine => machine.stopAt fault := by
  simp [step, running, Action.cycle, Action.run_readCell_of_lt, inMemory,
    decodes, Machine.start, Machine.decoded]

end Processor

end LS8
