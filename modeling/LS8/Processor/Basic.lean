import LS8.Flags
import LS8.Memory
import LS8.Registers

namespace LS8

/-!
# The processor's state

The processor owns the memory, the registers, the program counter and the
flags. It also knows whether it may go on, and how many instructions it has
executed.

The program counter is a number of any size: an instruction at the top of
memory may leave it beyond the last cell, where the next fetch faults.
-/

/-- Whether the processor may execute another instruction. -/
inductive Status where
  | running
  | halted
  deriving Repr, DecidableEq

/-- The status as a word. -/
def Status.name : Status → String
  | .running => "Running"
  | .halted => "Halted"

/-- The state of the processor. -/
structure Processor where
  memory : Memory
  registers : Registers
  pc : Nat
  flags : Flags
  status : Status
  /-- The number of instructions executed so far. -/
  steps : Nat
  deriving Repr, DecidableEq

namespace Processor

/-- A processor that is ready to run a program from address zero. -/
def initial : Processor :=
  {
    memory := Memory.empty
    registers := Registers.empty
    pc := 0
    flags := Flags.clear
    status := .running
    steps := 0
  }

/-- The processor with a program image in its memory. -/
def load
    (processor : Processor)
    (image : List UInt8) :
    Except AccessError Processor :=
  (processor.memory.load image).map fun memory =>
    { processor with memory := memory }

/-- The processor with a new stack pointer. -/
def setStackPointer (processor : Processor) (value : UInt8) : Processor :=
  { processor with registers := processor.registers.setStackPointer value }

end Processor

end LS8
