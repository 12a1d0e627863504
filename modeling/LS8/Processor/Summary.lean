import LS8.Processor.Basic

namespace LS8

/-!
# Summaries

Two texts that show the state of a processor: the summary for a user, which
lists the program counter, the flags, the number of steps, the status and all
registers, and the diagnostic text of all fields.
-/

namespace Processor

/-- The line of a register in the summary; R7 is marked as stack pointer. -/
def registerLine (registers : Registers) (register : Register) : String :=
  let mark := if register = Register.stackPointer then " (SP)" else ""
  "R" ++ decimal register.val ++ ": " ++
    hexadecimal (registers.value register).toNat ++ mark ++ "\n"

/-- The summary of the visible state; the memory does not show in it. -/
def summary (processor : Processor) : String :=
  "--- CPU STATE ---\n" ++
    "PC: " ++ hexadecimal processor.pc ++
    " FL: " ++ NumeralStyle.flagBits.write processor.flags.bits ++
    " Steps: " ++ decimal processor.steps ++
    " Status: " ++ processor.status.name ++ "\n" ++
    String.join
      ((List.finRange 8).map (registerLine processor.registers)) ++
    "-----------------\n"

/-- What the diagnostic text of a processor tells: all of its fields. -/
def fieldList (processor : Processor) : FieldList :=
  {
    title := "Cpu"
    fields := [
      ("memory", processor.memory.fieldList.inline),
      ("registers", processor.registers.fieldList.inline),
      ("pc", decimal processor.pc),
      ("flags", processor.flags.describe),
      ("status", processor.status.name),
      ("steps", decimal processor.steps)
    ]
  }

end Processor

end LS8
