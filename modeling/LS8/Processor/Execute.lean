import LS8.Arithmetic
import LS8.Processor.Machine

namespace LS8

/-!
# The instructions

What each instruction does, step by step, given its two operand bytes. Operand
bytes that an opcode does not have are ignored. Stack operations need no check
of the stack pointer: every byte is the address of a cell.

R7 is the stack pointer and may be an operand as well. `PUSH` and `CALL` look
at their operand once before they lower the stack pointer, to see whether the
register exists, and once after it, for its value; `POP` writes its operand
before it raises the stack pointer.
-/

/-- The line that prints a value. -/
def printedLine (value : UInt8) : String :=
  decimal value.toNat ++ "\n"

namespace Action

/-- Combine two registers into the first of them. -/
def combine
    (operation : Arithmetic)
    (first second : UInt8) :
    Action Unit := do
  let left ← readRegister first
  let right ← readRegister second
  writeRegister first (operation.apply left right)

/-- Set the flags to the comparison of two registers. -/
def compare (first second : UInt8) : Action Unit := do
  let left ← readRegister first
  let right ← readRegister second
  change fun processor =>
    { processor with flags := Flags.compare left right }

/-- Go on at the address in a register. -/
def jumpRegister (index : UInt8) : Action Unit := do
  jumpTo (← readRegister index)

/--
Go on at the address in a register if the jump is taken, and otherwise at the
next instruction. The register is looked at only if the jump is taken.
-/
def jumpIf
    (taken : Bool)
    (opcode : Opcode)
    (index : UInt8) :
    Action Unit := do
  if taken then
    jumpRegister index
  else
    advance opcode

/-- The address after a call as a byte, if it is one. -/
def returnAddress : Action UInt8 := do
  let address := (← get).processor.pc + Opcode.call.size
  if address < 256 then
    return UInt8.ofNat address
  else
    throw (.access (.memory address))

/-- Halt, and say so. -/
def halt : Action Unit := do
  let processor := (← get).processor
  log (.halted processor.pc (processor.steps + 1))
  change fun processor => { processor with status := .halted }

/-- Print the value of a register. -/
def printRegister (index : UInt8) : Action Unit := do
  print (printedLine (← readRegister index))

/-- Push the value that a register has once the stack pointer is lowered. -/
def push (index : UInt8) : Action Unit := do
  let _ ← readRegister index
  let pointer ← lowerStack
  let value ← readRegister index
  writeCell pointer.toNat value

/-- Pop a value into a register. -/
def pop (index : UInt8) : Action Unit := do
  let _ ← readRegister index
  let value ← readCell (← readStackPointer).toNat
  writeRegister index value
  raiseStack

/-- Push the return address, then go on at the address in a register. -/
def call (index : UInt8) : Action Unit := do
  let _ ← readRegister index
  let continuation ← returnAddress
  let pointer ← lowerStack
  writeCell pointer.toNat continuation
  jumpTo (← readRegister index)

/-- Pop an address and go on there. -/
def ret : Action Unit := do
  let continuation ← readCell (← readStackPointer).toNat
  raiseStack
  jumpTo continuation

/-- Execute an instruction with its operand bytes. -/
def execute (opcode : Opcode) (first second : UInt8) : Action Unit := do
  match opcode with
  | .nop => advance opcode
  | .hlt => halt
  | .ldi =>
      writeRegister first second
      advance opcode
  | .prn =>
      printRegister first
      advance opcode
  | .cmp =>
      compare first second
      advance opcode
  | .add =>
      combine .add first second
      advance opcode
  | .sub =>
      combine .sub first second
      advance opcode
  | .mul =>
      combine .mul first second
      advance opcode
  | .jmp => jumpRegister first
  | .jeq => jumpIf (← get).processor.flags.equal opcode first
  | .jne => jumpIf (!(← get).processor.flags.equal) opcode first
  | .push =>
      push first
      advance opcode
  | .pop =>
      pop first
      advance opcode
  | .call => call first
  | .ret => ret

/-- Operand bytes that an opcode does not have make no difference. -/
theorem execute_congr
    {opcode : Opcode}
    {first second otherFirst otherSecond : UInt8}
    (sameFirst : 1 ≤ opcode.operandCount → first = otherFirst)
    (sameSecond : 2 ≤ opcode.operandCount → second = otherSecond) :
    execute opcode first second = execute opcode otherFirst otherSecond := by
  cases opcode with
  | nop | hlt | ret => rfl
  | push | pop | prn | call | jmp | jeq | jne =>
      rw [sameFirst (by decide)]
      rfl
  | ldi | add | sub | mul | cmp =>
      rw [sameFirst (by decide), sameSecond (by decide)]

/-- A combination fails before it writes, at its first bad operand. -/
theorem run_combine
    (operation : Arithmetic)
    (first second : UInt8)
    (machine : Machine) :
    (combine operation first second).run machine =
      match Register.named first.toNat, Register.named second.toNat with
      | .ok left, .ok right =>
          .ok ()
            { machine with
              processor := {
                machine.processor with
                registers :=
                  machine.processor.registers.update left
                    (operation.apply
                      (machine.processor.registers.value left)
                      (machine.processor.registers.value right)) } }
      | .ok _, .error error => .error (.access error) machine
      | .error error, _ => .error (.access error) machine := by
  cases first? : Register.named first.toNat with
  | error error => simp [combine, run_readRegister, first?]
  | ok left =>
      cases second? : Register.named second.toNat with
      | error error => simp [combine, run_readRegister, first?, second?]
      | ok right =>
          simp [combine, run_readRegister, run_writeRegister, first?, second?]

/-- A comparison fails before it writes, at its first bad operand. -/
theorem run_compare
    (first second : UInt8)
    (machine : Machine) :
    (compare first second).run machine =
      match Register.named first.toNat, Register.named second.toNat with
      | .ok left, .ok right =>
          .ok ()
            { machine with
              processor := {
                machine.processor with
                flags :=
                  Flags.compare
                    (machine.processor.registers.value left)
                    (machine.processor.registers.value right) } }
      | .ok _, .error error => .error (.access error) machine
      | .error error, _ => .error (.access error) machine := by
  cases first? : Register.named first.toNat with
  | error error => simp [compare, run_readRegister, first?]
  | ok left =>
      cases second? : Register.named second.toNat with
      | error error => simp [compare, run_readRegister, first?, second?]
      | ok right => simp [compare, run_readRegister, first?, second?]

theorem run_jumpRegister (index : UInt8) (machine : Machine) :
    (jumpRegister index).run machine =
      match Register.named index.toNat with
      | .ok register =>
          .ok ()
            { machine with
              processor := {
                machine.processor with
                pc := (machine.processor.registers.value register).toNat } }
      | .error error => .error (.access error) machine := by
  cases named : Register.named index.toNat with
  | ok register => simp [jumpRegister, run_readRegister, named]
  | error error => simp [jumpRegister, run_readRegister, named]

theorem run_printRegister (index : UInt8) (machine : Machine) :
    (printRegister index).run machine =
      match Register.named index.toNat with
      | .ok register =>
          (print (printedLine
            (machine.processor.registers.value register))).run machine
      | .error error => .error (.access error) machine := by
  cases named : Register.named index.toNat with
  | ok register => simp [printRegister, run_readRegister, named]
  | error error => simp [printRegister, run_readRegister, named]

@[simp] theorem run_halt (machine : Machine) :
    halt.run machine =
      .ok ()
        { machine with
          processor := { machine.processor with status := .halted }
          events :=
            machine.events ++
              [.logged
                (.halted machine.processor.pc
                  (machine.processor.steps + 1))] } :=
  rfl

/-- Once its operand is known to exist, a push cannot fail. -/
theorem run_push (index : UInt8) (machine : Machine) :
    (push index).run machine =
      match Register.named index.toNat with
      | .ok register =>
          let lowered :=
            machine.processor.registers.setStackPointer
              (machine.processor.registers.stackPointer - 1)
          .ok ()
            { machine with
              processor := {
                machine.processor with
                registers := lowered
                memory :=
                  machine.processor.memory.store lowered.stackPointer
                    (lowered.value register) } }
      | .error error => .error (.access error) machine := by
  cases named : Register.named index.toNat with
  | ok register =>
      simp [push, run_readRegister, named, Processor.setStackPointer]
  | error error => simp [push, run_readRegister, named]

/-- Once its operand is known to exist, a pop cannot fail. -/
theorem run_pop (index : UInt8) (machine : Machine) :
    (pop index).run machine =
      match Register.named index.toNat with
      | .ok register =>
          let popped :=
            machine.processor.registers.update register
              (machine.processor.memory.cell
                machine.processor.registers.stackPointer)
          .ok ()
            { machine with
              processor := {
                machine.processor with
                registers :=
                  popped.setStackPointer (popped.stackPointer + 1) } }
      | .error error => .error (.access error) machine := by
  cases named : Register.named index.toNat with
  | ok register =>
      simp [pop, run_readRegister, run_writeRegister, named,
        Processor.setStackPointer]
  | error error => simp [pop, run_readRegister, named]

/--
A call fails before it writes: first if its operand does not exist, then if
the address after it is not a byte.
-/
theorem run_call (index : UInt8) (machine : Machine) :
    (call index).run machine =
      match Register.named index.toNat with
      | .ok register =>
          let continuation := machine.processor.pc + Opcode.call.size
          let lowered :=
            machine.processor.registers.setStackPointer
              (machine.processor.registers.stackPointer - 1)
          if continuation < 256 then
            .ok ()
              { machine with
                processor := {
                  machine.processor with
                  registers := lowered
                  memory :=
                    machine.processor.memory.store lowered.stackPointer
                      (UInt8.ofNat continuation)
                  pc := (lowered.value register).toNat } }
          else
            .error (.access (.memory continuation)) machine
      | .error error => .error (.access error) machine := by
  cases named : Register.named index.toNat with
  | ok register =>
      by_cases fits : machine.processor.pc + Opcode.call.size < 256
      · simp [call, returnAddress, run_readRegister, named, fits,
          Processor.setStackPointer]
      · simp [call, returnAddress, run_readRegister, named, fits]
  | error error => simp [call, run_readRegister, named]

/-- A return cannot fail. -/
@[simp] theorem run_ret (machine : Machine) :
    ret.run machine =
      .ok ()
        { machine with
          processor := {
            machine.processor with
            registers :=
              machine.processor.registers.setStackPointer
                (machine.processor.registers.stackPointer + 1)
            pc :=
              (machine.processor.memory.cell
                machine.processor.registers.stackPointer).toNat } } := by
  simp [ret, Processor.setStackPointer]

end Action

end LS8
