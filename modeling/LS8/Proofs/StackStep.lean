import LS8.Proofs.Stepping

namespace LS8

/-!
# What a step does to the stack

An instruction puts a byte on the stack, takes one from it or keeps the stack
as it is. `StackStep` says what each of the three leaves of the stack pointer
and of the memory, and `Processor.StepsTo.stackStep` that every successful step
does one of them, as long as R7 is not written as an ordinary register.
-/

/-- What becomes of the stack. -/
inductive StackEffect where
  | keeps
  | puts
  | takes
  deriving Repr, DecidableEq

/-- The number of bytes by which the stack grows. -/
def StackEffect.growth : StackEffect → Int
  | .keeps => 0
  | .puts => 1
  | .takes => -1

/-- What an instruction does to the stack. -/
def Opcode.stackEffect : Opcode → StackEffect
  | .push | .call => .puts
  | .pop | .ret => .takes
  | .nop | .hlt | .ldi | .prn | .add | .sub | .mul
  | .cmp | .jmp | .jeq | .jne => .keeps

namespace Processor

/-- The instruction that the next step executes, if it gets to one. -/
def instruction? (processor : Processor) : Option Opcode :=
  match processor.status with
  | .halted => none
  | .running =>
      if processor.pc < 256 then
        Opcode.decode? (processor.memory.peek processor.pc)
      else
        none

/-- What the next step does to the stack. -/
def stackEffect (processor : Processor) : StackEffect :=
  match processor.instruction? with
  | some opcode => opcode.stackEffect
  | none => .keeps

/-- A successful step, whatever the sink. -/
def StepsTo (before after : Processor) : Prop :=
  ∃ sink status,
    (before.step sink).result = .ok status ∧
      (before.step sink).processor = after

/-- The next step does not have R7 as the destination of its instruction. -/
def SparesPointer (before : Processor) : Prop :=
  ∀ opcode ∈ [Opcode.ldi, .add, .sub, .mul, .pop],
    before.instruction? = some opcode →
    before.firstByte ≠ 7

theorem instruction?_of_fetches
    {before : Processor}
    {opcode : Opcode}
    (fetches : Fetches before opcode) :
    before.instruction? = some opcode := by
  simp [instruction?, fetches.running, fetches.inMemory, fetches.decodes]

theorem instruction?_of_halted
    {before : Processor}
    (halted : before.status = .halted) :
    before.instruction? = none := by
  simp [instruction?, halted]

/-- No instruction is fetched beyond the last cell. -/
theorem instruction?_of_le
    {before : Processor}
    (beyond : 256 ≤ before.pc) :
    before.instruction? = none := by
  cases status : before.status <;>
    simp [instruction?, status, Nat.not_lt.mpr beyond]

theorem instruction?_of_undecoded
    {before : Processor}
    (undecoded : Opcode.decode? (before.memory.peek before.pc) = none) :
    before.instruction? = none := by
  cases status : before.status <;> simp [instruction?, status, undecoded]

theorem fetches_of_instruction?
    {before : Processor}
    {opcode : Opcode}
    (executes : before.instruction? = some opcode) :
    Fetches before opcode := by
  unfold instruction? at executes
  split at executes
  next => contradiction
  next running =>
    split at executes
    next inMemory => exact ⟨running, inMemory, executes⟩
    next => contradiction

/-- A successful step executes an instruction, or the processor has halted. -/
theorem StepsTo.cases
    {before after : Processor}
    (steps : before.StepsTo after) :
    (before.instruction? = none ∧ after = before) ∨
      ∃ opcode,
        before.instruction? = some opcode ∧
          InstructionTable.accessError? before opcode
            before.firstByte before.secondByte = none ∧
          Follows before opcode before.firstByte before.secondByte after := by
  obtain ⟨sink, status, succeeds, rfl⟩ := steps
  have stepped := before.stepped sink
  generalize before.step sink = transition at succeeds stepped ⊢
  cases stepped with
  | idle halted => exact .inl ⟨by simp [instruction?, halted], rfl⟩
  | unfetched | undecoded | failed | refused => simp at succeeds
  | @completed opcode after fetches faultless follows =>
      exact .inr ⟨opcode, instruction?_of_fetches fetches, faultless, follows⟩

end Processor

open InstructionTable

/--
A step puts a byte on the stack: the value of a register, R7 being lowered by
then, or the address after a call. The stack pointer names the byte afterwards.
-/
inductive Puts (before after : Processor) (value : UInt8) : Prop where
  | push
      (executes : before.instruction? = some .push)
      (source : value = loweredOperand before before.firstByte)
      (written : stackTop after = value)
  | call
      (executes : before.instruction? = some .call)
      (source : value.toNat = before.pc + 2)
      (written : stackTop after = value)

/-- A step obtains a byte from the stack, in a register or as the next address. -/
inductive Takes (before after : Processor) (value : UInt8) : Prop where
  | pop
      (executes : before.instruction? = some .pop)
      (obtains : after.registers.get before.firstByte.toNat = .ok value)
  | ret
      (executes : before.instruction? = some .ret)
      (obtains : after.pc = value.toNat)

/-- What a step leaves of the stack pointer and the memory. -/
inductive StackStep (before after : Processor) : StackEffect → Prop where
  | keeps
      (pointer :
        after.registers.stackPointer = before.registers.stackPointer)
      (memory : after.memory = before.memory) :
      StackStep before after .keeps
  | puts
      {value : UInt8}
      (pointer :
        after.registers.stackPointer = before.registers.stackPointer - 1)
      (memory :
        after.memory =
          before.memory.store (before.registers.stackPointer - 1) value)
      (puts : Puts before after value) :
      StackStep before after .puts
  | takes
      (pointer :
        after.registers.stackPointer = before.registers.stackPointer + 1)
      (memory : after.memory = before.memory)
      (takes : Takes before after (stackTop before)) :
      StackStep before after .takes

/-- A step that puts a byte on the stack leaves it on top. -/
theorem Puts.written
    {before after : Processor}
    {value : UInt8}
    (puts : Puts before after value) :
    stackTop after = value := by
  cases puts with
  | push executes source written => exact written
  | call executes source written => exact written

section

variable
  {before after : Processor}
  {opcode : Opcode}
  {first second : UInt8}

/-- Only an instruction that puts a byte on the stack writes to the memory. -/
theorem Follows.memory_eq
    (follows : Follows before opcode first second after)
    (reads : opcode.stackEffect ≠ .puts) :
    after.memory = before.memory := by
  apply Memory.ext_cell
  intro address
  rw [follows.cell]
  cases opcode with
  | push | call => exact absurd rfl reads
  | _ => rfl

/-- A stored byte is the only cell that changes. -/
theorem Follows.memory_eq_store
    {value : UInt8}
    (follows : Follows before opcode first second after)
    (writes :
      ∀ address,
        cellAfter before opcode first address =
          if address = before.registers.stackPointer - 1 then
            value
          else
            before.memory.cell address) :
    after.memory =
      before.memory.store (before.registers.stackPointer - 1) value := by
  apply Memory.ext_cell
  intro address
  rw [follows.cell, writes, Memory.cell_store]
  simp only [eq_comm]

/-- What an instruction puts in its destination spares R7 if that is another. -/
theorem Follows.pointer_eq
    (follows : Follows before opcode first second after)
    (keeps : opcode.stackEffect = .keeps)
    (spares :
      opcode ∈ [Opcode.ldi, .add, .sub, .mul, .pop] → first ≠ 7) :
    after.registers.stackPointer = before.registers.stackPointer := by
  have pointer := follows.register Register.stackPointer
  have apart (other : first ≠ 7) :
      Register.stackPointer.val ≠ first.toNat := by
    intro same
    exact other (UInt8.toNat_inj.mp same.symm)
  cases opcode with
  | push | call | pop | ret => contradiction
  | ldi | add | sub | mul =>
      have other := apart (spares (by decide))
      exact pointer.trans (if_neg other)
  | nop | hlt | prn | jmp | jeq | jne | cmp => exact pointer

/-- A pop into another register than R7 finds the top of the stack in it. -/
theorem Follows.pop_obtains
    (follows : Follows before .pop first second after)
    (faultless : accessError? before .pop first second = none)
    (other : first ≠ 7) :
    after.registers.get first.toNat = .ok (stackTop before) := by
  obtain ⟨named, names⟩ := exists_named_of_unnamed? faultless
  have number := Register.val_of_named names
  have apart : named.val ≠ 7 := by
    intro same
    exact other (UInt8.toNat_inj.mp (number.symm.trans same))
  have popped : after.registers.value named = stackTop before :=
    (follows.register named).trans
      ((if_neg apart).trans (if_pos number))
  simp only [Registers.get, names, Except.map, popped]

end

/-- Every successful step that spares R7 does to the stack what it should. -/
theorem Processor.StepsTo.stackStep
    {before after : Processor}
    (steps : before.StepsTo after)
    (spares : before.SparesPointer) :
    StackStep before after before.stackEffect := by
  rcases steps.cases with ⟨idle, rfl⟩ | ⟨opcode, executes, faultless, follows⟩
  · rw [stackEffect, idle]
    exact .keeps rfl rfl
  · have effect : before.stackEffect = opcode.stackEffect := by
      rw [stackEffect, executes]
    have destination (listed : opcode ∈ [Opcode.ldi, .add, .sub, .mul, .pop]) :
        before.firstByte ≠ 7 :=
      spares opcode listed executes
    have pointer := follows.register Register.stackPointer
    rw [effect]
    cases opcode with
    | push =>
        have memory := follows.memory_eq_store fun address => rfl
        refine .puts pointer memory (.push executes rfl ?_)
        rw [stackTop, memory, Memory.cell_store]
        exact if_pos pointer.symm
    | call =>
        have memory := follows.memory_eq_store fun address => rfl
        have fits := follows.returnFits rfl
        refine .puts pointer memory (.call executes ?_ ?_)
        · exact UInt8.toNat_ofNat_of_lt' fits
        · rw [stackTop, memory, Memory.cell_store]
          exact if_pos pointer.symm
    | pop =>
        have other := destination (by decide)
        have raised :
            after.registers.stackPointer =
              if before.firstByte = 7 then
                stackTop before + 1
              else
                before.registers.stackPointer + 1 :=
          pointer
        rw [if_neg other] at raised
        exact .takes raised (follows.memory_eq (by decide))
          (.pop executes (follows.pop_obtains faultless other))
    | ret =>
        exact .takes pointer (follows.memory_eq (by decide))
          (.ret executes follows.pc)
    | nop | hlt | ldi | prn | add | sub | mul | cmp | jmp | jeq | jne =>
        exact .keeps (follows.pointer_eq rfl destination)
          (follows.memory_eq (by decide))

end LS8
