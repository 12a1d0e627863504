import LS8.Proofs.Loop

namespace LS8

/-!
# What is true of every reachable processor

A processor is used by calls: images are loaded, registers and cells are
written from outside, and steps and runs are made, each with a sink of its own.
`Coherent` holds of a new processor and after any calls whatsoever, and
`Advances` relates a processor to what any further calls make of it.

Both are about the fields that only steps change. A call therefore has to be
looked at only in so far as it steps or writes the memory and the registers
(`afterCalls_preserves`), and of a step the table tells what becomes of the
program counter and the flags.

Beyond the last cell the program counter comes only from an instruction whose
opcode is in the last three cells. It is at most three bytes long, so that 258
is the greatest value.
-/

open InstructionTable

/-- What a user of a processor can do to it. -/
inductive Call where
  | load (image : List UInt8)
  | step (sink : Sink)
  | run (sink : Sink)
  | runFor (sink : Sink) (limit : Nat)
  | setRegister (index : Nat) (value : UInt8)
  | setStackPointer (value : UInt8)
  | writeCell (address : Nat) (value : UInt8)
  deriving Repr

namespace Processor

/-- The processor after an access that may be refused and then does nothing. -/
def attempted
    (processor : Processor) :
    Except AccessError Processor → Processor
  | .ok changed => changed
  | .error _ => processor

/-- The processor after a call. -/
def afterCall (processor : Processor) : Call → Processor
  | .load image => processor.attempted (processor.load image)
  | .step sink => (processor.step sink).processor
  | .run sink => (processor.run sink).processor
  | .runFor sink limit => (processor.runFor sink limit).processor
  | .setRegister index value =>
      processor.attempted
        ((processor.registers.set index value).map fun registers =>
          { processor with registers := registers })
  | .setStackPointer value => processor.setStackPointer value
  | .writeCell address value =>
      processor.attempted
        ((processor.memory.write address value).map fun memory =>
          { processor with memory := memory })

/-- The processor after calls, one after the other. -/
def afterCalls (processor : Processor) (calls : List Call) : Processor :=
  calls.foldl afterCall processor

end Processor

section

variable {motive : Processor → Prop}

/-- What steps and writes from outside preserve, every call preserves. -/
theorem afterCall_preserves
    (step :
      ∀ processor sink,
        motive processor → motive (processor.step sink).processor)
    (write :
      ∀ processor memory registers,
        motive processor →
        motive { processor with memory := memory, registers := registers })
    {before : Processor}
    (holds : motive before)
    (call : Call) :
    motive (before.afterCall call) := by
  have setsPointer (value : UInt8) : motive (before.setStackPointer value) :=
    write before before.memory (before.registers.setStackPointer value) holds
  have prepared : motive before.prepare := by
    unfold Processor.prepare
    split
    · exact setsPointer Registers.stackTop
    · exact holds
  have attempt
      {α : Type}
      (outcome : Except AccessError α)
      {change : α → Processor}
      (changes : ∀ value, motive (change value)) :
      motive (before.attempted (outcome.map change)) := by
    cases outcome with
    | ok value => exact changes value
    | error error => exact holds
  cases call with
  | load image =>
      exact attempt (before.memory.load image) fun memory =>
        write before memory before.registers holds
  | step sink => exact step before sink holds
  | run sink =>
      exact Processor.runFor_preserves step prepared sink greatestWord
  | runFor sink limit =>
      exact Processor.runFor_preserves step prepared sink limit
  | setRegister index value =>
      exact attempt (before.registers.set index value) fun registers =>
        write before before.memory registers holds
  | setStackPointer value => exact setsPointer value
  | writeCell address value =>
      exact attempt (before.memory.write address value) fun memory =>
        write before memory before.registers holds

/-- What one call preserves, any number of them preserves. -/
theorem afterCalls_preserves
    (step :
      ∀ processor sink,
        motive processor → motive (processor.step sink).processor)
    (write :
      ∀ processor memory registers,
        motive processor →
        motive { processor with memory := memory, registers := registers })
    {before : Processor}
    (holds : motive before)
    (calls : List Call) :
    motive (before.afterCalls calls) := by
  induction calls generalizing before with
  | nil => exact holds
  | cons call rest inductionHypothesis =>
      exact inductionHypothesis (afterCall_preserves step write holds call)

end

/-- What is true of a processor at all times. -/
structure Coherent (processor : Processor) : Prop where
  pc_le : processor.pc ≤ 258
  /-- No flag is set, or just one. -/
  flags : processor.flags.bits ∈ [0, 1, 2, 4]
  /-- A processor that has counted nothing is where it began. -/
  unused :
    processor.steps = 0 → processor.pc = 0 ∧ processor.flags.bits = 0

/-- What cannot be undone by going on. -/
structure Advances (before after : Processor) : Prop where
  flagged : before.flags.bits ≠ 0 → after.flags.bits ≠ 0
  steps_le : before.steps ≤ after.steps
  halted : before.status = .halted → after.status = .halted

theorem bits_comparison (left right : UInt8) :
    (comparison left right).bits ∈ [1, 2, 4] := by
  unfold comparison
  cases compare left.toNat right.toNat <;> decide

/-- An instruction in memory leads to a byte, or at most three cells on. -/
theorem pcAfter_le
    {before : Processor}
    (inMemory : before.pc < 256)
    (opcode : Opcode)
    (first : UInt8) :
    pcAfter before opcode first ≤ 258 := by
  have byte (value : UInt8) : value.toNat ≤ 258 :=
    Nat.le_trans (Nat.le_of_lt value.toNat_lt) (by decide)
  cases opcode with
  | jmp | call | ret => exact byte _
  | jeq | jne =>
      simp only [pcAfter]
      have target := byte (operand before first)
      split <;> omega
  | _ =>
      simp only [pcAfter]
      omega

/-- The flags change only to the outcome of a comparison. -/
theorem flagsAfter_cases
    (before : Processor)
    (opcode : Opcode)
    (first second : UInt8) :
    flagsAfter before opcode first second = before.flags ∨
      (flagsAfter before opcode first second).bits ∈ [1, 2, 4] := by
  cases opcode with
  | cmp => exact Or.inr (bits_comparison _ _)
  | _ => exact Or.inl rfl

namespace Coherent

theorem initial : Coherent Processor.initial where
  pc_le := by decide
  flags := by decide
  unused := fun _ => ⟨rfl, rfl⟩

theorem write
    {processor : Processor}
    (coherent : Coherent processor)
    (memory : Memory)
    (registers : Registers) :
    Coherent { processor with memory := memory, registers := registers } where
  pc_le := coherent.pc_le
  flags := coherent.flags
  unused := coherent.unused

theorem step
    {before : Processor}
    (coherent : Coherent before)
    (sink : Sink) :
    Coherent (before.step sink).processor := by
  have stepped := before.stepped sink
  generalize before.step sink = transition at stepped ⊢
  cases stepped with
  | idle => exact coherent
  | unfetched | undecoded | failed | refused =>
      exact ⟨coherent.pc_le, coherent.flags, coherent.unused⟩
  | @completed opcode after fetches faultless follows steps accepts =>
      refine { pc_le := ?_, flags := ?_, unused := ?_ }
      · rw [follows.pc]
        exact pcAfter_le fetches.inMemory opcode before.firstByte
      · rw [follows.flags]
        rcases flagsAfter_cases before opcode before.firstByte
            before.secondByte with same | compared
        · rw [same]
          exact coherent.flags
        · exact List.mem_cons_of_mem 0 compared
      · intro unused
        rw [steps] at unused
        exact (Nat.succ_ne_zero _ unused).elim

/-- Any calls leave a new processor coherent. -/
theorem afterCalls (calls : List Call) :
    Coherent (Processor.initial.afterCalls calls) :=
  afterCalls_preserves (fun _ sink coherent => coherent.step sink)
    (fun _ memory registers coherent => coherent.write memory registers)
    initial calls

end Coherent

namespace Advances

theorem refl (processor : Processor) : Advances processor processor where
  flagged := id
  steps_le := Nat.le_refl _
  halted := id

theorem trans
    {before middle after : Processor}
    (first : Advances before middle)
    (second : Advances middle after) :
    Advances before after where
  flagged := second.flagged ∘ first.flagged
  steps_le := Nat.le_trans first.steps_le second.steps_le
  halted := second.halted ∘ first.halted

theorem step (before : Processor) (sink : Sink) :
    Advances before (before.step sink).processor := by
  have stepped := before.stepped sink
  generalize before.step sink = transition at stepped ⊢
  cases stepped with
  | idle => exact refl before
  | unfetched | undecoded | failed | refused =>
      exact ⟨id, Nat.le_refl _, fun _ => rfl⟩
  | @completed opcode after fetches faultless follows steps accepts =>
      refine { flagged := ?_, steps_le := ?_, halted := ?_ }
      · intro flagged
        rw [follows.flags]
        rcases flagsAfter_cases before opcode before.firstByte
            before.secondByte with same | compared
        · rwa [same]
        · intro clear
          simp [clear] at compared
      · rw [steps]
        exact Nat.le_succ _
      · intro halted
        simp [fetches.running] at halted

/-- Any calls lead on from where a processor is. -/
theorem afterCalls (before : Processor) (calls : List Call) :
    Advances before (before.afterCalls calls) :=
  afterCalls_preserves (fun _ sink advances => advances.trans (step _ sink))
    (fun _ _ _ advances =>
      advances.trans ⟨id, Nat.le_refl _, id⟩)
    (refl before) calls

end Advances

/--
After any calls on a new processor, whatever their arguments and sinks, the
processor is coherent, and further calls only advance it. If its program
counter is beyond the last cell, it has halted or will fault there. The sums
that a step computes from the program counter fit into a word.
-/
theorem coherent_and_advances (calls later : List Call) :
    let reached := Processor.initial.afterCalls calls
    Coherent reached ∧
      Advances reached (reached.afterCalls later) ∧
      (256 ≤ reached.pc →
        reached.pc ≤ 258 ∧
          (reached.status = .halted ∨
            ∀ sink,
              (reached.step sink).result =
                .error (.access (.memory reached.pc)))) ∧
      ∀ opcode : Opcode,
        reached.pc + 1 ≤ greatestWord ∧
          reached.pc + 2 ≤ greatestWord ∧
          reached.pc + opcode.size ≤ greatestWord := by
  intro reached
  have coherent : Coherent reached := Coherent.afterCalls calls
  refine ⟨coherent, Advances.afterCalls reached later, ?_, ?_⟩
  · intro beyond
    refine ⟨coherent.pc_le, ?_⟩
    cases status : reached.status with
    | halted => exact Or.inl rfl
    | running =>
        right
        intro sink
        rw [Processor.step_of_le status beyond]
        rfl
  · intro opcode
    have low := coherent.pc_le
    have short := opcode.operandCount_le_two
    unfold Opcode.size greatestWord
    omega

/-- Calls that make the processor jump to an `LDI` in the last cell. -/
def jumpToTop : List Call :=
  [
    .writeCell 0 Opcode.jmp.byte,
    .writeCell 1 1,
    .setRegister 1 255,
    .setRegister 8 1,
    .writeCell 255 Opcode.ldi.byte,
    .runFor { room := some 0, refusal := .brokenPipe } 2
  ]

/-- The program counter does reach 258, and the next step faults there. -/
theorem coherent_and_advances_jumpToTop :
    (Processor.initial.afterCalls jumpToTop).pc = 258 ∧
      ∀ sink,
        ((Processor.initial.afterCalls jumpToTop).step sink).result =
          .error (.access (.memory 258)) := by
  have pc : (Processor.initial.afterCalls jumpToTop).pc = 258 := rfl
  have running :
      (Processor.initial.afterCalls jumpToTop).status = .running := rfl
  refine ⟨pc, ?_⟩
  obtain ⟨-, -, atTop, -⟩ := coherent_and_advances jumpToTop []
  obtain ⟨-, halted | faults⟩ := atTop (by rw [pc]; decide)
  · simp [running] at halted
  · rw [pc] at faults
    exact faults

end LS8
