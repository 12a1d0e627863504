import LS8.Proofs.Executing
import LS8.Proofs.LastWriter
import LS8.Proofs.Walk

namespace LS8

/-!
# Steps that look alike

Two processors may differ in what an instruction does not use. As long as they
come to the same instruction (`SameInstruction`), their steps look alike, and
both execute the instruction to its end or both change nothing but the status
(`SameInstruction.step`). What becomes of the difference can then be read off
the table.

Walks that stay related in this way print the same text, whatever the relation
is (`walks_alike`).
-/

open InstructionTable

/-- Two steps are the same to see, as long as nobody looks at the trace. -/
structure LookAlike (left right : Transition) : Prop where
  result : left.result = right.result
  sink : left.sink = right.sink
  shown :
    shownEvents (.upTo .debug) left.events =
      shownEvents (.upTo .debug) right.events

/-- Printed text belongs to what is seen. -/
theorem LookAlike.printed
    {left right : Transition}
    (alike : LookAlike left right) :
    printedText left.events = printedText right.events := by
  rw [← printedText_shownEvents (.upTo .debug) left.events, alike.shown,
    printedText_shownEvents]

/--
Two processors come to the same instruction, with the same operand bytes, meet
the same errors in it and let out the same.
-/
structure SameInstruction (left right : Processor) : Prop where
  status : left.status = right.status
  pc : left.pc = right.pc
  byte :
    left.status = .running →
    left.memory.peek left.pc = right.memory.peek right.pc
  operandByte :
    ∀ opcode index,
      Fetches left opcode →
      index ≤ opcode.operandCount →
      right.memory.peek (right.pc + index) =
        left.memory.peek (left.pc + index)
  error :
    ∀ opcode first second,
      accessError? right opcode first second =
        accessError? left opcode first second
  output :
    ∀ opcode first,
      InstructionTable.output right opcode first =
        InstructionTable.output left opcode first

/-- What becomes of two processors that come to the same instruction. -/
inductive StepTogether
    (left right : Processor)
    (sink : Sink) :
    Processor → Processor → Prop where
  /-- Both have halted before. -/
  | idle
      (rests : ∀ opcode, ¬ left.Executes sink opcode) :
      StepTogether left right sink left right
  /-- Both halt at a fault. -/
  | fault
      (rests : ∀ opcode, ¬ left.Executes sink opcode) :
      StepTogether left right sink
        { left with status := .halted }
        { right with status := .halted }
  /-- Both execute the same instruction with the same operand bytes. -/
  | execute
      {opcode : Opcode}
      {first second : UInt8}
      {leftAfter rightAfter : Processor}
      (executes : left.Executes sink opcode)
      (leftFollows : Follows left opcode first second leftAfter)
      (rightFollows : Follows right opcode first second rightAfter)
      (leftSteps : leftAfter.steps = left.steps + 1)
      (rightSteps : rightAfter.steps = right.steps + 1) :
      StepTogether left right sink leftAfter rightAfter

namespace SameInstruction

variable
  {left right : Processor}
  {opcode : Opcode}

/-- The processors fetch the same opcode. -/
theorem fetches
    (same : SameInstruction left right)
    (fetches : Fetches left opcode) :
    Fetches right opcode where
  running := same.status ▸ fetches.running
  inMemory := same.pc ▸ fetches.inMemory
  decodes := same.byte fetches.running ▸ fetches.decodes

/-- Both processors execute the same instruction with the same operand bytes. -/
theorem step_eq_executing
    (same : SameInstruction left right)
    (fetches : Fetches left opcode)
    (sink : Sink) :
    right.step sink =
      right.executing sink opcode left.firstByte left.secondByte :=
  (same.fetches fetches).step_eq_executing
    (same.operandByte opcode 1 fetches)
    (same.operandByte opcode 2 fetches) sink

theorem printed_eq
    (same : SameInstruction left right)
    (opcode : Opcode)
    (first : UInt8) :
    printed right opcode first = printed left opcode first := by
  rw [← printedText_output, same.output, printedText_output]

/-- The steps look alike, and they are made together. -/
theorem step
    (same : SameInstruction left right)
    (sink : Sink) :
    LookAlike (left.step sink) (right.step sink) ∧
      StepTogether left right sink
        (left.step sink).processor (right.step sink).processor := by
  have failing
      {fault : Fault}
      (faults : (left.step sink).result = .error fault) :
      ∀ opcode, ¬ left.Executes sink opcode := by
    rintro opcode ⟨-, status, succeeds⟩
    simp [faults] at succeeds
  have completing
      {opcode : Opcode}
      {status : Status}
      (fetches : Fetches left opcode)
      (succeeds : (left.step sink).result = .ok status) :
      left.Executes sink opcode :=
    ⟨Processor.instruction?_of_fetches fetches, status, succeeds⟩
  have stepped := left.stepped sink
  generalize left.step sink = transition at stepped failing completing ⊢
  cases stepped with
  | idle halted =>
      rw [Processor.step_of_halted (same.status ▸ halted)]
      refine ⟨⟨rfl, rfl, rfl⟩, .idle ?_⟩
      rintro opcode ⟨instruction, -⟩
      simp [Processor.instruction?_of_halted halted] at instruction
  | unfetched running beyond =>
      rw [Processor.step_of_le (same.status ▸ running) (same.pc ▸ beyond),
        ← same.pc]
      exact ⟨⟨rfl, rfl, rfl⟩, .fault (failing rfl)⟩
  | undecoded running inMemory undecoded =>
      have byte := same.byte running
      rw [byte] at undecoded
      rw [Processor.step_of_undecoded (same.status ▸ running)
        (same.pc ▸ inMemory) undecoded, ← byte, ← same.pc]
      exact ⟨⟨rfl, rfl, rfl⟩, .fault (failing rfl)⟩
  | @completed opcode after fetches faultless follows steps accepts =>
      rw [← same.error] at faultless
      rw [← same.printed_eq] at accepts ⊢
      obtain ⟨rightAfter, rightFollows, rightSteps, executes⟩ :=
        Processor.executing_of_accepts faultless accepts
      rw [same.step_eq_executing fetches, executes]
      have status : after.status = rightAfter.status := by
        rw [follows.status, rightFollows.status]
        cases opcode with
        | hlt => rfl
        | _ => exact same.status
      refine ⟨⟨congrArg Except.ok status, rfl, ?_⟩, ?_⟩
      · rw [same.output, shownEvents_append, shownEvents_append]
        rfl
      · exact .execute (completing fetches rfl) follows rightFollows steps
          rightSteps
  | failed fetches fails =>
      rw [← same.error] at fails
      rw [same.step_eq_executing fetches, Processor.executing_of_error fails]
      exact ⟨⟨rfl, rfl, rfl⟩, .fault (failing rfl)⟩
  | refused fetches faultless refuses =>
      rw [← same.error] at faultless
      rw [← same.printed_eq] at refuses ⊢
      rw [same.step_eq_executing fetches,
        Processor.executing_of_refused faultless refuses]
      exact ⟨⟨rfl, rfl, rfl⟩, .fault (failing rfl)⟩

end SameInstruction

/--
Two walks print the same as long as they stay related and related steps look
alike. Steps may be compared as steps on one sink, since the sinks are the same.
-/
theorem walks_alike
    {related : Nat → Processor → Processor → Prop}
    {before other : Processor}
    {sink : Sink}
    {count : Nat}
    (start : related 0 before other)
    (step :
      ∀ index < count,
        let left := (before.walk sink index).processor
        let right := (other.walk sink index).processor
        let shared := (before.walk sink index).sink
        related index left right →
        LookAlike (left.step shared) (right.step shared) ∧
          related (index + 1)
            (left.step shared).processor (right.step shared).processor) :
    (∀ index < count,
      LookAlike
        ((before.walk sink index).processor.step
          (before.walk sink index).sink)
        ((other.walk sink index).processor.step
          (other.walk sink index).sink)) ∧
      ∀ index ≤ count,
        printedText (before.walk sink index).events =
            printedText (other.walk sink index).events ∧
          related index
            (before.walk sink index).processor
            (other.walk sink index).processor := by
  -- The sinks and the texts go along with the processors.
  have along (index : Nat) :
      index ≤ count →
      (other.walk sink index).sink = (before.walk sink index).sink ∧
        printedText (before.walk sink index).events =
          printedText (other.walk sink index).events ∧
        related index
          (before.walk sink index).processor
          (other.walk sink index).processor := by
    induction index with
    | zero => exact fun _ => ⟨rfl, rfl, start⟩
    | succ index inductionHypothesis =>
        intro within
        obtain ⟨sinkEq, textEq, relates⟩ :=
          inductionHypothesis (Nat.le_of_lt within)
        obtain ⟨alike, relatesAfter⟩ := step index within relates
        rw [Processor.walk_succ, Processor.walk_succ, Machine.next,
          Machine.next, sinkEq]
        refine ⟨alike.sink.symm, ?_, relatesAfter⟩
        rw [printedText_append, printedText_append, textEq, alike.printed]
  constructor
  · intro index within
    obtain ⟨sinkEq, -, relates⟩ := along index (Nat.le_of_lt within)
    rw [sinkEq]
    exact (step index within relates).1
  · intro index within
    exact (along index within).2

end LS8
