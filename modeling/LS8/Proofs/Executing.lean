import LS8.Proofs.Stepping

namespace LS8

/-!
# Instructions without their fetch

`Processor.executing` executes an instruction with given operand bytes on a
processor, wherever the instruction comes from. A step executes the instruction
that it fetches, with the operand bytes that the opcode has
(`Fetches.step_eq_executing`); what else the step has fetched shows in the
record of the instruction and nowhere else.

What an execution leads to is read off the table. There is one lemma for each
of its three ends, so that two executions can be compared end by end.
-/

open InstructionTable

/--
The step of a processor whose instruction is given. The instruction is recorded
with the two bytes that follow it in memory, whatever its operand bytes are.
-/
def Processor.executing
    (before : Processor)
    (sink : Sink)
    (opcode : Opcode)
    (first second : UInt8) :
    Transition :=
  match (Action.execute opcode first second).run
      (Machine.decoded before sink opcode) with
  | .ok _ machine => machine.complete
  | .error fault machine => machine.stopAt fault

/-- A step executes what it fetches; operand bytes that do not exist may be any. -/
theorem Fetches.step_eq_executing
    {before : Processor}
    {opcode : Opcode}
    {first second : UInt8}
    (fetches : Fetches before opcode)
    (sameFirst : 1 ≤ opcode.operandCount → before.firstByte = first)
    (sameSecond : 2 ≤ opcode.operandCount → before.secondByte = second)
    (sink : Sink) :
    before.step sink = before.executing sink opcode first second := by
  rw [Processor.step_of_decoded fetches.running fetches.inMemory
    fetches.decodes]
  rw [Action.execute_congr sameFirst sameSecond]
  rfl

/-- The operand bytes may be those that the step has fetched, in any case. -/
theorem Fetches.step_eq
    {before : Processor}
    {opcode : Opcode}
    (fetches : Fetches before opcode)
    (sink : Sink) :
    before.step sink =
      before.executing sink opcode before.firstByte before.secondByte :=
  fetches.step_eq_executing (fun _ => rfl) (fun _ => rfl) sink

namespace Processor

/-- The outcome of the instruction, which the table describes, ends the step. -/
theorem exists_execution
    (before : Processor)
    (sink : Sink)
    (opcode : Opcode)
    (first second : UInt8) :
    ∃ outcome,
      Execution (Machine.decoded before sink opcode) opcode first second
          outcome ∧
        before.executing sink opcode first second =
          match outcome with
          | .ok _ machine => machine.complete
          | .error fault machine => machine.stopAt fault :=
  ⟨_, execution_run _ _ _ _, rfl⟩

variable
  {before : Processor}
  {sink : Sink}
  {opcode : Opcode}
  {first second : UInt8}

/-- An instruction that meets no error, and whose text is taken, is completed. -/
theorem executing_of_accepts
    (faultless : accessError? before opcode first second = none)
    (accepts : (sink.write (printed before opcode first)).refusal? = none) :
    ∃ after,
      Follows before opcode first second after ∧
        after.steps = before.steps + 1 ∧
        before.executing sink opcode first second =
          {
            processor := after
            sink := (sink.write (printed before opcode first)).sink
            events :=
              (Machine.decoded before sink opcode).events ++
                output before opcode first
            result := .ok after.status
          } := by
  obtain ⟨outcome, execution, concludes⟩ :=
    before.exists_execution sink opcode first second
  rw [concludes]
  cases execution with
  | completed _ follows steps =>
      exact ⟨_, follows.counted, congrArg (· + 1) steps, rfl⟩
  | failed fails => exact absurd (faultless.symm.trans fails) (by simp)
  | refused _ _ refuses => exact absurd (accepts.symm.trans refuses) (by simp)

/-- An instruction that meets an error changes nothing but the status. -/
theorem executing_of_error
    {error : AccessError}
    (fails : accessError? before opcode first second = some error) :
    before.executing sink opcode first second =
      {
        processor := { before with status := .halted }
        sink := sink
        events := (Machine.decoded before sink opcode).events
        result := .error (.access error)
      } := by
  obtain ⟨outcome, execution, concludes⟩ :=
    before.exists_execution sink opcode first second
  rw [concludes]
  cases execution with
  | completed faultless => exact absurd (faultless.symm.trans fails) (by simp)
  | failed alsoFails =>
      obtain rfl := Option.some.inj (fails.symm.trans alsoFails)
      rfl
  | refused _ faultless => exact absurd (faultless.symm.trans fails) (by simp)

/-- A print that is refused leaves what the sink took of its line. -/
theorem executing_of_refused
    {refusal : Refusal}
    (faultless : accessError? before opcode first second = none)
    (refuses :
      (sink.write (printed before opcode first)).refusal? = some refusal) :
    before.executing sink opcode first second =
      {
        processor := { before with status := .halted }
        sink := (sink.write (printed before opcode first)).sink
        events :=
          (Machine.decoded before sink opcode).events ++
            [.printed
              (sink.write (printed before opcode first)).accepted]
        result := .error (.output refusal)
      } := by
  obtain ⟨outcome, execution, concludes⟩ :=
    before.exists_execution sink opcode first second
  rw [concludes]
  cases execution with
  | completed _ _ _ accepts =>
      exact absurd (accepts.symm.trans refuses) (by simp)
  | failed fails => exact absurd (faultless.symm.trans fails) (by simp)
  | refused _ _ alsoRefuses =>
      obtain rfl := Option.some.inj (refuses.symm.trans alsoRefuses)
      rfl

end Processor

end LS8
