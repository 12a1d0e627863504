import LS8.Proofs.Loop

namespace LS8

/-!
# What a run logs

The events of a run are those of its steps, one step after the other, and a
last record if the limit has stopped it (`Ends.events_runFor`).

Most records are details: the instructions, the halt, the limit. Only a step
that comes to an unknown instruction leaves a record that is more than that
(`Processor.details_step`), and it ends the run
(`Processor.details_runFor`).
-/

open InstructionTable

/-- A record of an execution that goes as it should. -/
def Record.IsDetail (record : Record) : Prop :=
  record.level = .debug ∨ record.level = .trace

/-- All that is logged in a history is details. -/
def LogsDetails (events : List Event) : Prop :=
  ∀ record ∈ loggedRecords events, record.IsDetail

namespace LogsDetails

theorem append
    {earlier later : List Event}
    (first : LogsDetails earlier)
    (second : LogsDetails later) :
    LogsDetails (earlier ++ later) := by
  intro record logged
  rw [loggedRecords_append] at logged
  rcases List.mem_append.mp logged with before | after
  · exact first record before
  · exact second record after

theorem singleton
    {record : Record}
    (detail : record.IsDetail) :
    LogsDetails [.logged record] := by
  intro other logged
  obtain rfl := List.mem_singleton.mp logged
  exact detail

theorem decoded
    (before : Processor)
    (sink : Sink)
    (opcode : Opcode) :
    LogsDetails (Machine.decoded before sink opcode).events :=
  singleton (.inr rfl)

/-- Printed text is no record. -/
theorem printed (text : String) :
    LogsDetails [.printed text] := by
  rintro record ⟨⟩

/-- An executed instruction logs nothing, or the halt. -/
theorem output
    (before : Processor)
    (opcode : Opcode)
    (first : UInt8) :
    LogsDetails (InstructionTable.output before opcode first) := by
  cases opcode with
  | prn => exact printed _
  | hlt => exact singleton (.inl rfl)
  | _ => rintro record ⟨⟩

end LogsDetails

/-- A step logs details, unless it comes to an unknown instruction. -/
theorem Processor.details_step
    (before : Processor)
    (sink : Sink) :
    LogsDetails (before.step sink).events ∨
      ∃ opcode pc,
        (before.step sink).result = .error (.unknownOpcode opcode pc) := by
  have stepped := before.stepped sink
  generalize before.step sink = transition at stepped ⊢
  cases stepped with
  | idle | unfetched =>
      left
      rintro record ⟨⟩
  | undecoded => exact .inr ⟨_, _, rfl⟩
  | @completed opcode =>
      exact .inl
        ((LogsDetails.decoded before sink opcode).append (.output _ _ _))
  | @failed opcode => exact .inl (LogsDetails.decoded before sink opcode)
  | refused =>
      exact .inl ((LogsDetails.decoded before sink .prn).append (.printed _))

/-- Successful steps log details. -/
theorem Trajectory.details
    {count : Nat}
    {before after : Processor}
    {sink afterSink : Sink}
    {events : List Event}
    (trajectory : Trajectory count before sink events after afterSink) :
    LogsDetails events := by
  induction trajectory with
  | nil => rintro record ⟨⟩
  | @cons _ before _ sink _ _ _ running succeeds _ inductionHypothesis =>
      rcases before.details_step sink with details | ⟨opcode, pc, faults⟩
      · exact details.append inductionHypothesis
      · simp [succeeds] at faults

/-- So does a loop that does not end at an unknown instruction. -/
theorem Ends.details
    {limit : Nat}
    {before after : Processor}
    {sink afterSink : Sink}
    {events : List Event}
    {result : Except Fault Nat}
    (ends : Ends limit before sink after afterSink events result)
    (known : ∀ opcode pc, result ≠ .error (.unknownOpcode opcode pc)) :
    LogsDetails events := by
  cases ends with
  | stopped trajectory => exact trajectory.details
  | @faulted _ reached reachedSink _ fault trajectory _ _ faults =>
      rcases reached.details_step reachedSink with
        details | ⟨opcode, pc, unknown⟩
      · exact trajectory.details.append details
      · obtain rfl := Except.error.inj (faults.symm.trans unknown)
        exact absurd rfl (known opcode pc)

/-- The record that a run leaves if its limit has stopped the processor. -/
def Processor.limitNote (processor : Processor) (limit : Nat) : List Event :=
  match processor.status with
  | .halted => []
  | .running => [.logged (.limitReached limit processor.pc)]

theorem Run.toList_events_noteLimit (run : Run) (limit : Nat) :
    (run.noteLimit limit).events.toList =
      run.events.toList ++ run.processor.limitNote limit := by
  unfold noteLimit Processor.limitNote
  cases run.processor.status <;> simp

/-- The events of a run are those of its loop and the note on the limit. -/
theorem Ends.events_runFor
    {limit : Nat}
    {before after : Processor}
    {sink afterSink : Sink}
    {events : List Event}
    {result : Except Fault Nat}
    (ends : Ends limit before.prepare sink after afterSink events result) :
    (before.runFor sink limit).events.toList =
      events ++ after.limitNote limit := by
  obtain ⟨processorEq, -, eventsEq, -⟩ := ends.iterate_eq
  rw [Processor.runFor, Run.toList_events_noteLimit, processorEq, eventsEq]

/-- A run logs details, unless it ends at an unknown instruction. -/
theorem Processor.details_runFor
    {before : Processor}
    {sink : Sink}
    {limit : Nat}
    (known :
      ∀ opcode pc,
        (before.runFor sink limit).result ≠
          .error (.unknownOpcode opcode pc)) :
    LogsDetails (before.runFor sink limit).events.toList := by
  obtain ⟨after, afterSink, events, result, ends⟩ :=
    exists_ends limit before.prepare sink
  obtain ⟨-, -, -, resultEq⟩ := ends.runFor_eq
  rw [ends.events_runFor]
  apply (ends.details (by rwa [resultEq] at known)).append
  unfold Processor.limitNote
  cases after.status with
  | halted => rintro record ⟨⟩
  | running => exact .singleton (.inl rfl)

end LS8
