import LS8.Proofs.FaultAtomicity
import LS8.Proofs.RunAccount

namespace LS8

/-!
# Which faults are warned of

Of the records that steps and runs leave, those of an execution that goes as it
should are never warnings. What is left is decided by the result alone
(`graveRecords_step`, `graveRecords_runFor`): an unknown instruction is warned
of, and a missing register, an address beyond the memory or a refused output is
not. The fault is in the result then, but the log does not have it.
-/

/-- The records that are warnings or worse, in order. -/
def grave (records : List Record) : List Record :=
  records.filter fun record => record.level = .warn ∨ record.level = .error

/-- The warnings, or worse, in what was logged. -/
def graveRecords (events : List Event) : List Record :=
  grave (loggedRecords events)

/-- The records that tell of the fault in a result. -/
def warnings {α : Type} : Except Fault α → List Record
  | .ok _ => []
  | .error fault => fault.warning

/-- Whether an instruction was fetched that is none. -/
def Fault.IsUnknownOpcode (fault : Fault) : Prop :=
  ∃ opcode pc, fault = .unknownOpcode opcode pc

theorem Fault.warning_ne_nil_iff (fault : Fault) :
    fault.warning ≠ [] ↔ fault.IsUnknownOpcode := by
  cases fault <;> simp [warning, IsUnknownOpcode]

theorem grave_append (earlier later : List Record) :
    grave (earlier ++ later) = grave earlier ++ grave later :=
  List.filter_append ..

/-- A record that tells of a fault is a warning. -/
theorem grave_warning (fault : Fault) :
    grave fault.warning = fault.warning := by
  cases fault <;> rfl

namespace Processor

variable
  {before : Processor}
  {sink : Sink}

/-- An instruction and a halt are no reason for a warning. -/
theorem grave_account :
    grave before.account?.toList = [] := by
  unfold account?
  cases before.instruction? <;> rfl

theorem grave_haltNote :
    grave before.haltNote = [] := by
  unfold haltNote
  cases before.status <;> rfl

theorem grave_accounts (count : Nat) :
    grave (before.accounts sink count) = [] := by
  rw [grave, List.filter_eq_nil_iff]
  intro record member
  simp [level_of_mem_accounts member]

/-- A step warns of the fault that it results in, if that is to be warned of. -/
theorem graveRecords_step (before : Processor) (sink : Sink) :
    graveRecords (before.step sink).events =
      warnings (before.step sink).result := by
  cases status : before.status with
  | halted =>
      rw [step_of_halted status]
      rfl
  | running =>
      cases result : (before.step sink).result with
      | ok next =>
          rw [graveRecords, loggedRecords_step_of_ok status result,
            grave_append, grave_account, grave_haltNote]
          rfl
      | error fault =>
          rw [graveRecords, loggedRecords_step_of_error result,
            grave_append, grave_account, grave_warning]
          rfl

end Processor

/-- The notes of a run are warnings only of its fault. -/
theorem RunNotes.grave_eq
    {before final : Processor}
    {sink : Sink}
    {limit attempted : Nat}
    {result : Except Fault Nat}
    {notes : List Record}
    (runNotes : RunNotes before sink limit final attempted result notes) :
    grave notes = warnings result := by
  cases runNotes with
  | fault => exact grave_warning _
  | _ => rfl

/-- So does a run, of the fault in which it ends. -/
theorem Processor.graveRecords_runFor
    (before : Processor)
    (sink : Sink)
    (limit : Nat) :
    graveRecords (before.runFor sink limit).events.toList =
      warnings (before.runFor sink limit).result := by
  obtain ⟨attempted, vain, notes, -, recordsEq, -, -, runNotes⟩ :=
    exists_accounts before sink limit
  rw [graveRecords, recordsEq, grave_append, grave_accounts,
    runNotes.grave_eq, List.nil_append]

/--
A step that succeeds warns of nothing. A step that faults leaves a record that
is a warning or worse just if the fault is an unknown instruction, and then it
is one record, which names the byte and its address. The same is true of runs.
-/
theorem unknown_opcodes_alone_warned_of
    (before : Processor)
    (sink : Sink) :
    (∀ status,
      (before.step sink).result = .ok status →
      graveRecords (before.step sink).events = []) ∧
    (∀ fault,
      (before.step sink).result = .error fault →
      (graveRecords (before.step sink).events ≠ [] ↔
        fault.IsUnknownOpcode)) ∧
    (∀ opcode pc,
      (before.step sink).result = .error (.unknownOpcode opcode pc) →
      graveRecords (before.step sink).events =
        [.unknownInstruction opcode pc]) ∧
    (∀ limit fault,
      (before.runFor sink limit).result = .error fault →
      (graveRecords (before.runFor sink limit).events.toList ≠ [] ↔
        fault.IsUnknownOpcode)) := by
  have records := before.graveRecords_step sink
  refine ⟨?_, ?_, ?_, ?_⟩
  · intro status succeeds
    rw [records, succeeds]
    rfl
  · intro fault faults
    rw [records, faults]
    exact fault.warning_ne_nil_iff
  · intro opcode pc faults
    rw [records, faults]
    rfl
  · intro limit fault faults
    rw [before.graveRecords_runFor sink limit, faults]
    exact fault.warning_ne_nil_iff

/-- A processor at a byte that is no instruction. -/
def atUnknown : Processor :=
  {
    Processor.initial with
    memory := Memory.empty.store 0 0xFF
  }

/-- The unknown byte is warned of, and its address. -/
theorem unknown_opcodes_alone_warned_of_atUnknown :
    (atUnknown.step Sink.unlimited).result = .error (.unknownOpcode 0xFF 0) ∧
      graveRecords (atUnknown.step Sink.unlimited).events =
        [.unknownInstruction 0xFF 0] :=
  ⟨rfl, (unknown_opcodes_alone_warned_of atUnknown Sink.unlimited).2.2.1
    0xFF 0 rfl⟩

/-- A processor at a `PRN` of a register that does not exist. -/
def printBeyond : Processor :=
  {
    Processor.initial with
    memory := (Memory.empty.store 0 Opcode.prn.byte).store 1 9
  }

/--
Of no other fault the log has a warning: neither of a missing register nor of a
missing address or of a line that the sink refuses.
-/
theorem faults_without_warning :
    ((printBeyond.step Sink.unlimited).result =
        .error (.access (.register 9)) ∧
      graveRecords (printBeyond.step Sink.unlimited).events = []) ∧
    (((callAtTop 7).step Sink.unlimited).result =
        .error (.access (.memory 256)) ∧
      graveRecords ((callAtTop 7).step Sink.unlimited).events = []) ∧
    ((printZero.step oneCharacter).result = .error (.output .sinkFull) ∧
      graveRecords (printZero.step oneCharacter).events = []) := by
  refine ⟨⟨rfl, ?_⟩, ⟨rfl, ?_⟩, result_step_printZero, ?_⟩
  · rw [Processor.graveRecords_step]
    rfl
  · rw [Processor.graveRecords_step]
    rfl
  · rw [Processor.graveRecords_step, result_step_printZero]
    rfl

end LS8
