import LS8.CommandLine.Session
import LS8.Proofs.Loop

namespace LS8

/-!
# Faults are atomic

A step that faults has changed nothing of the processor but the status. The
sink is changed only by a `PRN` whose text it did not take as a whole, and then
it has taken a proper beginning of that text.

A run that faults therefore ends where its last successful step has led, with
the processor halted; the program counter is still at the faulting instruction.
-/

open InstructionTable

/-- A print whose text the sink took only in part. -/
structure PrintCutShort
    (before : Processor)
    (sink : Sink)
    (fault : Fault) :
    Prop where
  fetches : Fetches before .prn
  refused : ∃ refusal, fault = .output refusal
  /-- The printed register exists, and a proper beginning of its line is out. -/
  cut :
    ∃ register : Register,
      register.val = before.firstByte.toNat ∧
        ∃ rest,
          rest ≠ "" ∧
            printedText (before.step sink).events ++ rest =
              (before.registers.value register).toNat.repr ++ "\n"

/-- A step that faults leaves the sink alone, unless it cut a print short. -/
theorem output_of_step_error
    {before : Processor}
    {sink : Sink}
    {fault : Fault}
    (faults : (before.step sink).result = .error fault) :
    ((before.step sink).sink = sink ∧
        printedText (before.step sink).events = "") ∨
      PrintCutShort before sink fault := by
  have stepped := before.stepped sink
  generalize transitionEq : before.step sink = transition at faults stepped ⊢
  cases stepped with
  | idle | completed => simp at faults
  | unfetched | undecoded | failed => exact Or.inl ⟨rfl, rfl⟩
  | @refused refusal fetches faultless refuses =>
      refine Or.inr ⟨fetches, ⟨refusal, by simpa using faults.symm⟩, ?_⟩
      obtain ⟨register, names⟩ := exists_named_of_unnamed? faultless
      obtain ⟨rest, nonempty, whole⟩ := Sink.exists_rest_of_refused refuses
      refine ⟨register, Register.val_of_named names, rest, nonempty, ?_⟩
      rw [transitionEq, printedText_append, printedText_decoded,
        printedText_printed, String.empty_append, whole]
      simp only [printed, operand_of_named names]

/--
A step that faults halts the processor and changes nothing else of it; nothing
comes out but, perhaps, a proper beginning of the line of a `PRN`. A run that
faults leaves the processor of its last successful step, halted, and has
counted just those steps; the report names the address of the instruction that
faulted.
-/
theorem faults_atomic (before : Processor) (sink : Sink) :
    (∀ fault,
      (before.step sink).result = .error fault →
      (before.step sink).processor = { before with status := .halted } ∧
        (((before.step sink).sink = sink ∧
            printedText (before.step sink).events = "") ∨
          PrintCutShort before sink fault)) ∧
    (∀ limit fault,
      (before.runFor sink limit).result = .error fault →
      ∃ count reached reachedSink events,
        Trajectory count before.prepare sink events reached reachedSink ∧
          reached.status = .running ∧
          (reached.step reachedSink).result = .error fault ∧
          (before.runFor sink limit).processor =
            { reached with status := .halted } ∧
          (before.runFor sink limit).processor.steps =
            before.steps + count ∧
          (before.runFor sink limit).processor.pc = reached.pc ∧
          ∀ options error,
            fault = .access error →
            (Session.report options
                (before.runFor sink limit).processor
                (before.runFor sink limit).result).diagnostics =
              Session.dump options { reached with status := .halted } ++
                Session.diagnostic
                  ("fault at pc " ++ addressText reached.pc ++ ": " ++
                    error.message)) := by
  constructor
  · intro fault faults
    exact ⟨processor_of_step_error faults, output_of_step_error faults⟩
  · intro limit fault faults
    obtain ⟨events, ends, -⟩ := before.ends_runFor sink limit
    rw [faults] at ends
    generalize (before.runFor sink limit).processor = final at ends ⊢
    generalize (before.runFor sink limit).sink = finalSink at ends
    cases ends with
    | @faulted count reached reachedSink events _ trajectory within running
        reachedFaults =>
        have atomic := processor_of_step_error reachedFaults
        refine ⟨count, reached, reachedSink, events, trajectory, running,
          reachedFaults, atomic, ?_, ?_, ?_⟩
        · rw [atomic]
          exact trajectory.steps_eq.trans (by rw [steps_prepare])
        · rw [atomic]
        · rintro options error rfl
          rw [atomic, faults]
          rfl

/-- A processor at a `PRN` of a register that holds zero. -/
def printZero : Processor :=
  {
    Processor.initial with
    memory := Memory.empty.store 0 Opcode.prn.byte
  }

/-- A sink with room for the digit, but not for the end of the line. -/
def oneCharacter : Sink :=
  { room := some 1, refusal := .sinkFull }

/-- The line of a zero does not fit into one character. -/
theorem result_step_printZero :
    (printZero.step oneCharacter).result = .error (.output .sinkFull) := by
  have line : printedLine 0 = "0\n" := by
    rw [printedLine, decimal_eq_repr]
    rfl
  have decodes :
      Opcode.decode? (printZero.memory.peek printZero.pc) = some .prn :=
    rfl
  have names : Register.named printZero.firstByte.toNat = .ok 0 := rfl
  have value : printZero.registers.value 0 = 0 := rfl
  rw [Processor.step_of_decoded rfl (by decide) decodes]
  simp only [Action.execute, EStateM.run_bind, Action.run_printRegister,
    names, Machine.decoded, value, line]
  rfl

/-- A processor that comes to a `PUSH R9` after a `NOP`. -/
def pushBeyond : Processor :=
  {
    Processor.initial with
    memory := (Memory.empty.store 1 Opcode.push.byte).store 2 9
  }

/-- A line cut short leaves the processor, and so does a register too many. -/
theorem faults_atomic_printZero_pushBeyond :
    ((printZero.step oneCharacter).result = .error (.output .sinkFull) ∧
      (printZero.step oneCharacter).processor =
        { printZero with status := .halted }) ∧
    ((pushBeyond.runFor Sink.unlimited 5).result =
        .error (.access (.register 9)) ∧
      ∃ count reached reachedSink events,
        Trajectory count pushBeyond.prepare Sink.unlimited events
            reached reachedSink ∧
          (pushBeyond.runFor Sink.unlimited 5).processor =
            { reached with status := .halted }) := by
  refine ⟨⟨result_step_printZero, ?_⟩, rfl, ?_⟩
  · exact ((faults_atomic printZero oneCharacter).1 _
      result_step_printZero).1
  · obtain ⟨count, reached, reachedSink, events, trajectory, -, -, final, -⟩ :=
      (faults_atomic pushBeyond Sink.unlimited).2 5
        (.access (.register 9)) rfl
    exact ⟨count, reached, reachedSink, events, trajectory, final⟩

end LS8
