import LS8.Proofs.FaultConditions
import LS8.Proofs.HaltedProcessor
import LS8.Proofs.RecordTexts
import LS8.Proofs.RunCounts
import LS8.Proofs.RunRecords

namespace LS8

/-!
# The log accounts for a run

A step leaves a record of the instruction that it decodes, taken before the
instruction is executed (`Processor.account?`), and a last one if it halts the
processor without a fault. On a trajectory only the last step can halt, so that
the records of a trajectory are those of its instructions, in their order, and
perhaps a note on the halt (`Trajectory.loggedRecords_eq`).

A run adds a note on its limit, or the records of the step that faults. Whether
that step has come to decode an instruction depends on its fault (`RunEnding`).
-/

open InstructionTable

/-- The records of one severity, in order. -/
def recordsAt (level : Level) (records : List Record) : List Record :=
  records.filter fun record => record.level = level

/-- The records that tell of a fault. -/
def Fault.warning : Fault → List Record
  | .unknownOpcode opcode pc => [.unknownInstruction opcode pc]
  | .access _ | .output _ => []

namespace Processor

/-- What the log tells of the instruction that the next step decodes. -/
def account? (before : Processor) : Option Record :=
  before.instruction?.map fun opcode =>
    .decoded before.pc opcode
      (before.codeByte (before.pc + 1)) (before.codeByte (before.pc + 2))
      before.registers before.flags

/-- What the log tells of a processor that an instruction has halted. -/
def haltNote (after : Processor) : List Record :=
  match after.status with
  | .halted => [.halted after.pc after.steps]
  | .running => []

variable
  {before : Processor}
  {sink : Sink}

theorem account?_of_fetches
    {opcode : Opcode}
    (fetches : Fetches before opcode) :
    before.account? =
      some
        (.decoded before.pc opcode before.firstByte before.secondByte
          before.registers before.flags) := by
  rw [account?, instruction?_of_fetches fetches, codeByte_eq_peek,
    codeByte_eq_peek]
  rfl

theorem loggedRecords_decoded
    {opcode : Opcode}
    (fetches : Fetches before opcode) :
    loggedRecords (Machine.decoded before sink opcode).events =
      before.account?.toList := by
  rw [account?_of_fetches fetches]
  rfl

/-- A successful step logs its instruction and, if it halts, the halt. -/
theorem loggedRecords_step_of_ok
    {status : Status}
    (running : before.status = .running)
    (succeeds : (before.step sink).result = .ok status) :
    loggedRecords (before.step sink).events =
      before.account?.toList ++ (before.step sink).processor.haltNote := by
  have stepped := before.stepped sink
  generalize before.step sink = transition at succeeds stepped ⊢
  cases stepped with
  | idle halted => simp [running] at halted
  | unfetched | undecoded | failed | refused => simp at succeeds
  | @completed opcode after fetches _ follows steps =>
      rw [loggedRecords_append, loggedRecords_decoded fetches]
      congr 1
      cases opcode with
      | hlt =>
          have halted : after.status = .halted := follows.status
          have stays : after.pc = before.pc := follows.pc
          rw [haltNote, halted, stays, steps]
          rfl
      | _ =>
          have still : after.status = .running := follows.status.trans running
          rw [haltNote, still]
          rfl

/-- A step that fails logs its instruction, if it has come to decode one. -/
theorem loggedRecords_step_of_error
    {fault : Fault}
    (faults : (before.step sink).result = .error fault) :
    loggedRecords (before.step sink).events =
      before.account?.toList ++ fault.warning := by
  have stepped := before.stepped sink
  generalize before.step sink = transition at faults stepped ⊢
  cases stepped with
  | idle | completed => simp at faults
  | unfetched _ beyond =>
      cases faults
      rw [account?, instruction?_of_le beyond]
      rfl
  | undecoded _ _ undecoded =>
      cases faults
      rw [account?, instruction?_of_undecoded undecoded]
      rfl
  | failed fetches =>
      cases faults
      rw [loggedRecords_decoded fetches]
      exact (List.append_nil _).symm
  | refused fetches =>
      cases faults
      rw [loggedRecords_append, loggedRecords_decoded fetches]
      rfl

/-- What the log tells of the instructions of so many steps. -/
def accounts (before : Processor) (sink : Sink) (count : Nat) : List Record :=
  (List.range count).filterMap fun index =>
    (before.walk sink index).processor.account?

theorem accounts_succ (before : Processor) (sink : Sink) (count : Nat) :
    before.accounts sink (count + 1) =
      before.accounts sink count ++
        (before.walk sink count).processor.account?.toList := by
  rw [accounts, List.range_succ, List.filterMap_append]
  rfl

theorem level_of_mem_accounts
    {count : Nat}
    {record : Record}
    (member : record ∈ before.accounts sink count) :
    record.level = .trace := by
  obtain ⟨index, -, told⟩ := List.mem_filterMap.mp member
  obtain ⟨opcode, -, rfl⟩ := Option.map_eq_some_iff.mp told
  rfl

/-- Steps that execute instructions log them all, and the halt after the last. -/
theorem loggedRecords_walk
    (running : before.status = .running)
    (count : Nat)
    (executes :
      ∀ index < count, ∃ opcode, (before.walk sink index).Executes opcode) :
    loggedRecords (before.walk sink count).events =
        before.accounts sink count ++
          (before.walk sink count).processor.haltNote ∧
      (before.accounts sink count).length = count := by
  induction count with
  | zero =>
      rw [walk_zero, haltNote, show (Machine.start before sink).processor.status
        = .running from running]
      exact ⟨rfl, rfl⟩
  | succ count inductionHypothesis =>
      obtain ⟨records, length⟩ := inductionHypothesis fun index within =>
        executes index (Nat.lt_succ_of_lt within)
      obtain ⟨opcode, instruction, status, succeeds⟩ :=
        executes count (Nat.lt_succ_self count)
      have fetches := fetches_of_instruction? instruction
      -- A processor that steps on has not halted before.
      have unnoted : (before.walk sink count).processor.haltNote = [] := by
        rw [haltNote, fetches.running]
      rw [unnoted, List.append_nil] at records
      constructor
      · rw [walk_succ, Machine.next, loggedRecords_append, records,
          loggedRecords_step_of_ok fetches.running succeeds, accounts_succ,
          List.append_assoc]
      · rw [accounts_succ, List.length_append, length,
          account?_of_fetches fetches]
        rfl

end Processor

/-- The steps that a run makes, the one that faults included. -/
structure RunSteps
    (before : Processor)
    (sink : Sink)
    (limit count : Nat) :
    Prop where
  running :
    ∀ index < count,
      (before.prepare.walk sink index).processor.status = .running
  within : count ≤ limit
  stops :
    (before.prepare.walk sink count).processor.status = .halted ∨
      count = limit
  reached :
    (before.prepare.walk sink count).processor =
      (before.runFor sink limit).processor

/-- How a run has ended, and how many instructions it decoded in vain. -/
inductive RunEnding (final : Processor) : Except Fault Nat → Nat → Prop where
  | unfaulted
      {count : Nat} :
      RunEnding final (.ok count) 0
  | fetch
      (beyond : 256 ≤ final.pc) :
      RunEnding final (.error (.access (.memory final.pc))) 0
  | opcode
      (inMemory : final.pc < 256)
      (unencoded :
        ∀ opcode : Opcode, opcode.byte ≠ final.codeByte final.pc) :
      RunEnding final
        (.error (.unknownOpcode (final.codeByte final.pc) final.pc)) 0
  | register
      {opcode : Opcode}
      {index : Nat}
      (stands : StandsAt final opcode) :
      RunEnding final (.error (.access (.register index))) 1
  | returnAddress
      (stands : StandsAt final .call)
      (beyond : 255 < final.pc + 2) :
      RunEnding final (.error (.access (.memory (final.pc + 2)))) 1
  | output
      {refusal : Refusal}
      (stands : StandsAt final .prn) :
      RunEnding final (.error (.output refusal)) 1

/-- An instruction that faults, and no other thing that does, is in the log. -/
theorem Faults.runEnding
    {reached : Processor}
    {sink : Sink}
    {fault : Fault}
    (running : reached.status = .running)
    (faults : Faults reached sink fault) :
    RunEnding { reached with status := .halted } (.error fault)
      reached.account?.toList.length := by
  have told
      {opcode : Opcode}
      (stands : StandsAt reached opcode) :
      reached.account?.toList.length = 1 := by
    have fetches := (standsAt_iff_fetches running).mp stands
    rw [Processor.account?_of_fetches fetches]
    rfl
  cases faults with
  | fetch beyond =>
      rw [Processor.account?, Processor.instruction?_of_le beyond]
      exact .fetch beyond
  | opcode inMemory unencoded =>
      have undecoded := Opcode.decode?_eq_none_iff.mpr unencoded
      rw [reached.codeByte_eq_peek] at undecoded
      rw [Processor.account?, Processor.instruction?_of_undecoded undecoded]
      exact .opcode inMemory unencoded
  | register stands =>
      rw [told stands]
      exact .register ⟨stands.inMemory, stands.encodes⟩
  | returnAddress stands _ beyond =>
      rw [told stands]
      exact .returnAddress ⟨stands.inMemory, stands.encodes⟩ beyond
  | output stands =>
      rw [told stands]
      exact .output ⟨stands.inMemory, stands.encodes⟩

/-- The last records of a run, after those of its instructions. -/
inductive RunNotes
    (before : Processor)
    (sink : Sink)
    (limit : Nat)
    (final : Processor) :
    Nat → Except Fault Nat → List Record → Prop where
  /-- The run found the processor halted. -/
  | idle
      {attempted count : Nat}
      (entry : before.status = .halted) :
      RunNotes before sink limit final attempted (.ok count) []
  /-- The last instruction is a `HLT`, at which the processor stays. -/
  | halt
      {last count : Nat}
      (entry : before.status = .running)
      (halted : final.status = .halted)
      (executes : (before.prepare.walk sink last).Executes .hlt)
      (stays : final.pc = (before.prepare.walk sink last).processor.pc) :
      RunNotes before sink limit final (last + 1) (.ok count)
        [.halted final.pc final.steps]
  | limit
      {attempted count : Nat}
      (entry : before.status = .running)
      (running : final.status = .running) :
      RunNotes before sink limit final attempted (.ok count)
        [.limitReached limit final.pc]
  | fault
      {attempted : Nat}
      {fault : Fault} :
      RunNotes before sink limit final attempted (.error fault) fault.warning

namespace Trajectory

variable
  {count : Nat}
  {before after : Processor}
  {sink afterSink : Sink}
  {events : List Event}

/-- All processors that a trajectory steps from are running. -/
theorem running_walk
    (trajectory : Trajectory count before sink events after afterSink) :
    ∀ index < count, (before.walk sink index).processor.status = .running := by
  intro index within
  obtain ⟨opcode, executes⟩ := trajectory.executes_walk index within
  exact (Processor.fetches_of_instruction? executes.instruction).running

/-- A trajectory logs each of its instructions, and its halt. -/
theorem loggedRecords_eq
    (trajectory : Trajectory count before sink events after afterSink)
    (running : before.status = .running) :
    loggedRecords events =
        before.accounts sink count ++ after.haltNote ∧
      (before.accounts sink count).length = count := by
  have logged :=
    Processor.loggedRecords_walk running count trajectory.executes_walk
  rwa [trajectory.walk_eq] at logged

end Trajectory

section

variable
  {before after : Processor}
  {sink afterSink : Sink}
  {events : List Event}
  {limit count : Nat}

/-- The notes of a run without a fault. -/
theorem runNotes_of_trajectory
    (trajectory :
      Trajectory count before.prepare sink events after afterSink) :
    ∃ notes,
      loggedRecords (events ++ after.limitNote limit) =
          before.prepare.accounts sink count ++ notes ∧
        (before.prepare.accounts sink count).length = count ∧
        RunNotes before sink limit after count (.ok count) notes := by
  have entry := before.status_prepare
  cases status : before.status with
  | halted =>
      obtain ⟨rfl, rfl, -, rfl⟩ := trajectory.of_halted (entry.trans status)
      refine ⟨[], ?_, rfl, .idle status⟩
      rw [Processor.limitNote, entry, status]
      rfl
  | running =>
      obtain ⟨records, length⟩ :=
        trajectory.loggedRecords_eq (entry.trans status)
      cases final : after.status with
      | running =>
          refine ⟨_, ?_, length, .limit status final⟩
          rw [loggedRecords_append, records, Processor.haltNote,
            Processor.limitNote, final, List.append_nil]
          rfl
      | halted =>
          cases count with
          | zero =>
              -- Without a step there is nothing that could have halted.
              cases trajectory
              simp [entry, status] at final
          | succ count =>
              obtain ⟨last, stays⟩ := trajectory.hlt_of_halted final
              refine ⟨_, ?_, length, .halt status final last stays⟩
              rw [loggedRecords_append, records, Processor.haltNote,
                Processor.limitNote, final]
              exact List.append_nil _

/-- A run that faults logs the instruction that faults like the others. -/
theorem loggedRecords_of_fault
    {reached : Processor}
    {reachedSink : Sink}
    {fault : Fault}
    (trajectory :
      Trajectory count before sink events reached reachedSink)
    (running : reached.status = .running)
    (faults : (reached.step reachedSink).result = .error fault) :
    loggedRecords (events ++ (reached.step reachedSink).events) =
        before.accounts sink (count + 1) ++ fault.warning ∧
      (before.accounts sink (count + 1)).length =
        count + reached.account?.toList.length := by
  have entered : before.status = .running := by
    cases trajectory with
    | nil => exact running
    | cons entered => exact entered
  obtain ⟨records, length⟩ := trajectory.loggedRecords_eq entered
  have last := congrArg Machine.processor trajectory.walk_eq
  rw [Processor.accounts_succ, last]
  constructor
  · rw [loggedRecords_append, records, Processor.haltNote, running,
      Processor.loggedRecords_step_of_error faults, List.append_nil,
      List.append_assoc]
  · rw [List.length_append, length]

end

/--
The records of a run are those of the instructions that it decodes, in their
order, and then its notes.
-/
theorem exists_accounts
    (before : Processor)
    (sink : Sink)
    (limit : Nat) :
    ∃ attempted vain notes,
      RunSteps before sink limit attempted ∧
        loggedRecords (before.runFor sink limit).events.toList =
          before.prepare.accounts sink attempted ++ notes ∧
        before.steps + (before.prepare.accounts sink attempted).length =
          (before.runFor sink limit).processor.steps + vain ∧
        RunEnding (before.runFor sink limit).processor
          (before.runFor sink limit).result vain ∧
        RunNotes before sink limit (before.runFor sink limit).processor
          attempted (before.runFor sink limit).result notes := by
  obtain ⟨after, afterSink, events, result, ends⟩ :=
    exists_ends limit before.prepare sink
  obtain ⟨processorEq, -, -, resultEq⟩ := ends.runFor_eq
  have recordsEq := congrArg loggedRecords ends.events_runFor
  rw [processorEq, resultEq, recordsEq]
  cases ends with
  | @stopped count _ _ _ trajectory within stops =>
      obtain ⟨notes, records, length, runNotes⟩ :=
        runNotes_of_trajectory trajectory
      have walked := trajectory.walk_eq
      refine ⟨count, 0, notes,
        ⟨trajectory.running_walk, within, ?_, ?_⟩,
        records, ?_, .unfaulted, runNotes⟩
      · rwa [walked]
      · rw [walked, processorEq]
      · rw [length, trajectory.steps_eq, steps_prepare, Nat.add_zero]
  | @faulted count reached reachedSink _ fault trajectory within running
      faults =>
      obtain ⟨records, length⟩ :=
        loggedRecords_of_fault trajectory running faults
      have atomic := processor_of_step_error faults
      have walked :
          (before.prepare.walk sink (count + 1)).processor =
            (reached.step reachedSink).processor := by
        rw [Processor.walk_succ, trajectory.walk_eq]
        rfl
      have listed := faults_of_result_eq_error faults
      refine ⟨count + 1, reached.account?.toList.length, fault.warning,
        ⟨?_, within, ?_, ?_⟩, ?_, ?_, ?_, .fault⟩
      · intro index before
        rcases Nat.lt_succ_iff_lt_or_eq.mp before with earlier | rfl
        · exact trajectory.running_walk index earlier
        · rwa [trajectory.walk_eq]
      · left
        rw [walked, atomic]
      · rw [walked, processorEq]
      · rw [atomic, Processor.limitNote, List.append_nil]
        exact records
      · rw [length, atomic, trajectory.steps_eq, steps_prepare, Nat.add_assoc]
      · rw [atomic]
        exact listed.runEnding running

theorem recordsAt_append
    (level : Level)
    (earlier later : List Record) :
    recordsAt level (earlier ++ later) =
      recordsAt level earlier ++ recordsAt level later :=
  List.filter_append ..

theorem level_of_mem_recordsAt
    {level : Level}
    {records : List Record}
    {record : Record}
    (member : record ∈ recordsAt level records) :
    record.level = level := by
  simpa using (List.mem_filter.mp member).2

/-- Instructions are told of at one severity, and at no other. -/
theorem recordsAt_accounts
    (level : Level)
    (before : Processor)
    (sink : Sink)
    (count : Nat) :
    recordsAt level (before.accounts sink count) =
      if level = .trace then before.accounts sink count else [] := by
  unfold recordsAt
  split
  next isTrace =>
    rw [List.filter_eq_self]
    intro record member
    simp [Processor.level_of_mem_accounts member, isTrace]
  next differs =>
    rw [List.filter_eq_nil_iff]
    intro record member
    simp [Processor.level_of_mem_accounts member, Ne.symm differs]

namespace RunNotes

variable
  {before final : Processor}
  {sink : Sink}
  {limit attempted : Nat}
  {result : Except Fault Nat}
  {notes : List Record}

/-- Notes are not among the records of instructions. -/
theorem recordsAt_trace
    (runNotes : RunNotes before sink limit final attempted result notes) :
    recordsAt .trace notes = [] := by
  cases runNotes with
  | @fault _ fault => cases fault <;> rfl
  | _ => rfl

/-- A run that faults, or finds its processor halted, notes no end. -/
theorem recordsAt_debug
    (runNotes : RunNotes before sink limit final attempted result notes)
    (unnoted :
      (∃ fault, result = .error fault) ∨ before.status = .halted) :
    recordsAt .debug notes = [] := by
  cases runNotes with
  | idle => rfl
  | halt entry | limit entry => simp [entry] at unnoted
  | @fault _ fault => cases fault <;> rfl

end RunNotes

/--
The log of a run accounts for it. At the severity of details there is one
record for each instruction that the run decodes, in the order of the steps,
with the state before the instruction. Their number is that of the counted
steps, and one more if the run ended at an instruction that faulted. At the
severity of a halt there is a record just if a run that found its processor
running has ended without a fault: it is the last of all records, and it names
the `HLT` or, if the processor is still running, the limit. What a record of
these severities says is written in its message, which tells of no other record.
-/
theorem log_accounts_for_run
    (before : Processor)
    (sink : Sink)
    (limit : Nat) :
    let run := before.runFor sink limit
    let machine index := before.prepare.walk sink index
    let records := loggedRecords run.events.toList
    ∃ attempted vain,
      RunSteps before sink limit attempted ∧
        recordsAt .trace records =
          (List.range attempted).filterMap (fun index =>
            (machine index).processor.account?) ∧
        RunEnding run.processor run.result vain ∧
        before.steps + (recordsAt .trace records).length =
          run.processor.steps + vain ∧
        (∀ count,
          run.result = .ok count →
          before.status = .running →
          ∃ note,
            recordsAt .debug records = [note] ∧
              records.getLast? = some note ∧
              (run.processor.status = .halted →
                ∃ last,
                  last + 1 = attempted ∧
                    (machine last).Executes .hlt ∧
                    note =
                      .halted (machine last).processor.pc
                        run.processor.steps) ∧
              (run.processor.status = .running →
                note = .limitReached limit run.processor.pc)) ∧
        ((∃ fault, run.result = .error fault) ∨ before.status = .halted →
          recordsAt .debug records = []) ∧
        ∀ record ∈ recordsAt .trace records ++ recordsAt .debug records,
          ∀ other, Tells other record.message ↔ other = record := by
  intro run machine records
  obtain ⟨attempted, vain, notes, runSteps, recordsEq, counts, ending,
    runNotes⟩ := exists_accounts before sink limit
  have traceEq :
      recordsAt .trace records = before.prepare.accounts sink attempted := by
    rw [show records = _ from recordsEq, recordsAt_append, recordsAt_accounts,
      if_pos rfl, runNotes.recordsAt_trace, List.append_nil]
  have debugEq : recordsAt .debug records = recordsAt .debug notes := by
    rw [show records = _ from recordsEq, recordsAt_append, recordsAt_accounts,
      if_neg (by decide), List.nil_append]
  refine ⟨attempted, vain, runSteps, traceEq, ending, ?_, ?_, ?_, ?_⟩
  · rw [traceEq]
    exact counts
  · intro count succeeds entry
    rw [show run.result = _ from succeeds] at runNotes
    cases runNotes with
    | idle halted => simp [entry] at halted
    | halt _ halted executes stays =>
        refine ⟨_, debugEq, ?_, ?_, ?_⟩
        · rw [show records = _ from recordsEq, List.getLast?_concat]
        · intro _
          exact ⟨_, rfl, executes, by rw [← stays]⟩
        · intro running
          simp [show run.processor.status = _ from halted] at running
    | limit _ running =>
        refine ⟨_, debugEq, ?_, ?_, fun _ => rfl⟩
        · rw [show records = _ from recordsEq, List.getLast?_concat]
        · intro halted
          simp [show run.processor.status = _ from running] at halted
  · intro unnoted
    rw [debugEq]
    exact runNotes.recordsAt_debug unnoted
  · intro record member other
    refine tells_message_iff ?_
    rw [List.mem_append] at member
    exact member.imp level_of_mem_recordsAt level_of_mem_recordsAt

/-- The run of `printThenHalt` with room for so many characters. -/
def printThenHaltRun (room : Nat) : Run :=
  printThenHalt.runFor (Sink.limited room .sinkFull) 2

/-- The last record names the `HLT`; where the output is refused there is none. -/
theorem log_accounts_for_run_printThenHalt :
    ((printThenHaltRun 2).result = .ok 2 ∧
      printThenHalt.status = .running ∧
      (printThenHaltRun 2).processor.status = .halted ∧
      ∃ pc,
        let last := Record.halted pc (printThenHaltRun 2).processor.steps
        (loggedRecords (printThenHaltRun 2).events.toList).getLast? =
            some last ∧
          ∀ other, Tells other last.message ↔ other = last) ∧
    ((printThenHaltRun 1).result = .error (.output .sinkFull) ∧
      recordsAt .debug (loggedRecords (printThenHaltRun 1).events.toList) =
        []) := by
  have stops :
      (printThenHaltRun 2).fault? = none ∧ (printThenHaltRun 2).count = 2 := by
    decide +kernel
  have succeeds : (printThenHaltRun 2).result = .ok 2 := by
    simp only [Run.result, stops]
  have halted : (printThenHaltRun 2).processor.status = .halted := by
    decide +kernel
  have refused :
      (printThenHaltRun 1).fault? = some (.output .sinkFull) := by
    decide +kernel
  have fails : (printThenHaltRun 1).result = .error (.output .sinkFull) := by
    simp only [Run.result, refused]
  obtain ⟨_, _, -, -, -, -, noted, -, tells⟩ :=
    log_accounts_for_run printThenHalt (Sink.limited 2 .sinkFull) 2
  obtain ⟨_, _, -, -, -, -, -, unnoted, -⟩ :=
    log_accounts_for_run printThenHalt (Sink.limited 1 .sinkFull) 2
  obtain ⟨note, debug, last, atHalt, -⟩ := noted 2 succeeds rfl
  obtain ⟨index, -, -, rfl⟩ := atHalt halted
  have told :=
    tells _ (List.mem_append_right _ (debug ▸ List.mem_singleton_self _))
  exact ⟨⟨succeeds, rfl, halted, _, last, told⟩, fails,
    unnoted (.inl ⟨_, fails⟩)⟩

end LS8
