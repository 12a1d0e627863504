import LS8.Proofs.LastWriter
import LS8.Proofs.TextLines
import LS8.Proofs.Walk

namespace LS8

/-!
# What a run counts

A run keeps count in three places: the loop counts its steps, the processor
counts its instructions, and the sink receives a line for each `PRN`. The counts
agree because each of them is about the same steps, those that execute an
instruction to its end (`Machine.Executes`): such a step is counted, and it
completes a line exactly if the instruction is a `PRN` (`completedLines_walk`).
A `PRN` that is refused completes none, since the end of the line is the last
thing that it writes.

Of these steps only a `HLT` halts the processor, so that a run which has come to
a halt by itself has executed one last (`Executes.hlt_of_halted`).
-/

open InstructionTable

/-- The number of lines that a text brings to their ends. -/
def completedLines (text : String) : Nat :=
  text.toList.count '\n'

/-- The lines of a longer text are those that its parts complete. -/
theorem completedLines_append (earlier later : String) :
    completedLines (earlier ++ later) =
      completedLines earlier + completedLines later := by
  simp only [completedLines, String.toList_append, List.count_append]

/-- The line of a number is one line. -/
theorem completedLines_line (value : Nat) :
    completedLines (value.repr ++ "\n") = 1 := by
  have digits : completedLines value.repr = 0 := by
    rw [completedLines, Nat.repr_eq_ofList_toDigits, String.toList_ofList]
    exact List.count_eq_zero.mpr (feed_notMem_toDigits value)
  rw [completedLines_append, digits]
  rfl

/-- A line that lacks its end is not completed. -/
theorem completedLines_of_cut
    {accepted rest : String}
    {value : Nat}
    (nonempty : rest ≠ "")
    (whole : accepted ++ rest = value.repr ++ "\n") :
    completedLines accepted = 0 := by
  have last : rest.toList.getLast? = some '\n' := by
    have ends := congrArg (fun text => text.toList.getLast?) whole
    simpa [nonempty] using ends
  have inRest : 0 < completedLines rest :=
    List.count_pos_iff.mpr (List.mem_of_getLast? last)
  have total := congrArg completedLines whole
  rw [completedLines_append, completedLines_line] at total
  omega

namespace Processor

variable
  {before : Processor}
  {sink : Sink}
  {opcode : Opcode}

theorem executes_iff :
    before.Executes sink opcode ↔
      before.instruction? = some opcode ∧
        (before.step sink).result.isOk = true := by
  constructor
  · rintro ⟨instruction, status, succeeds⟩
    exact ⟨instruction, by rw [succeeds]; rfl⟩
  · rintro ⟨instruction, succeeds⟩
    refine ⟨instruction, ?_⟩
    cases result : (before.step sink).result with
    | ok status => exact ⟨status, rfl⟩
    | error fault => simp [result, Except.isOk, Except.toBool] at succeeds

instance (before : Processor) (sink : Sink) (opcode : Opcode) :
    Decidable (before.Executes sink opcode) :=
  decidable_of_iff _ executes_iff.symm

/-- An instruction that is executed to its end follows the table. -/
theorem Executes.follows
    (executes : before.Executes sink opcode) :
    Follows before opcode before.firstByte before.secondByte
      (before.step sink).processor := by
  rcases before.executes_or_rests sink with
    ⟨other, otherExecutes, -, follows⟩ | ⟨rests, -⟩
  · rwa [executes.unique otherExecutes]
  · exact (rests opcode executes).elim

/-- Only a `HLT` halts the processor without a fault; it stays where it is. -/
theorem Executes.hlt_of_halted
    (executes : before.Executes sink opcode)
    (halted : (before.step sink).processor.status = .halted) :
    opcode = .hlt ∧ (before.step sink).processor.pc = before.pc := by
  have follows := executes.follows
  have running := (fetches_of_instruction? executes.instruction).running
  rw [follows.status] at halted
  cases opcode with
  | hlt => exact ⟨rfl, follows.pc⟩
  | _ => simp [statusAfter, running] at halted

/-- A step that executes a `PRN` completes a line. -/
theorem completedLines_of_executes
    (executes : before.Executes sink .prn) :
    completedLines (printedText (before.step sink).events) = 1 := by
  obtain ⟨instruction, status, succeeds⟩ := executes
  have stepped := before.stepped sink
  generalize before.step sink = transition at succeeds stepped ⊢
  cases stepped with
  | idle halted => simp [instruction?_of_halted halted] at instruction
  | unfetched | undecoded | failed | refused => simp at succeeds
  | @completed opcode after fetches =>
      obtain rfl :=
        Option.some.inj
          ((instruction?_of_fetches fetches).symm.trans instruction)
      rw [printedText_append, printedText_decoded, printedText_output,
        String.empty_append]
      exact completedLines_line _

/-- No other step completes a line, not even one that begins a line. -/
theorem completedLines_of_not_executes
    (rests : ¬ before.Executes sink .prn) :
    completedLines (printedText (before.step sink).events) = 0 := by
  have other (status : Status) :
      (before.step sink).result = .ok status →
      before.instruction? ≠ some .prn := by
    intro succeeds instruction
    exact rests ⟨instruction, status, succeeds⟩
  have stepped := before.stepped sink
  generalize before.step sink = transition at other stepped ⊢
  cases stepped with
  | idle | unfetched | undecoded | failed => rfl
  | @completed opcode after fetches =>
      have instruction := other after.status rfl
      rw [instruction?_of_fetches fetches] at instruction
      rw [printedText_append, printedText_decoded, printedText_output]
      cases opcode with
      | prn => contradiction
      | _ => rfl
  | refused fetches faultless refuses =>
      obtain ⟨rest, nonempty, whole⟩ := Sink.exists_rest_of_refused refuses
      rw [printedText_append, printedText_decoded, printedText_printed,
        String.empty_append]
      exact completedLines_of_cut nonempty whole

end Processor

/-- The next step of a machine executes an instruction to its end. -/
def Machine.Executes (machine : Machine) (opcode : Opcode) : Prop :=
  machine.processor.Executes machine.sink opcode

instance (machine : Machine) (opcode : Opcode) :
    Decidable (machine.Executes opcode) :=
  inferInstanceAs (Decidable (machine.processor.Executes machine.sink opcode))

/-- A walk completes a line for each `PRN` that it executes. -/
theorem completedLines_walk
    (before : Processor)
    (sink : Sink)
    (count : Nat) :
    completedLines (printedText (before.walk sink count).events) =
      (List.range count).countP fun index =>
        (before.walk sink index).Executes .prn := by
  induction count with
  | zero => rfl
  | succ count inductionHypothesis =>
      rw [Processor.walk_succ, Machine.next, printedText_append,
        completedLines_append, inductionHypothesis, List.range_succ,
        List.countP_append, List.countP_singleton]
      by_cases executes : (before.walk sink count).Executes .prn
      · rw [Processor.completedLines_of_executes executes]
        simp [executes]
      · rw [Processor.completedLines_of_not_executes executes]
        simp [executes]

/-- A successful step of a running processor executes an instruction. -/
theorem exists_executes_of_step_ok
    {before : Processor}
    {sink : Sink}
    {status : Status}
    (running : before.status = .running)
    (succeeds : (before.step sink).result = .ok status) :
    ∃ opcode, before.Executes sink opcode := by
  have same : (before.step sink).result = .ok status := succeeds
  have stepped := before.stepped sink
  generalize before.step sink = transition at same stepped
  cases stepped with
  | idle halted => simp [running] at halted
  | unfetched | undecoded | failed | refused => simp at same
  | completed fetches =>
      exact ⟨_, Processor.instruction?_of_fetches fetches, status, succeeds⟩

/-- Every step of a trajectory executes an instruction to its end. -/
theorem Trajectory.executes_iterate
    {count : Nat}
    {before after : Processor}
    {sink afterSink : Sink}
    {events : List Event}
    (trajectory : Trajectory count before sink events after afterSink)
    (earlier : List Event)
    {index : Nat}
    (within : index < count) :
    ∃ opcode,
      (Machine.next^[index]
        { processor := before, sink := sink, events := earlier }).Executes
          opcode := by
  induction trajectory generalizing earlier index with
  | nil => contradiction
  | cons running succeeds rest inductionHypothesis =>
      cases index with
      | zero => exact exists_executes_of_step_ok running succeeds
      | succ index =>
          rw [Function.iterate_succ_apply]
          exact inductionHypothesis _ (Nat.lt_of_succ_lt_succ within)

namespace Trajectory

variable
  {count : Nat}
  {before after : Processor}
  {sink afterSink : Sink}
  {events : List Event}

/-- A trajectory executes an instruction in each of its steps. -/
theorem executes_walk
    (trajectory : Trajectory count before sink events after afterSink) :
    ∀ index < count,
      ∃ opcode, (before.walk sink index).Executes opcode :=
  fun _ within => trajectory.executes_iterate [] within

/-- A trajectory completes a line for each `PRN` on it. -/
theorem completedLines_eq
    (trajectory : Trajectory count before sink events after afterSink) :
    completedLines (printedText events) =
      (List.range count).countP fun index =>
        (before.walk sink index).Executes .prn := by
  rw [← completedLines_walk, trajectory.walk_eq]

/-- A trajectory to a halted processor ends with the `HLT` that it stays at. -/
theorem hlt_of_halted
    (trajectory : Trajectory (count + 1) before sink events after afterSink)
    (halted : after.status = .halted) :
    (before.walk sink count).Executes .hlt ∧
      after.pc = (before.walk sink count).processor.pc := by
  obtain ⟨opcode, executes⟩ :=
    trajectory.executes_walk count (Nat.lt_succ_self count)
  have last : (before.walk sink count).next.processor = after := by
    rw [← Processor.walk_succ, trajectory.walk_eq]
  rw [← last] at halted ⊢
  obtain ⟨rfl, stays⟩ := Processor.Executes.hlt_of_halted executes halted
  exact ⟨executes, stays⟩

end Trajectory

/--
The result of a run and the counters agree. The processor has counted the steps
that execute an instruction to its end, and the sink has received a whole line
for each `PRN` among them. If the run returns a count, it is the number of these
steps and within the limit; it is the limit if the processor is still running,
and otherwise the last step was a `HLT`, at which the processor stays. If the run
returns a fault, it is that of the step after these, which the limit allowed,
and the processor has halted.
-/
theorem result_agrees_with_counters
    (before : Processor)
    (sink : Sink)
    (limit : Nat) :
    let run := before.runFor sink limit
    let machine index := before.prepare.walk sink index
    ∃ counted,
      run.processor.steps = before.steps + counted ∧
        (∀ index < counted, ∃ opcode, (machine index).Executes opcode) ∧
        completedLines (printedText run.events.toList) =
          (List.range counted).countP (fun index =>
            (machine index).Executes .prn) ∧
        (∀ count,
          run.result = .ok count →
          count = counted ∧
            count ≤ limit ∧
            run.processor = (machine count).processor ∧
            (run.processor.status = .running → count = limit) ∧
            (0 < count →
              run.processor.status = .halted →
              (machine (count - 1)).Executes .hlt ∧
                run.processor.pc = (machine (count - 1)).processor.pc)) ∧
        (∀ fault,
          run.result = .error fault →
          run.processor.status = .halted ∧
            counted < limit ∧
            ((machine counted).processor.step (machine counted).sink).result =
              .error fault) := by
  intro run machine
  obtain ⟨events, ends, textEq⟩ := before.ends_runFor sink limit
  have lines := congrArg completedLines textEq
  change Ends limit before.prepare sink run.processor run.sink events
    run.result at ends
  change completedLines (printedText run.events.toList) = _ at lines
  rw [lines]
  generalize run.processor = final at ends ⊢
  generalize run.sink = finalSink at ends
  generalize run.result = result at ends ⊢
  cases ends with
  | @stopped count _ _ _ trajectory within stops =>
      refine ⟨count, ?_, trajectory.executes_walk,
        trajectory.completedLines_eq, ?_, nofun⟩
      · rw [trajectory.steps_eq, steps_prepare]
      · rintro _ ⟨⟩
        refine ⟨rfl, within, ?_, ?_, ?_⟩
        · exact (congrArg Machine.processor trajectory.walk_eq).symm
        · intro running
          rcases stops with halted | atLimit
          · simp [running] at halted
          · exact atLimit
        · intro positive halted
          obtain ⟨earlier, rfl⟩ :=
            Nat.exists_eq_succ_of_ne_zero (Nat.ne_of_gt positive)
          exact trajectory.hlt_of_halted halted
  | @faulted count reached reachedSink _ fault trajectory within running
      faults =>
      have rests : ¬ reached.Executes reachedSink .prn := by
        rintro ⟨-, status, succeeds⟩
        simp [faults] at succeeds
      refine ⟨count, ?_, trajectory.executes_walk, ?_, nofun, ?_⟩
      · rw [processor_of_step_error faults]
        exact trajectory.steps_eq.trans (by rw [steps_prepare])
      · rw [printedText_append, completedLines_append,
          Processor.completedLines_of_not_executes rests,
          trajectory.completedLines_eq, Nat.add_zero]
      · rintro _ ⟨⟩
        refine ⟨?_, within, ?_⟩
        · rw [processor_of_step_error faults]
        · rw [show machine count = _ from trajectory.walk_eq]
          exact faults

/-- A program that prints zero and halts. -/
def printThenHalt : Processor :=
  {
    Processor.initial with
    memory :=
      (Memory.empty.store 0 Opcode.prn.byte).store 2 Opcode.hlt.byte
  }

/--
With room for the line, the run halts just at its limit, at the `HLT` that it
has counted; with room for the digit only, it counts nothing.
-/
theorem result_agrees_with_counters_printThenHalt :
    ((printThenHalt.runFor (Sink.limited 2 .sinkFull) 2).result = .ok 2 ∧
      (printThenHalt.runFor (Sink.limited 2 .sinkFull) 2).processor.status =
        .halted ∧
      (printThenHalt.prepare.walk (Sink.limited 2 .sinkFull) 1).Executes
        .hlt) ∧
    ((printThenHalt.runFor (Sink.limited 1 .sinkFull) 2).result =
        .error (.output .sinkFull) ∧
      ∃ counted < 2,
        (printThenHalt.runFor (Sink.limited 1 .sinkFull) 2).processor.steps =
          counted) := by
  have stops :
      (printThenHalt.runFor (Sink.limited 2 .sinkFull) 2).fault? = none ∧
        (printThenHalt.runFor (Sink.limited 2 .sinkFull) 2).count = 2 := by
    decide +kernel
  have succeeds :
      (printThenHalt.runFor (Sink.limited 2 .sinkFull) 2).result = .ok 2 := by
    simp only [Run.result, stops]
  have halted :
      (printThenHalt.runFor (Sink.limited 2 .sinkFull) 2).processor.status =
        .halted := by
    decide +kernel
  have refused :
      (printThenHalt.runFor (Sink.limited 1 .sinkFull) 2).fault? =
        some (.output .sinkFull) := by
    decide +kernel
  have fails :
      (printThenHalt.runFor (Sink.limited 1 .sinkFull) 2).result =
        .error (.output .sinkFull) := by
    simp only [Run.result, refused]
  obtain ⟨_, -, -, -, ok, -⟩ :=
    result_agrees_with_counters printThenHalt (Sink.limited 2 .sinkFull) 2
  obtain ⟨counted, steps, -, -, -, error⟩ :=
    result_agrees_with_counters printThenHalt (Sink.limited 1 .sinkFull) 2
  obtain ⟨-, -, -, -, atHalt⟩ := ok 2 succeeds
  obtain ⟨executes, -⟩ := atHalt (by decide) halted
  exact ⟨⟨succeeds, halted, executes⟩, fails, counted, (error _ fails).2.1,
    steps.trans (Nat.zero_add counted)⟩

end LS8
