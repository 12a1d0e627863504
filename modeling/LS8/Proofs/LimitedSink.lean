import Mathlib.Data.String.Basic
import LS8.Proofs.Executing
import LS8.Proofs.StackStep
import LS8.Proofs.Walk

namespace LS8

/-!
# Runs on a limited sink

A step has one line to write or none (`Processor.pendingLine`), and this is
known before the step is made. A step whose line is accepted does the same on
every sink (`step_of_accepts`); a step whose line is refused is a `PRN`, and
leaves the processor before it, halted (`step_of_refuses`).

A run on a sink without limit therefore tells what a run on a limited sink
does: the same as long as there is room for the text of the whole run
(`Ends.limited`), and otherwise the same up to the line for which there is no
room (`Trajectory.ends_of_overflow`).
-/

open InstructionTable

namespace Processor

/-- The number that the next step prints, if it prints one. -/
def printedValue? (before : Processor) : Option UInt8 :=
  if before.instruction? = some .prn then
    (before.registers.get before.firstByte.toNat).toOption
  else
    none

/-- The line that the next step writes to its sink, if it writes one. -/
def pendingLine (before : Processor) : String :=
  match before.printedValue? with
  | some value => value.toNat.repr ++ "\n"
  | none => ""

variable {before : Processor} {opcode : Opcode}

/-- A step that gets to no instruction writes nothing. -/
theorem pendingLine_of_idle
    (idle : before.instruction? = none) :
    before.pendingLine = "" := by
  simp [pendingLine, printedValue?, idle]

/-- An instruction that meets no error writes the text of the table. -/
theorem pendingLine_of_faultless
    (fetches : Fetches before opcode)
    (faultless :
      accessError? before opcode before.firstByte before.secondByte = none) :
    before.pendingLine = printed before opcode before.firstByte := by
  have executes := instruction?_of_fetches fetches
  cases opcode with
  | prn =>
      obtain ⟨register, names⟩ := exists_named_of_unnamed? faultless
      simp [pendingLine, printedValue?, executes, printed,
        operand_of_named names, Registers.get, names, Except.map,
        Except.toOption]
  | _ =>
      simp [pendingLine, printedValue?, executes, printed]

/-- An instruction that meets an error writes nothing. -/
theorem pendingLine_of_error
    {error : AccessError}
    (fetches : Fetches before opcode)
    (fails :
      accessError? before opcode before.firstByte before.secondByte =
        some error) :
    before.pendingLine = "" := by
  have executes := instruction?_of_fetches fetches
  cases opcode with
  | prn =>
      cases names : Register.named before.firstByte.toNat with
      | ok register =>
          have faultless := unnamed?_of_named names
          exact absurd (faultless.symm.trans fails) (by simp)
      | error missing =>
          simp [pendingLine, printedValue?, executes, Registers.get, names,
            Except.map, Except.toOption]
  | _ => simp [pendingLine, printedValue?, executes]

/-- Only a print that meets no error writes a line. -/
theorem prints_of_pendingLine_ne_empty
    (writes : before.pendingLine ≠ "") :
    Fetches before .prn ∧
      accessError? before .prn before.firstByte before.secondByte = none := by
  have executes : before.instruction? = some .prn := by
    by_contra other
    exact writes (by simp [pendingLine, printedValue?, other])
  have fetches := fetches_of_instruction? executes
  refine ⟨fetches, ?_⟩
  cases fails :
      accessError? before .prn before.firstByte before.secondByte with
  | none => rfl
  | some error => exact (writes (pendingLine_of_error fetches fails)).elim

end Processor

section

variable
  {before : Processor}
  {sink : Sink}

/-- A step on a sink without limit prints the pending line. -/
theorem printedText_step_unlimited (before : Processor) :
    printedText (before.step Sink.unlimited).events = before.pendingLine := by
  have stepped := before.stepped Sink.unlimited
  generalize before.step Sink.unlimited = transition at stepped ⊢
  cases stepped with
  | idle halted =>
      rw [Processor.pendingLine_of_idle
        (Processor.instruction?_of_halted halted)]
      rfl
  | unfetched _ beyond =>
      rw [Processor.pendingLine_of_idle
        (Processor.instruction?_of_le beyond)]
      rfl
  | undecoded _ _ undecoded =>
      rw [Processor.pendingLine_of_idle
        (Processor.instruction?_of_undecoded undecoded)]
      rfl
  | completed fetches faultless =>
      rw [Processor.pendingLine_of_faultless fetches faultless,
        printedText_append, printedText_decoded, printedText_output,
        String.empty_append]
  | failed fetches fails =>
      rw [Processor.pendingLine_of_error fetches fails]
      rfl
  | refused fetches faultless refuses => simp at refuses

/-- All that a step can see of a sink is whether its line is accepted. -/
theorem step_of_accepts
    (accepts : (sink.write before.pendingLine).refusal? = none) :
    before.step sink =
      { before.step Sink.unlimited with
        sink := (sink.write before.pendingLine).sink } := by
  have stepped := before.stepped Sink.unlimited
  generalize before.step Sink.unlimited = transition at stepped ⊢
  cases stepped with
  | idle halted =>
      rw [Processor.step_of_halted halted, Processor.pendingLine_of_idle
        (Processor.instruction?_of_halted halted)]
      simp
  | unfetched running beyond =>
      rw [Processor.step_of_le running beyond, Processor.pendingLine_of_idle
        (Processor.instruction?_of_le beyond)]
      simp [Machine.stopAt, Machine.start]
  | undecoded running inMemory undecoded =>
      rw [Processor.step_of_undecoded running inMemory undecoded,
        Processor.pendingLine_of_idle
        (Processor.instruction?_of_undecoded undecoded)]
      simp [Machine.stopAt]
  | @completed opcode after fetches faultless follows steps =>
      have line := Processor.pendingLine_of_faultless fetches faultless
      rw [line] at accepts ⊢
      obtain ⟨other, otherFollows, otherSteps, executes⟩ :=
        Processor.executing_of_accepts faultless accepts
      obtain rfl :=
        otherFollows.unique follows (otherSteps.trans steps.symm)
      rw [fetches.step_eq, executes]
      rfl
  | @failed opcode error fetches fails =>
      rw [fetches.step_eq, Processor.executing_of_error fails,
        Processor.pendingLine_of_error fetches fails, Sink.write_empty]
      rfl
  | refused fetches faultless refuses => simp at refuses

/-- A print succeeds on a sink without limit. -/
theorem result_step_unlimited
    (writes : before.pendingLine ≠ "") :
    (before.step Sink.unlimited).result = .ok .running := by
  obtain ⟨fetches, faultless⟩ :=
    Processor.prints_of_pendingLine_ne_empty writes
  have taken :
      (Sink.unlimited.write
        (printed before .prn before.firstByte)).refusal? = none :=
    rfl
  obtain ⟨after, follows, -, executes⟩ :=
    Processor.executing_of_accepts faultless taken
  rw [fetches.step_eq, executes]
  exact congrArg Except.ok (follows.status.trans fetches.running)

/-- A step that fails on a sink without limit has nothing to write. -/
theorem pendingLine_of_step_error
    {fault : Fault}
    (faults : (before.step Sink.unlimited).result = .error fault) :
    before.pendingLine = "" := by
  by_contra writes
  rw [result_step_unlimited writes] at faults
  contradiction

/-- A step does not bound a sink without limit. -/
theorem sink_step_unlimited (before : Processor) :
    (before.step Sink.unlimited).sink = Sink.unlimited := by
  have stepped := before.stepped Sink.unlimited
  generalize before.step Sink.unlimited = transition at stepped ⊢
  cases stepped with
  | refused fetches faultless refuses => simp at refuses
  | _ => rfl

/-- A step on a sink without limit does not fail for its sink. -/
theorem step_unlimited_ne_output (before : Processor) (refusal : Refusal) :
    (before.step Sink.unlimited).result ≠ .error (.output refusal) := by
  have stepped := before.stepped Sink.unlimited
  generalize before.step Sink.unlimited = transition at stepped ⊢
  cases stepped with
  | refused fetches faultless refuses => simp at refuses
  | _ => simp

/-- A step whose line is refused is a print that fails at the refusal. -/
theorem step_of_refuses
    {refusal : Refusal}
    (refuses : (sink.write before.pendingLine).refusal? = some refusal) :
    before.instruction? = some .prn ∧
      (before.step sink).result = .error (.output refusal) ∧
      (before.step sink).processor = { before with status := .halted } ∧
      printedText (before.step sink).events =
        (sink.write before.pendingLine).accepted := by
  have writes : before.pendingLine ≠ "" := by
    intro silent
    simp [silent] at refuses
  obtain ⟨fetches, faultless⟩ :=
    Processor.prints_of_pendingLine_ne_empty writes
  rw [Processor.pendingLine_of_faultless fetches faultless] at refuses ⊢
  refine ⟨Processor.instruction?_of_fetches fetches, ?_⟩
  rw [fetches.step_eq, Processor.executing_of_refused faultless refuses]
  refine ⟨rfl, rfl, ?_⟩
  rw [printedText_append, printedText_decoded, printedText_printed,
    String.empty_append]

end

/-- A walk does not bound a sink without limit. -/
theorem Processor.sink_walk_unlimited (before : Processor) (count : Nat) :
    (before.walk Sink.unlimited count).sink = Sink.unlimited := by
  induction count with
  | zero => rfl
  | succ count inductionHypothesis =>
      rw [walk_succ, Machine.next, inductionHypothesis]
      exact sink_step_unlimited _

namespace Trajectory

variable
  {count room : Nat}
  {before after : Processor}
  {afterSink : Sink}
  {events : List Event}

theorem sink_eq_unlimited
    (trajectory :
      Trajectory count before Sink.unlimited events after afterSink) :
    afterSink = Sink.unlimited := by
  have walked := congrArg Machine.sink trajectory.walk_eq
  exact walked.symm.trans (before.sink_walk_unlimited count)

/-- A sink that has room for its text makes no difference to a trajectory. -/
theorem limited
    (trajectory :
      Trajectory count before Sink.unlimited events after afterSink)
    (fits : (printedText events).length ≤ room)
    (refusal : Refusal) :
    Trajectory count before (Sink.limited room refusal) events after
      (Sink.limited (room - (printedText events).length) refusal) := by
  generalize start : Sink.unlimited = sink at trajectory
  induction trajectory generalizing room with
  | nil => exact .nil _ _
  | @cons count before after sink afterSink events status running succeeds rest
      inductionHypothesis =>
      subst start
      -- The rest has the room that the first line leaves.
      rw [printedText_append, printedText_step_unlimited,
        String.length_append] at fits ⊢
      have written :=
        Sink.write_of_length_le (Nat.le_of_add_right_le fits) refusal
      have step := step_of_accepts (congrArg Delivery.refusal? written)
      rw [written] at step
      have remaining :=
        inductionHypothesis (Nat.le_sub_of_add_le' fits)
          (sink_step_unlimited before).symm
      rw [Nat.sub_add_eq]
      have trajectory :
          Trajectory (count + 1) before (Sink.limited room refusal) _ after _ :=
        .cons running (by rw [step]; exact succeeds)
          (by rw [step]; exact remaining)
      rwa [step] at trajectory

/-- A text that is too long has a line with which it first becomes too long. -/
theorem exists_overflow
    (trajectory :
      Trajectory count before Sink.unlimited events after afterSink)
    (overflows : room < (printedText events).length) :
    ∃ index reached shown more,
      index < count ∧
        Trajectory index before Sink.unlimited shown reached Sink.unlimited ∧
        reached.status = .running ∧
        (printedText shown).length ≤ room ∧
        room < (printedText shown ++ reached.pendingLine).length ∧
        printedText events =
          printedText shown ++ reached.pendingLine ++ more := by
  generalize start : Sink.unlimited = sink at trajectory
  induction trajectory generalizing room with
  | nil => simp at overflows
  | @cons count before after sink afterSink events status running succeeds rest
      inductionHypothesis =>
      subst start
      have split :
          printedText ((before.step Sink.unlimited).events ++ events) =
            before.pendingLine ++ printedText events := by
        rw [printedText_append, printedText_step_unlimited]
      rw [split] at overflows ⊢
      -- Either the first line is too long, or a later one for what it leaves.
      by_cases fits : before.pendingLine.length ≤ room
      · rw [String.length_append] at overflows
        obtain ⟨index, reached, shown, more, within, trajectory, stillRunning,
            shownFits, tooLong, whole⟩ :=
          inductionHypothesis (Nat.sub_lt_left_of_lt_add fits overflows)
            (sink_step_unlimited before).symm
        refine ⟨index + 1, reached,
          (before.step Sink.unlimited).events ++ shown, more,
          Nat.succ_lt_succ within, ?_, stillRunning, ?_⟩
        · exact .cons running succeeds
            (by simpa only [sink_step_unlimited] using trajectory)
        · rw [String.length_append] at tooLong
          rw [printedText_append, printedText_step_unlimited, whole]
          simp only [String.length_append, String.append_assoc, and_true]
          omega
      · exact ⟨0, before, [], printedText events, Nat.succ_pos count,
          .nil before Sink.unlimited, running, by simp,
          by simpa using Nat.lt_of_not_le fits, by simp⟩

end Trajectory

namespace Ends

variable
  {limit room : Nat}
  {before after : Processor}
  {afterSink : Sink}
  {events : List Event}
  {result : Except Fault Nat}

/-- A loop prints in its successful steps, and these are counted. -/
theorem exists_trajectory
    (ends :
      Ends limit before Sink.unlimited after afterSink events result) :
    ∃ count reached shown,
      Trajectory count before Sink.unlimited shown reached Sink.unlimited ∧
        count ≤ limit ∧
        after.steps = before.steps + count ∧
        printedText events = printedText shown := by
  cases ends with
  | @stopped count _ _ _ trajectory within =>
      obtain rfl := trajectory.sink_eq_unlimited
      exact ⟨count, after, events, trajectory, within,
        trajectory.steps_eq, rfl⟩
  | @faulted count reached _ shown fault trajectory within running faults =>
      obtain rfl := trajectory.sink_eq_unlimited
      refine ⟨count, reached, shown, trajectory, Nat.le_of_lt within, ?_, ?_⟩
      · rw [processor_of_step_error faults]
        exact trajectory.steps_eq
      · rw [printedText_append, printedText_step_unlimited,
          pendingLine_of_step_error faults, String.append_empty]

/-- A loop ends in the same way as long as there is room for its text. -/
theorem limited
    (ends :
      Ends limit before Sink.unlimited after afterSink events result)
    (fits : (printedText events).length ≤ room)
    (refusal : Refusal) :
    Ends limit before (Sink.limited room refusal) after
      (Sink.limited (room - (printedText events).length) refusal)
      events result := by
  cases ends with
  | stopped trajectory within stops =>
      exact .stopped (trajectory.limited fits refusal) within stops
  | @faulted count reached _ shown fault trajectory within running faults =>
      obtain rfl := trajectory.sink_eq_unlimited
      have silent := pendingLine_of_step_error faults
      rw [printedText_append, printedText_step_unlimited, silent,
        String.append_empty] at fits ⊢
      have accepts :
          ((Sink.limited (room - (printedText shown).length)
            refusal).write reached.pendingLine).refusal? = none := by
        simp [silent]
      have step := step_of_accepts accepts
      have ends : Ends limit before (Sink.limited room refusal) _ _ _ _ :=
        .faulted (trajectory.limited fits refusal) within running
          (by rw [step]; exact faults)
      rw [step] at ends
      simpa [silent] using ends

end Ends

/-- A run on a sink without limit does not fail for its sink. -/
theorem runFor_unlimited_ne_output
    (before : Processor)
    (limit : Nat)
    (refusal : Refusal) :
    (before.runFor Sink.unlimited limit).result ≠
      .error (.output refusal) := by
  intro fails
  obtain ⟨events, ends, -⟩ := before.ends_runFor Sink.unlimited limit
  rw [fails] at ends
  generalize (before.runFor Sink.unlimited limit).processor = final at ends
  generalize (before.runFor Sink.unlimited limit).sink = finalSink at ends
  cases ends with
  | faulted trajectory within running faults =>
      obtain rfl := trajectory.sink_eq_unlimited
      exact step_unlimited_ne_output _ _ faults

/-- A loop on a limited sink ends at the line that there is no room for. -/
theorem Trajectory.ends_of_overflow
    {limit count room : Nat}
    {before after : Processor}
    {afterSink : Sink}
    {events : List Event}
    (trajectory :
      Trajectory count before Sink.unlimited events after afterSink)
    (within : count ≤ limit)
    (overflows : room < (printedText events).length)
    (refusal : Refusal) :
    ∃ index reached shown cut,
      index < count ∧
        Trajectory index before Sink.unlimited shown reached Sink.unlimited ∧
        reached.instruction? = some .prn ∧
        (printedText shown).length ≤ room ∧
        room < (printedText shown ++ reached.pendingLine).length ∧
        Ends limit before (Sink.limited room refusal)
          { reached with status := .halted }
          (reached.step
            (Sink.limited (room - (printedText shown).length) refusal)).sink
          cut (.error (.output refusal)) ∧
        (printedText cut).toList = (printedText events).toList.take room := by
  obtain ⟨index, reached, shown, more, earlier, reaches, running, fits,
    tooLong, whole⟩ := trajectory.exists_overflow overflows
  have overflowing :
      room - (printedText shown).length < reached.pendingLine.length := by
    rw [String.length_append] at tooLong
    omega
  have written := Sink.write_of_lt_length overflowing refusal
  obtain ⟨executes, faults, halts, accepted⟩ :=
    step_of_refuses (congrArg Delivery.refusal? written)
  rw [written] at accepted
  have ends : Ends limit before (Sink.limited room refusal) _ _ _ _ :=
    .faulted (reaches.limited fits refusal) (Nat.lt_of_lt_of_le earlier within)
      running faults
  rw [halts] at ends
  refine ⟨index, reached, shown, _, earlier, reaches, executes, fits, tooLong,
    ends, ?_⟩
  rw [printedText_append, accepted, whole]
  have short : (printedText shown).toList.length ≤ room := by
    rwa [String.length_toList]
  have long :
      room ≤
        ((printedText shown).toList ++ reached.pendingLine.toList).length := by
    rw [← String.toList_append, String.length_toList]
    exact Nat.le_of_lt tooLong
  simp only [String.toList_append, String.toList_ofList]
  rw [List.take_append_of_le_length long, List.take_append,
    List.take_of_length_le short, String.length_toList]

/-- A run for whose text there is room is the run on a sink without limit. -/
theorem runFor_limited_of_fits
    {before : Processor}
    {limit room : Nat}
    (fits :
      (printedText
        (before.runFor Sink.unlimited limit).events.toList).length ≤ room)
    (refusal : Refusal) :
    (before.runFor (Sink.limited room refusal) limit).processor =
        (before.runFor Sink.unlimited limit).processor ∧
      printedText
          (before.runFor (Sink.limited room refusal) limit).events.toList =
        printedText (before.runFor Sink.unlimited limit).events.toList ∧
      (before.runFor (Sink.limited room refusal) limit).result =
        (before.runFor Sink.unlimited limit).result := by
  obtain ⟨events, ends, textEq⟩ := before.ends_runFor Sink.unlimited limit
  rw [textEq] at fits ⊢
  obtain ⟨processorEq, -, printedEq, resultEq⟩ :=
    (ends.limited fits refusal).runFor_eq
  exact ⟨processorEq, printedEq, resultEq⟩

/-- A run for whose text there is no room fails when the room is used up. -/
theorem runFor_limited_of_overflow
    {before : Processor}
    {limit room : Nat}
    (overflows :
      room <
        (printedText
          (before.runFor Sink.unlimited limit).events.toList).length)
    (refusal : Refusal) :
    (before.runFor (Sink.limited room refusal) limit).result =
        .error (.output refusal) ∧
      (printedText
          (before.runFor (Sink.limited room refusal)
            limit).events.toList).toList =
        (printedText
          (before.runFor Sink.unlimited limit).events.toList).toList.take
            room := by
  obtain ⟨events, ends, textEq⟩ := before.ends_runFor Sink.unlimited limit
  obtain ⟨count, reached, shown, trajectory, within, -, stepsText⟩ :=
    ends.exists_trajectory
  have text := textEq.trans stepsText
  rw [text] at overflows ⊢
  obtain ⟨index, stopped, earlier, cutEvents, -, -, -, -, -, cutEnds, cutText⟩ :=
    trajectory.ends_of_overflow within overflows refusal
  obtain ⟨-, -, printedEq, resultEq⟩ := cutEnds.runFor_eq
  exact ⟨resultEq, (congrArg String.toList printedEq).trans cutText⟩

end LS8
