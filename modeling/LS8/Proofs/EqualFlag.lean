import LS8.Proofs.AlikeSteps
import LS8.Proofs.RunCounts
import LS8.Proofs.RunRecords

namespace LS8

/-!
# Only the flag `EQUAL` is observable

A program can ask for the flag `EQUAL`, by a `JEQ` or a `JNE`, and for no other.
Two processors that differ in nothing but `GREATER` and `LESS` (`AgreeOnEqual`)
therefore do the same, step by step and in runs: the flags show in the trace and
nowhere else. A `CMP` replaces all three flags, so that the processors are the
same after it (`AgreeOnEqual.step`).
-/

open InstructionTable

/-- Two processors differ in nothing but the flags `GREATER` and `LESS`. -/
structure AgreeOnEqual (left right : Processor) : Prop where
  memory : left.memory = right.memory
  registers : left.registers = right.registers
  pc : left.pc = right.pc
  equal : left.flags.equal = right.flags.equal
  status : left.status = right.status
  steps : left.steps = right.steps

namespace AgreeOnEqual

variable
  {left right : Processor}
  {sink : Sink}

/-- Only the flags are different. -/
theorem exists_flags
    (agree : AgreeOnEqual left right) :
    ∃ flags,
      flags.equal = left.flags.equal ∧ right = { left with flags := flags } := by
  refine ⟨right.flags, agree.equal.symm, ?_⟩
  cases left
  cases right
  obtain ⟨memory, registers, pc, -, status, steps⟩ := agree
  simp only at memory registers pc status steps
  subst memory registers pc status steps
  rfl

/-- A jump is taken on both sides or on none, so that its register is needed. -/
theorem accessError?_eq
    (agree : AgreeOnEqual left right)
    (opcode : Opcode)
    (first second : UInt8) :
    accessError? right opcode first second =
      accessError? left opcode first second := by
  obtain ⟨flags, equal, rfl⟩ := agree.exists_flags
  cases opcode with
  | jeq | jne => simp only [accessError?, equal]
  | _ => rfl

/-- The processors come to the same instruction, whatever their flags are. -/
theorem sameInstruction
    (agree : AgreeOnEqual left right) :
    SameInstruction left right where
  status := agree.status
  pc := agree.pc
  byte := by
    intro running
    rw [agree.memory, agree.pc]
  operandByte := by
    intro opcode index fetches within
    rw [agree.memory, agree.pc]
  error := agree.accessError?_eq
  output := by
    obtain ⟨flags, -, rfl⟩ := agree.exists_flags
    intros
    rfl

/-- An instruction leaves the processors alike. -/
theorem of_follows
    {opcode : Opcode}
    {first second : UInt8}
    {leftAfter rightAfter : Processor}
    (agree : AgreeOnEqual left right)
    (leftFollows : Follows left opcode first second leftAfter)
    (rightFollows : Follows right opcode first second rightAfter)
    (steps : leftAfter.steps = rightAfter.steps) :
    AgreeOnEqual leftAfter rightAfter := by
  obtain ⟨flags, equal, rfl⟩ := agree.exists_flags
  constructor
  case memory =>
    apply Memory.ext_cell
    intro address
    exact (leftFollows.cell address).trans (rightFollows.cell address).symm
  case registers =>
    apply Registers.ext_value
    intro register
    exact
      (leftFollows.register register).trans
        (rightFollows.register register).symm
  case pc =>
    rw [leftFollows.pc, rightFollows.pc]
    cases opcode with
    | jeq | jne =>
        simp only [pcAfter, equal]
        rfl
    | _ => rfl
  case equal =>
    rw [leftFollows.flags, rightFollows.flags]
    cases opcode with
    | cmp => rfl
    | _ => exact equal.symm
  case status => exact leftFollows.status.trans rightFollows.status.symm
  case steps => exact steps

/-- A comparison leaves the processors the same. -/
theorem eq_of_follows
    {first second : UInt8}
    {leftAfter rightAfter : Processor}
    (agree : AgreeOnEqual left right)
    (leftFollows : Follows left .cmp first second leftAfter)
    (rightFollows : Follows right .cmp first second rightAfter)
    (steps : leftAfter.steps = rightAfter.steps) :
    leftAfter = rightAfter := by
  have agreeAfter := agree.of_follows leftFollows rightFollows steps
  have flags : leftAfter.flags = rightAfter.flags := by
    obtain ⟨others, -, rfl⟩ := agree.exists_flags
    exact leftFollows.flags.trans rightFollows.flags.symm
  obtain ⟨others, -, rfl⟩ := agreeAfter.exists_flags
  simp only at flags
  rw [← flags]

/-- Halting makes no difference. -/
theorem halted
    (agree : AgreeOnEqual left right) :
    AgreeOnEqual
      { left with status := .halted }
      { right with status := .halted } where
  memory := agree.memory
  registers := agree.registers
  pc := agree.pc
  equal := agree.equal
  status := rfl
  steps := agree.steps

/--
A step looks alike on both sides and leaves the processors alike; they are the
same if it executes a `CMP`.
-/
theorem step
    (agree : AgreeOnEqual left right)
    (sink : Sink) :
    LookAlike (left.step sink) (right.step sink) ∧
      AgreeOnEqual (left.step sink).processor (right.step sink).processor ∧
      (left.Executes sink .cmp →
        (left.step sink).processor = (right.step sink).processor) := by
  obtain ⟨alike, together⟩ := agree.sameInstruction.step sink
  refine ⟨alike, ?_⟩
  generalize (left.step sink).processor = leftAfter at together ⊢
  generalize (right.step sink).processor = rightAfter at together ⊢
  cases together with
  | idle rests => exact ⟨agree, fun compares => (rests .cmp compares).elim⟩
  | fault rests =>
      exact ⟨agree.halted, fun compares => (rests .cmp compares).elim⟩
  | execute executes leftFollows rightFollows leftSteps rightSteps =>
      have steps : leftAfter.steps = rightAfter.steps := by
        rw [leftSteps, rightSteps, agree.steps]
      refine ⟨agree.of_follows leftFollows rightFollows steps, ?_⟩
      intro compares
      obtain rfl := executes.unique compares
      exact agree.eq_of_follows leftFollows rightFollows steps

/-- Preparing the stack pointer makes no difference. -/
theorem prepare
    (agree : AgreeOnEqual left right) :
    AgreeOnEqual left.prepare right.prepare := by
  obtain ⟨flags, equal, rfl⟩ := agree.exists_flags
  unfold Processor.prepare
  split
  · exact ⟨rfl, rfl, rfl, equal.symm, rfl, rfl⟩
  · exact agree

/-- A trajectory from one of the processors is a trajectory from the other. -/
theorem trajectory
    {count : Nat}
    {after : Processor}
    {afterSink : Sink}
    {events : List Event}
    (agree : AgreeOnEqual left right)
    (trajectory : Trajectory count left sink events after afterSink) :
    ∃ otherEvents otherAfter,
      Trajectory count right sink otherEvents otherAfter afterSink ∧
        shownEvents (.upTo .debug) events =
          shownEvents (.upTo .debug) otherEvents ∧
        AgreeOnEqual after otherAfter := by
  induction trajectory generalizing right with
  | nil => exact ⟨[], right, .nil right _, rfl, agree⟩
  | @cons _ left _ sink _ _ _ running succeeds _ inductionHypothesis =>
      obtain ⟨alike, agreeAfter, -⟩ := agree.step sink
      obtain ⟨events, after, rest, shown, agreeEnd⟩ :=
        inductionHypothesis agreeAfter
      rw [alike.sink] at rest
      refine ⟨(right.step sink).events ++ events, after, ?_, ?_, agreeEnd⟩
      · exact .cons (agree.status ▸ running)
          (alike.result.symm.trans succeeds) rest
      · rw [shownEvents_append, shownEvents_append, alike.shown, shown]

/-- A loop ends in the same way from both of the processors. -/
theorem ends
    {limit : Nat}
    {after : Processor}
    {afterSink : Sink}
    {events : List Event}
    {result : Except Fault Nat}
    (agree : AgreeOnEqual left right)
    (ends : Ends limit left sink after afterSink events result) :
    ∃ otherEvents otherAfter,
      Ends limit right sink otherAfter afterSink otherEvents result ∧
        shownEvents (.upTo .debug) events =
          shownEvents (.upTo .debug) otherEvents ∧
        AgreeOnEqual after otherAfter := by
  cases ends with
  | stopped trajectory within stops =>
      obtain ⟨otherEvents, otherAfter, others, shown, agreeEnd⟩ :=
        agree.trajectory trajectory
      exact ⟨otherEvents, otherAfter,
        .stopped others within (agreeEnd.status ▸ stops), shown, agreeEnd⟩
  | @faulted _ _ reachedSink _ _ trajectory within running faults =>
      obtain ⟨otherEvents, otherAfter, others, shown, agreeEnd⟩ :=
        agree.trajectory trajectory
      obtain ⟨alike, agreeAfter, -⟩ := agreeEnd.step reachedSink
      have otherEnds : Ends limit right sink _ _ _ _ :=
        .faulted others within (agreeEnd.status ▸ running)
          (alike.result.symm.trans faults)
      rw [← alike.sink] at otherEnds
      refine ⟨_, _, otherEnds, ?_, agreeAfter⟩
      rw [shownEvents_append, shownEvents_append, alike.shown, shown]

/-- A run is the same to see from both of the processors, traces apart. -/
theorem runFor
    (agree : AgreeOnEqual left right)
    (sink : Sink)
    (limit : Nat) :
    (left.runFor sink limit).result = (right.runFor sink limit).result ∧
      shownEvents (.upTo .debug) (left.runFor sink limit).events.toList =
        shownEvents (.upTo .debug) (right.runFor sink limit).events.toList ∧
      AgreeOnEqual
        (left.runFor sink limit).processor
        (right.runFor sink limit).processor := by
  obtain ⟨after, afterSink, events, result, ends⟩ :=
    exists_ends limit left.prepare sink
  obtain ⟨otherEvents, otherAfter, otherEnds, shown, agreeEnd⟩ :=
    agree.prepare.ends ends
  obtain ⟨processorEq, -, -, resultEq⟩ := ends.runFor_eq
  obtain ⟨otherProcessorEq, -, -, otherResultEq⟩ := otherEnds.runFor_eq
  rw [processorEq, otherProcessorEq, resultEq, otherResultEq,
    ends.events_runFor, otherEnds.events_runFor]
  refine ⟨rfl, ?_, agreeEnd⟩
  have note : after.limitNote limit = otherAfter.limitNote limit := by
    rw [Processor.limitNote, Processor.limitNote, agreeEnd.status, agreeEnd.pc]
  rw [shownEvents_append, shownEvents_append, shown, note]

end AgreeOnEqual

/--
Two processors agree on `EQUAL`, and are the same if a `CMP` is executed in the
first steps of a walk.
-/
structure AgreeAfter
    (start : Processor)
    (sink : Sink)
    (count : Nat)
    (left right : Processor) : Prop where
  agree : AgreeOnEqual left right
  same :
    ∀ index < count, (start.walk sink index).Executes .cmp → left = right

/-- A further step of the walk executes a `CMP` or leaves all as it was. -/
theorem AgreeAfter.step
    {start other : Processor}
    {sink : Sink}
    {count : Nat}
    (agreeAfter :
      AgreeAfter start sink count (start.walk sink count).processor other) :
    let machine := start.walk sink count
    LookAlike (machine.processor.step machine.sink) (other.step machine.sink) ∧
      AgreeAfter start sink (count + 1)
        (machine.processor.step machine.sink).processor
        (other.step machine.sink).processor := by
  intro machine
  obtain ⟨agree, same⟩ := agreeAfter
  obtain ⟨alike, agreeNext, compares⟩ := agree.step machine.sink
  refine ⟨alike, agreeNext, ?_⟩
  intro index within executes
  rcases Nat.lt_succ_iff_lt_or_eq.mp within with already | rfl
  · -- Once the processors are the same, they stay the same.
    rw [← same index already executes]
  · exact compares executes

/--
Only the flag `EQUAL` is observable. Of two processors that differ in nothing
but `GREATER` and `LESS`, every step has the same result and lets out the same,
traces apart. After any number of steps they have printed the same and differ in
nothing but these flags, and once a `CMP` has been executed they are the same.
Runs return the same, print the same and leave them alike as well.
-/
theorem only_equal_observable
    {before other : Processor}
    (differ : AgreeOnEqual before other)
    (sink : Sink) :
    (∀ index,
      LookAlike
          ((before.walk sink index).processor.step
            (before.walk sink index).sink)
          ((other.walk sink index).processor.step
            (other.walk sink index).sink) ∧
        printedText (before.walk sink index).events =
          printedText (other.walk sink index).events ∧
        AgreeOnEqual
          (before.walk sink index).processor
          (other.walk sink index).processor ∧
        ∀ earlier < index,
          (before.walk sink earlier).Executes .cmp →
          (before.walk sink index).processor =
            (other.walk sink index).processor) ∧
      ∀ limit,
        (before.runFor sink limit).result = (other.runFor sink limit).result ∧
          printedText (before.runFor sink limit).events.toList =
            printedText (other.runFor sink limit).events.toList ∧
          AgreeOnEqual
            (before.runFor sink limit).processor
            (other.runFor sink limit).processor := by
  constructor
  · intro index
    have start : AgreeAfter before sink 0 before other := ⟨differ, nofun⟩
    obtain ⟨steps, states⟩ :=
      @walks_alike (AgreeAfter before sink) before other sink (index + 1) start
        fun _ _ => AgreeAfter.step
    obtain ⟨text, agree, same⟩ := states index (Nat.le_succ index)
    exact ⟨steps index (Nat.lt_succ_self index), text, agree, same⟩
  · intro limit
    obtain ⟨result, shown, agree⟩ := differ.runFor sink limit
    refine ⟨result, ?_, agree⟩
    rw [← printedText_shownEvents (.upTo .debug), shown,
      printedText_shownEvents]

/-- A program with a jump if `EQUAL` is set, and then a comparison. -/
def jumpThenCompare (flags : Flags) : Processor :=
  {
    Processor.initial with
    memory :=
      (Memory.empty.store 0 Opcode.jeq.byte).store 2 Opcode.cmp.byte
    flags := flags
  }

/-- The flags after the comparison of two and one, and of one and two. -/
theorem only_equal_observable_jumpThenCompare :
    AgreeOnEqual
        (jumpThenCompare (Flags.compare 2 1))
        (jumpThenCompare (Flags.compare 1 2)) ∧
      ((jumpThenCompare (Flags.compare 2 1)).walk
        Sink.unlimited 1).Executes .cmp ∧
      ((jumpThenCompare (Flags.compare 2 1)).walk
          Sink.unlimited 2).processor =
        ((jumpThenCompare (Flags.compare 1 2)).walk
          Sink.unlimited 2).processor := by
  have differ :
      AgreeOnEqual
        (jumpThenCompare (Flags.compare 2 1))
        (jumpThenCompare (Flags.compare 1 2)) :=
    ⟨rfl, rfl, rfl, rfl, rfl, rfl⟩
  have executes :
      ((jumpThenCompare (Flags.compare 2 1)).walk
        Sink.unlimited 1).Executes .cmp :=
    ⟨rfl, .running, rfl⟩
  obtain ⟨walks, -⟩ := only_equal_observable differ Sink.unlimited
  obtain ⟨-, -, -, same⟩ := walks 2
  exact ⟨differ, executes, same 1 (by decide) executes⟩

end LS8
