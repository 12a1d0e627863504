import Mathlib.Algebra.GroupWithZero.Nat
import LS8.Proofs.Loop

namespace LS8

/-!
# Runs in slices

A run may be cut into slices, each with a limit of its own. Every slice sets
the stack pointer if no instruction was counted so far. This does no harm: a
processor that has been in a run and has counted nothing still holds the
stack's top in its stack pointer (`Prepared`), so setting it again changes
nothing (`prepare_eq_self`).

The slices together are one loop of the whole limit (`Prepared.ends_runSlices`),
and so is a single run.
-/

/-- What runs one after another leave behind, each going on after the last. -/
structure Sliced where
  processor : Processor
  sink : Sink
  /-- The text that all of the runs printed. -/
  printed : String
  /-- What the runs returned, in order. -/
  results : List (Except Fault Nat)

/-- Run once for each limit, in turn, on one sink. -/
def Processor.runSlices
    (processor : Processor)
    (sink : Sink) :
    List Nat → Sliced
  | [] =>
      {
        processor := processor
        sink := sink
        printed := ""
        results := []
      }
  | limit :: rest =>
      let run := processor.runFor sink limit
      let later := run.processor.runSlices run.sink rest
      {
        processor := later.processor
        sink := later.sink
        printed := printedText run.events.toList ++ later.printed
        results := run.result :: later.results
      }

/-- A processor that has counted nothing holds the stack's top. -/
def Prepared (processor : Processor) : Prop :=
  processor.steps = 0 →
    processor.registers.stackPointer = Registers.stackTop

namespace Prepared

/-- A prepared processor need not be prepared again. -/
theorem prepare_eq_self
    {processor : Processor}
    (prepared : Prepared processor) :
    processor.prepare = processor := by
  unfold Processor.prepare
  split
  next unused =>
    rw [← prepared unused, Processor.setStackPointer,
      Registers.setStackPointer_self]
  next => rfl

/-- The preparation of a run does what it is for. -/
theorem prepare (processor : Processor) :
    Prepared processor.prepare := by
  unfold Processor.prepare
  split
  next =>
    intro _
    exact Registers.stackPointer_setStackPointer _ _
  next used =>
    intro unused
    exact (used unused).elim

/-- A step keeps a processor prepared: it counts, or it keeps the registers. -/
theorem step
    {before : Processor}
    (prepared : Prepared before)
    (sink : Sink) :
    Prepared (before.step sink).processor := by
  have stepped := before.stepped sink
  generalize before.step sink = transition at stepped ⊢
  cases stepped with
  | idle | unfetched | undecoded | failed | refused => exact prepared
  | completed _ _ _ steps =>
      intro unused
      rw [steps] at unused
      exact (Nat.succ_ne_zero _ unused).elim

/-- A loop keeps a processor prepared, also one that ends at a fault. -/
theorem ends
    {limit : Nat}
    {before after : Processor}
    {sink afterSink : Sink}
    {events : List Event}
    {result : Except Fault Nat}
    (prepared : Prepared before)
    (ends : Ends limit before sink after afterSink events result) :
    Prepared after :=
  ends.preserves (fun _ sink prepared => prepared.step sink) prepared

end Prepared

/-- The count of several runs together, or the first fault among them. -/
def total : List (Except Fault Nat) → Except Fault Nat
  | [] => .ok 0
  | result :: rest => do return (← result) + (← total rest)

/-- The counts of runs without a fault add up. -/
theorem total_map_ok (counts : List Nat) :
    total (counts.map .ok) = .ok counts.sum := by
  induction counts with
  | nil => rfl
  | cons count rest inductionHypothesis =>
      simp only [List.map_cons, total, inductionHypothesis, List.sum_cons]
      rfl

namespace Processor

/-- A run prepares its processor, so it does not matter if that was done. -/
theorem runFor_prepare
    (processor : Processor)
    (sink : Sink)
    (limit : Nat) :
    processor.prepare.runFor sink limit = processor.runFor sink limit := by
  unfold runFor
  rw [(Prepared.prepare processor).prepare_eq_self]

/-- The same for slices, of which there is at least one. -/
theorem runSlices_prepare
    (processor : Processor)
    (sink : Sink)
    {limits : List Nat}
    (nonempty : limits ≠ []) :
    processor.prepare.runSlices sink limits =
      processor.runSlices sink limits := by
  cases limits with
  | nil => exact (nonempty rfl).elim
  | cons limit rest =>
      simp only [runSlices, runFor_prepare]

end Processor

namespace Prepared

variable {processor : Processor}

/-- A run from a prepared processor is a loop from that very processor. -/
theorem ends_runFor
    (prepared : Prepared processor)
    (sink : Sink)
    (limit : Nat) :
    ∃ events,
      Ends limit processor sink
          (processor.runFor sink limit).processor
          (processor.runFor sink limit).sink
          events
          (processor.runFor sink limit).result ∧
        printedText (processor.runFor sink limit).events.toList =
          printedText events := by
  have loop := processor.ends_runFor sink limit
  rwa [prepared.prepare_eq_self] at loop

/-- Slices from a prepared processor are one loop of their whole limit. -/
theorem ends_runSlices
    (prepared : Prepared processor)
    (sink : Sink)
    (limits : List Nat) :
    ∃ events,
      Ends limits.sum processor sink
          (processor.runSlices sink limits).processor
          (processor.runSlices sink limits).sink
          events
          (total (processor.runSlices sink limits).results) ∧
        (processor.runSlices sink limits).printed =
          printedText events := by
  induction limits generalizing processor sink with
  | nil =>
      exact ⟨[],
        .stopped (.nil processor sink) (Nat.le_refl 0) (Or.inr rfl), rfl⟩
  | cons limit rest inductionHypothesis =>
      obtain ⟨events, first, firstPrints⟩ := prepared.ends_runFor sink limit
      obtain ⟨more, second, secondPrints⟩ :=
        inductionHypothesis (prepared.ends first)
          (processor.runFor sink limit).sink
      refine ⟨events ++ more, first.append second, ?_⟩
      simp only [Processor.runSlices, firstPrints, secondPrints,
        printedText_append]

/-- Slices from a halted processor execute nothing. -/
theorem results_of_halted
    (prepared : Prepared processor)
    (halted : processor.status = .halted)
    (sink : Sink)
    (limits : List Nat) :
    (processor.runSlices sink limits).results =
      limits.map fun _ => .ok 0 := by
  induction limits generalizing processor sink with
  | nil => rfl
  | cons limit rest inductionHypothesis =>
      obtain ⟨events, first, -⟩ := prepared.ends_runFor sink limit
      obtain ⟨same, -, -, result⟩ := first.of_halted halted
      have stillHalted :
          (processor.runFor sink limit).processor.status = .halted := by
        rw [same]
        exact halted
      simp only [Processor.runSlices, List.map_cons, result]
      rw [inductionHypothesis (prepared.ends first) stillHalted]

/--
If slices come to a fault, one slice returns it; the slices before it return
their limits, and those after it execute nothing.
-/
theorem results_of_fault
    {fault : Fault}
    (prepared : Prepared processor)
    (sink : Sink)
    (limits : List Nat)
    (faults :
      total (processor.runSlices sink limits).results = .error fault) :
    ∃ earlier limit later,
      limits = earlier ++ limit :: later ∧
        (processor.runSlices sink limits).results =
          earlier.map .ok ++ .error fault :: later.map fun _ => .ok 0 := by
  induction limits generalizing processor sink with
  | nil => simp [Processor.runSlices, total] at faults
  | cons limit rest inductionHypothesis =>
      obtain ⟨events, first, -⟩ := prepared.ends_runFor sink limit
      have nextPrepared := prepared.ends first
      simp only [Processor.runSlices, total] at faults ⊢
      generalize processor.runFor sink limit = run at *
      cases result : run.result with
      | error found =>
          -- The fault is in this slice, which leaves the processor halted.
          rw [result] at first faults
          cases faults
          refine ⟨[], limit, rest, rfl, ?_⟩
          rw [nextPrepared.results_of_halted first.halted_of_error]
          rfl
      | ok count =>
          rw [result] at first faults
          have restFaults :
              total (run.processor.runSlices run.sink rest).results =
                .error fault := by
            cases found :
                total (run.processor.runSlices run.sink rest).results with
            | ok more =>
                rw [found] at faults
                cases faults
            | error other =>
                rw [found] at faults
                cases faults
                rfl
          -- A later slice could not fault if this one had halted.
          have full : count = limit := by
            rcases first.halted_or_eq_limit with halted | full
            · have noFault := total_map_ok (rest.map fun _ => 0)
              rw [List.map_map] at noFault
              rw [nextPrepared.results_of_halted halted] at restFaults
              cases noFault.symm.trans restFaults
            · exact full
          obtain ⟨earlier, other, later, limitsEq, resultsEq⟩ :=
            inductionHypothesis nextPrepared run.sink restFaults
          refine ⟨limit :: earlier, other, later, ?_, ?_⟩
          · rw [limitsEq]
            rfl
          · rw [resultsEq, full]
            rfl

end Prepared

/--
A run may be cut into slices: the slices leave the processor, the sink and the
text of the single run, which is the loop that prepares the stack pointer and
then steps. Their counts add up to that of the single run; if it comes to a
fault, just one slice returns it, after slices that used up their limits and
before slices that execute nothing.
-/
theorem runSlices_eq_runFor
    (before : Processor)
    (sink : Sink)
    {limits : List Nat}
    (nonempty : limits ≠ []) :
    ((before.runSlices sink limits).processor =
        (before.runFor sink limits.sum).processor ∧
      (before.runSlices sink limits).sink =
        (before.runFor sink limits.sum).sink ∧
      (before.runSlices sink limits).printed =
        printedText (before.runFor sink limits.sum).events.toList) ∧
    (∀ after afterSink text result,
      (∃ events,
        Ends limits.sum
            (if before.steps = 0 then before.setStackPointer 0xFF else before)
            sink after afterSink events result ∧
          text = printedText events) ↔
        after = (before.runFor sink limits.sum).processor ∧
          afterSink = (before.runFor sink limits.sum).sink ∧
          text = printedText (before.runFor sink limits.sum).events.toList ∧
          result = (before.runFor sink limits.sum).result) ∧
    (∀ counts : List Nat,
      (before.runSlices sink limits).results = counts.map .ok →
      (before.runFor sink limits.sum).result = .ok counts.sum) ∧
    (∀ fault,
      (before.runFor sink limits.sum).result = .error fault →
      ∃ earlier limit later,
        limits = earlier ++ limit :: later ∧
          (before.runSlices sink limits).results =
            earlier.map .ok ++ .error fault :: later.map fun _ => .ok 0) := by
  have prepared := Prepared.prepare before
  obtain ⟨events, ends, prints⟩ := prepared.ends_runSlices sink limits
  rw [before.runSlices_prepare sink nonempty] at ends prints
  obtain ⟨processorEq, sinkEq, printedEq, resultEq⟩ := ends.runFor_eq
  refine ⟨⟨processorEq.symm, sinkEq.symm, ?_⟩, ?_, ?_, ?_⟩
  · exact prints.trans printedEq.symm
  · intro after afterSink text result
    constructor
    · rintro ⟨others, otherEnds, rfl⟩
      obtain ⟨rfl, rfl, otherPrinted, rfl⟩ := otherEnds.runFor_eq
      exact ⟨rfl, rfl, otherPrinted.symm, rfl⟩
    · rintro ⟨rfl, rfl, rfl, rfl⟩
      exact before.ends_runFor sink limits.sum
  · intro counts results
    rw [resultEq, results, total_map_ok]
  · intro fault faults
    rw [resultEq, ← before.runSlices_prepare sink nonempty] at faults
    rw [← before.runSlices_prepare sink nonempty]
    exact prepared.results_of_fault sink limits faults

/-- A processor that comes to a byte without an opcode after a `NOP`. -/
def unknownAfterNop : Processor :=
  { Processor.initial with memory := Memory.empty.store 1 0xFF }

/-- The second of three slices finds the fault of the single run. -/
theorem runSlices_eq_runFor_unknownAfterNop :
    [1, 2, 3] ≠ [] ∧
      (unknownAfterNop.runFor Sink.unlimited 6).result =
        .error (.unknownOpcode 0xFF 1) ∧
      ∃ earlier limit later,
        [1, 2, 3] = earlier ++ limit :: later ∧
          (unknownAfterNop.runSlices Sink.unlimited [1, 2, 3]).results =
            earlier.map .ok ++ .error (.unknownOpcode 0xFF 1) ::
              later.map fun _ => .ok 0 :=
  ⟨List.cons_ne_nil _ _, rfl,
    (runSlices_eq_runFor unknownAfterNop Sink.unlimited
      (List.cons_ne_nil 1 [2, 3])).2.2.2 (.unknownOpcode 0xFF 1) rfl⟩

end LS8
