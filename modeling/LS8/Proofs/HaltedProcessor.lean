import LS8.Proofs.Reachability
import LS8.Proofs.Slices

namespace LS8

/-!
# Halted processors

A processor that has halted answers every step and every run at once, and
nothing comes out of it (`respond_of_halted`). It does not change either, with
one exception: a run prepares the stack pointer before it looks at the status,
so that a processor that halted before it counted an instruction has its stack
pointer set (`afterDrives_of_halted`).

The exception changes nothing for a processor that was in a run before, as long
as nobody else has written R7 since: such a processor is prepared
(`Prepared.afterCalls`).
-/

/-- A call that makes a processor go on, if it can. -/
inductive Drive where
  | step (sink : Sink)
  | run (sink : Sink)
  | runFor (sink : Sink) (limit : Nat)
  deriving Repr

/-- What a processor returns to a drive. -/
inductive Answer where
  | status (result : Except Fault Status)
  | count (result : Except Fault Nat)
  deriving Repr

/-- The fault that is returned, if one is. -/
def Answer.fault? : Answer → Option Fault
  | .status (.error fault) => some fault
  | .count (.error fault) => some fault
  | _ => none

/-- What comes of a drive, the processor apart. -/
structure Response where
  answer : Answer
  sink : Sink
  /-- What came out, in order. -/
  events : List Event
  deriving Repr

namespace Drive

/-- A drive is a call. -/
def call : Drive → Call
  | .step sink => .step sink
  | .run sink => .run sink
  | .runFor sink limit => .runFor sink limit

/-- The drive is a run, with a limit or without. -/
inductive Runs : Drive → Prop where
  | run (sink : Sink) : Runs (.run sink)
  | runFor (sink : Sink) (limit : Nat) : Runs (.runFor sink limit)

instance : DecidablePred Runs
  | .step _ => .isFalse nofun
  | .run sink => .isTrue (.run sink)
  | .runFor sink limit => .isTrue (.runFor sink limit)

/-- The response without any effect: nothing is executed, and nothing comes out. -/
def idle : Drive → Response
  | .step sink =>
      { answer := .status (.ok .halted), sink := sink, events := [] }
  | .run sink => { answer := .count (.ok 0), sink := sink, events := [] }
  | .runFor sink _ => { answer := .count (.ok 0), sink := sink, events := [] }

end Drive

/-- What comes of a run, the processor apart. -/
def Run.response (run : Run) : Response :=
  {
    answer := .count run.result
    sink := run.sink
    events := run.events.toList
  }

namespace Processor

/-- What comes of a drive, the processor apart. -/
def respond (processor : Processor) : Drive → Response
  | .step sink =>
      let transition := processor.step sink
      {
        answer := .status transition.result
        sink := transition.sink
        events := transition.events
      }
  | .run sink => (processor.run sink).response
  | .runFor sink limit => (processor.runFor sink limit).response

/-- The responses to drives, one after the other. -/
def responses (processor : Processor) : List Drive → List Response
  | [] => []
  | drive :: rest =>
      processor.respond drive ::
        (processor.afterCall drive.call).responses rest

/-- The processor after drives, one after the other. -/
def afterDrives (processor : Processor) (drives : List Drive) : Processor :=
  processor.afterCalls (drives.map Drive.call)

variable {before : Processor}

/-- Preparing a processor neither halts it nor wakes it up. -/
theorem status_prepare (processor : Processor) :
    processor.prepare.status = processor.status := by
  unfold prepare
  split <;> rfl

/-- A run of a halted processor is over before its first step. -/
theorem runFor_of_halted
    (halted : before.status = .halted)
    (sink : Sink)
    (limit : Nat) :
    before.runFor sink limit = Run.start before.prepare sink := by
  have still : (Run.start before.prepare sink).processor.status = .halted :=
    before.status_prepare.trans halted
  simp only [runFor, Run.iterate_of_halted still, Run.noteLimit, still]

/-- A halted processor has nothing to answer. -/
theorem respond_of_halted
    (halted : before.status = .halted)
    (drive : Drive) :
    before.respond drive = drive.idle := by
  cases drive with
  | step sink =>
      simp only [respond, step_of_halted halted]
      rfl
  | run sink =>
      simp only [respond, run, runFor_of_halted halted]
      rfl
  | runFor sink limit =>
      simp only [respond, runFor_of_halted halted]
      rfl

/-- A halted processor is prepared by a run, and kept by a step. -/
theorem afterCall_of_halted
    (halted : before.status = .halted)
    (drive : Drive) :
    before.afterCall drive.call =
      if drive.Runs then before.prepare else before := by
  cases drive with
  | step sink =>
      simp only [Drive.call, afterCall, step_of_halted halted]
      exact (if_neg nofun).symm
  | run sink =>
      simp only [Drive.call, afterCall, run, runFor_of_halted halted]
      exact (if_pos (.run sink)).symm
  | runFor sink limit =>
      simp only [Drive.call, afterCall, runFor_of_halted halted]
      exact (if_pos (.runFor sink limit)).symm

theorem halted_afterCall
    (halted : before.status = .halted)
    (drive : Drive) :
    (before.afterCall drive.call).status = .halted := by
  rw [afterCall_of_halted halted]
  split
  · exact before.status_prepare.trans halted
  · exact halted

/-- Drives of a halted processor have no effect, each on its own. -/
theorem responses_of_halted
    (halted : before.status = .halted)
    (drives : List Drive) :
    before.responses drives = drives.map Drive.idle := by
  induction drives generalizing before with
  | nil => rfl
  | cons drive rest inductionHypothesis =>
      simp only [responses, List.map_cons, respond_of_halted halted,
        inductionHypothesis (halted_afterCall halted drive)]

/-- Drives of a halted processor prepare it if there is a run among them. -/
theorem afterDrives_of_halted
    (halted : before.status = .halted)
    (drives : List Drive) :
    before.afterDrives drives =
      if ∃ drive ∈ drives, drive.Runs then before.prepare else before := by
  induction drives generalizing before with
  | nil => rfl
  | cons drive rest inductionHypothesis =>
      have later := inductionHypothesis (halted_afterCall halted drive)
      have first := afterCall_of_halted halted drive
      simp only [afterDrives, List.map_cons, afterCalls,
        List.foldl_cons] at later ⊢
      rw [later, first]
      by_cases runs : drive.Runs
      · -- To prepare it once more makes no difference.
        simp [runs, (Prepared.prepare before).prepare_eq_self]
      · simp [runs]

end Processor

/-- The call does not write R7 from outside. -/
def Call.SparesPointer : Call → Prop
  | .setRegister index _ => index ≠ 7
  | .setStackPointer _ => False
  | _ => True

/-- A call is a drive, or it writes the memory and the registers at most. -/
theorem Call.drives_or_writes (call : Call) (before : Processor) :
    (∃ drive : Drive, call = drive.call) ∨
      ∃ memory registers,
        before.afterCall call =
            { before with memory := memory, registers := registers } ∧
          (call.SparesPointer →
            registers.stackPointer = before.registers.stackPointer) := by
  cases call with
  | step sink => exact .inl ⟨.step sink, rfl⟩
  | run sink => exact .inl ⟨.run sink, rfl⟩
  | runFor sink limit => exact .inl ⟨.runFor sink limit, rfl⟩
  | setStackPointer value => exact .inr ⟨_, _, rfl, False.elim⟩
  | load image =>
      right
      simp only [Processor.afterCall, Processor.load]
      cases before.memory.load image <;> exact ⟨_, _, rfl, fun _ => rfl⟩
  | writeCell address value =>
      right
      simp only [Processor.afterCall]
      cases before.memory.write address value <;>
        exact ⟨_, _, rfl, fun _ => rfl⟩
  | setRegister index value =>
      right
      simp only [Processor.afterCall, Registers.set]
      cases names : Register.named index with
      | error error => exact ⟨_, _, rfl, fun _ => rfl⟩
      | ok register =>
          refine ⟨_, _, rfl, ?_⟩
          intro spares
          have other : register ≠ Register.stackPointer := by
            rintro rfl
            exact spares (Register.val_of_named names).symm
          simp only [Registers.stackPointer, Registers.value_update,
            if_neg other]

namespace Prepared

/-- A run prepares its processor and keeps it so. -/
theorem afterRun
    (before : Processor)
    {drive : Drive}
    (runs : drive.Runs) :
    Prepared (before.afterCall drive.call) := by
  have step (processor : Processor) (sink : Sink) :
      Prepared processor → Prepared (processor.step sink).processor :=
    fun prepared => prepared.step sink
  cases runs with
  | run sink =>
      exact Processor.runFor_preserves step (prepare before) sink greatestWord
  | runFor sink limit =>
      exact Processor.runFor_preserves step (prepare before) sink limit

/-- A call that does not write R7 keeps a processor prepared. -/
theorem afterCall
    {before : Processor}
    (prepared : Prepared before)
    {call : Call}
    (spares : call.SparesPointer) :
    Prepared (before.afterCall call) := by
  rcases call.drives_or_writes before with
    ⟨drive, rfl⟩ | ⟨memory, registers, after, pointer⟩
  · cases drive with
    | step sink => exact prepared.step sink
    | run sink => exact afterRun before (.run sink)
    | runFor sink limit => exact afterRun before (.runFor sink limit)
  · rw [after]
    intro unused
    exact (pointer spares).trans (prepared unused)

/-- The same for any number of calls. -/
theorem afterCalls
    {before : Processor}
    (prepared : Prepared before)
    {calls : List Call}
    (spare : ∀ call ∈ calls, call.SparesPointer) :
    Prepared (before.afterCalls calls) := by
  induction calls generalizing before with
  | nil => exact prepared
  | cons call rest inductionHypothesis =>
      obtain ⟨spares, others⟩ := List.forall_mem_cons.mp spare
      exact inductionHypothesis (prepared.afterCall spares) others

end Prepared

/-- A run that halts a running processor without counting a step has faulted. -/
theorem Processor.exists_fault_of_runFor
    {before : Processor}
    {sink : Sink}
    {limit : Nat}
    (running : before.status = .running)
    (halts : (before.runFor sink limit).processor.status = .halted)
    (unused : (before.runFor sink limit).processor.steps = 0) :
    ∃ fault, (before.runFor sink limit).result = .error fault := by
  obtain ⟨events, ends, -⟩ := before.ends_runFor sink limit
  generalize (before.runFor sink limit).processor = after at halts unused ends
  generalize (before.runFor sink limit).sink = afterSink at ends
  generalize (before.runFor sink limit).result = result at ends
  cases ends with
  | faulted => exact ⟨_, rfl⟩
  | stopped trajectory =>
      -- Without a step the processor would still be running.
      cases trajectory with
      | nil => simp [before.status_prepare, running] at halts
      | cons first succeeds rest =>
          have counted := rest.steps_eq
          rw [steps_of_step_ok first succeeds] at counted
          omega

/--
A call that halts a running processor, and after which no instruction has been
counted, is a drive that returns a fault.
-/
theorem Call.exists_fault_of_halts
    {before : Processor}
    (running : before.status = .running)
    {call : Call}
    (halts : (before.afterCall call).status = .halted)
    (unused : (before.afterCall call).steps = 0) :
    ∃ drive fault,
      call = Drive.call drive ∧
        (before.respond drive).answer.fault? = some fault := by
  rcases call.drives_or_writes before with
    ⟨drive, rfl⟩ | ⟨memory, registers, after, -⟩
  · cases drive with
    | step sink =>
        cases result : (before.step sink).result with
        | ok status =>
            have counted := steps_of_step_ok running result
            exact absurd (counted.symm.trans unused) (Nat.succ_ne_zero _)
        | error fault =>
            refine ⟨.step sink, fault, rfl, ?_⟩
            simp only [Processor.respond, result, Answer.fault?]
    | run sink =>
        obtain ⟨fault, faults⟩ :=
          Processor.exists_fault_of_runFor running halts unused
        refine ⟨.run sink, fault, rfl, ?_⟩
        simp only [Processor.respond, Run.response, Processor.run, faults,
          Answer.fault?]
    | runFor sink limit =>
        obtain ⟨fault, faults⟩ :=
          Processor.exists_fault_of_runFor running halts unused
        refine ⟨.runFor sink limit, fault, rfl, ?_⟩
        simp only [Processor.respond, Run.response, faults, Answer.fault?]
  · rw [after] at halts
    simp [running] at halts

/--
If calls halt a running processor and no instruction has been counted, the
very first instruction has faulted in one of them.
-/
theorem exists_first_fault
    {before : Processor}
    (running : before.status = .running)
    {calls : List Call}
    (halts : (before.afterCalls calls).status = .halted)
    (unused : (before.afterCalls calls).steps = 0) :
    ∃ earlier drive later fault,
      calls = earlier ++ Drive.call drive :: later ∧
        (before.afterCalls earlier).status = .running ∧
        (before.afterCalls earlier).steps = 0 ∧
        ((before.afterCalls earlier).respond drive).answer.fault? =
          some fault := by
  induction calls generalizing before with
  | nil => exact absurd (running.symm.trans halts) (by decide)
  | cons call rest inductionHypothesis =>
      have advances := Advances.afterCalls (before.afterCall call) rest
      have counted : (before.afterCall call).steps = 0 :=
        Nat.eq_zero_of_le_zero
          (Nat.le_trans advances.steps_le (Nat.le_of_eq unused))
      cases status : (before.afterCall call).status with
      | halted =>
          obtain ⟨drive, fault, rfl, faults⟩ :=
            Call.exists_fault_of_halts running status counted
          have steps := (Advances.afterCalls before [drive.call]).steps_le
          refine ⟨[], drive, rest, fault, rfl, running, ?_, faults⟩
          exact Nat.eq_zero_of_le_zero
            (Nat.le_trans steps (Nat.le_of_eq counted))
      | running =>
          obtain ⟨earlier, drive, later, fault, rfl, stillRunning, uncounted,
              faults⟩ :=
            inductionHypothesis status halts unused
          exact ⟨call :: earlier, drive, later, fault, rfl, stillRunning,
            uncounted, faults⟩

/--
A halted processor answers every step with its status and every run with a
count of zero; the sink stays as it is and nothing comes out. Any number of
drives leave the processor as it is, but that a run sets the stack pointer if
no instruction has been counted. This makes no difference if the processor was
in a run before and R7 was not written from outside since. A processor in use
has counted nothing when it halts only if its very first instruction faulted.
-/
theorem halted_absorbs
    {before : Processor}
    (halted : before.status = .halted)
    (drives : List Drive) :
    before.responses drives = drives.map Drive.idle ∧
      before.afterDrives drives =
        (if before.steps = 0 ∧ ∃ drive ∈ drives, drive.Runs then
          before.setStackPointer 0xFF
        else
          before) ∧
      (∀ (start : Processor) drive since,
        Drive.Runs drive →
        (∀ call ∈ since, Call.SparesPointer call) →
        start.afterCalls (drive.call :: since) = before →
        before.afterDrives drives = before) ∧
      (∀ calls,
        Processor.initial.afterCalls calls = before →
        before.steps = 0 →
        ∃ earlier drive later fault,
          calls = earlier ++ Drive.call drive :: later ∧
            (Processor.initial.afterCalls earlier).status = .running ∧
            (Processor.initial.afterCalls earlier).steps = 0 ∧
            ((Processor.initial.afterCalls earlier).respond drive).answer.fault? =
              some fault) := by
  refine ⟨Processor.responses_of_halted halted drives, ?_, ?_, ?_⟩
  · rw [Processor.afterDrives_of_halted halted]
    unfold Processor.prepare
    by_cases runs : ∃ drive ∈ drives, drive.Runs <;>
      simp only [runs, and_true, and_false, ↓reduceIte]
    rfl
  · rintro start drive since runs spare rfl
    have prepared : Prepared (start.afterCalls (drive.call :: since)) :=
      (Prepared.afterRun start runs).afterCalls spare
    rw [Processor.afterDrives_of_halted halted, prepared.prepare_eq_self,
      ite_self]
  · rintro calls rfl unused
    exact exists_first_fault rfl halted unused

/-- A processor whose first instruction is none, once it was stepped. -/
def haltedAtOnce : Processor :=
  Processor.initial.afterCalls [.writeCell 0 0xFF, .step Sink.unlimited]

/-- It was never in a run, so that the first run still sets its stack pointer. -/
theorem halted_absorbs_haltedAtOnce :
    haltedAtOnce.status = .halted ∧
      haltedAtOnce.registers.stackPointer = 0 ∧
      haltedAtOnce.afterDrives
          [.step Sink.unlimited, .runFor (Sink.limited 0 .brokenPipe) 0] =
        haltedAtOnce.setStackPointer 0xFF := by
  have halted : haltedAtOnce.status = .halted := rfl
  obtain ⟨-, driven, -⟩ :=
    halted_absorbs halted
      [.step Sink.unlimited, .runFor (Sink.limited 0 .brokenPipe) 0]
  refine ⟨halted, rfl, driven.trans (if_pos ⟨rfl, ?_⟩)⟩
  exact ⟨_, List.mem_cons_of_mem _ List.mem_cons_self, .runFor _ _⟩

end LS8
