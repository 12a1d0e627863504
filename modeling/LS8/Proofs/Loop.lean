import LS8.Processor.Run
import LS8.Proofs.Stepping

namespace LS8

/-!
# The loop of a run

A `Trajectory` is a number of steps, each of a running processor and each
successful, on one sink. `Ends` says how a loop over the step ends: at a halt
or at its limit after a trajectory, or at a fault in the step that follows a
trajectory.

A run is such a loop (`Processor.ends_runFor`), and a loop can end in one way
only, the one that the run finds (`Ends.runFor_eq`). Two loops of which the
second goes on where the first ended are one loop (`Ends.append`).
-/

/-- So many steps of running processors, each of them successful. -/
inductive Trajectory :
    Nat → Processor → Sink → List Event → Processor → Sink → Prop where
  | nil
      (processor : Processor)
      (sink : Sink) :
      Trajectory 0 processor sink [] processor sink
  | cons
      {count : Nat}
      {before after : Processor}
      {sink afterSink : Sink}
      {events : List Event}
      {status : Status}
      (running : before.status = .running)
      (succeeds : (before.step sink).result = .ok status)
      (rest :
        Trajectory count (before.step sink).processor (before.step sink).sink
          events after afterSink) :
      Trajectory (count + 1) before sink
        ((before.step sink).events ++ events) after afterSink

namespace Trajectory

variable
  {count later : Nat}
  {before middle after : Processor}
  {sink middleSink afterSink : Sink}
  {events more : List Event}

/-- A trajectory goes on where another one ends. -/
theorem append
    (first : Trajectory count before sink events middle middleSink)
    (second : Trajectory later middle middleSink more after afterSink) :
    Trajectory (count + later) before sink (events ++ more)
      after afterSink := by
  induction first with
  | nil => simpa using second
  | cons running succeeds _ inductionHypothesis =>
      rw [Nat.add_right_comm, List.append_assoc]
      exact .cons running succeeds (inductionHypothesis second)

end Trajectory

/-- A successful step of a running processor is counted. -/
theorem steps_of_step_ok
    {before : Processor}
    {sink : Sink}
    {status : Status}
    (running : before.status = .running)
    (succeeds : (before.step sink).result = .ok status) :
    (before.step sink).processor.steps = before.steps + 1 := by
  have stepped := before.stepped sink
  generalize before.step sink = transition at succeeds stepped ⊢
  cases stepped with
  | idle halted => simp [running] at halted
  | unfetched | undecoded | failed | refused => simp at succeeds
  | completed _ _ _ steps => exact steps

/-- The number of counted steps grows by the length of a trajectory. -/
theorem Trajectory.steps_eq
    {count : Nat}
    {before after : Processor}
    {sink afterSink : Sink}
    {events : List Event}
    (trajectory : Trajectory count before sink events after afterSink) :
    after.steps = before.steps + count := by
  induction trajectory with
  | nil => rfl
  | cons running succeeds _ inductionHypothesis =>
      rw [inductionHypothesis, steps_of_step_ok running succeeds]
      omega

/-- What a step preserves, a trajectory preserves. -/
theorem Trajectory.preserves
    {motive : Processor → Prop}
    (step :
      ∀ processor sink,
        motive processor → motive (processor.step sink).processor)
    {count : Nat}
    {before after : Processor}
    {sink afterSink : Sink}
    {events : List Event}
    (trajectory : Trajectory count before sink events after afterSink)
    (holds : motive before) :
    motive after := by
  induction trajectory with
  | nil => exact holds
  | cons _ _ _ inductionHypothesis =>
      exact inductionHypothesis (step _ _ holds)

/-- How a loop of at most `limit` steps ends. -/
inductive Ends
    (limit : Nat)
    (before : Processor)
    (sink : Sink) :
    Processor → Sink → List Event → Except Fault Nat → Prop where
  /-- At a halt, or when the limit is reached. -/
  | stopped
      {count : Nat}
      {after : Processor}
      {afterSink : Sink}
      {events : List Event}
      (trajectory : Trajectory count before sink events after afterSink)
      (within : count ≤ limit)
      (stops : after.status = .halted ∨ count = limit) :
      Ends limit before sink after afterSink events (.ok count)
  /-- At a fault in a step that the limit allows. -/
  | faulted
      {count : Nat}
      {reached : Processor}
      {reachedSink : Sink}
      {events : List Event}
      {fault : Fault}
      (trajectory : Trajectory count before sink events reached reachedSink)
      (within : count < limit)
      (running : reached.status = .running)
      (faults : (reached.step reachedSink).result = .error fault) :
      Ends limit before sink
        (reached.step reachedSink).processor
        (reached.step reachedSink).sink
        (events ++ (reached.step reachedSink).events)
        (.error fault)

namespace Run

/-- A run follows a trajectory as far as its limit allows. -/
theorem iterate_of_trajectory
    {count : Nat}
    {before after : Processor}
    {sink afterSink : Sink}
    {events : List Event}
    (trajectory : Trajectory count before sink events after afterSink)
    (earlier : Array Event)
    (done rest : Nat) :
    iterate (count + rest)
        {
          processor := before
          sink := sink
          events := earlier
          count := done
          fault? := none
        } =
      iterate rest
        {
          processor := after
          sink := afterSink
          events := earlier ++ events
          count := done + count
          fault? := none
        } := by
  induction trajectory generalizing earlier done with
  | nil => simp
  | @cons count before after sink afterSink events status running succeeds _
      inductionHypothesis =>
      rw [Nat.add_right_comm, iterate_succ_of_running running]
      simp only [advance, succeeds]
      rw [inductionHypothesis]
      congr 2
      · apply Array.ext'
        simp
      · omega

/-- A run that has not begun. -/
theorem start_eq (processor : Processor) (sink : Sink) :
    start processor sink =
      {
        processor := processor
        sink := sink
        events := #[]
        count := 0
        fault? := none
      } :=
  rfl

end Run

namespace Ends

variable
  {limit : Nat}
  {before after : Processor}
  {sink afterSink : Sink}
  {events : List Event}
  {result : Except Fault Nat}

/-- The loop of a run ends in the way that `Ends` says, and in no other. -/
theorem iterate_eq
    (ends : Ends limit before sink after afterSink events result) :
    ((Run.start before sink).iterate limit).processor = after ∧
      ((Run.start before sink).iterate limit).sink = afterSink ∧
      ((Run.start before sink).iterate limit).events.toList = events ∧
      ((Run.start before sink).iterate limit).result = result := by
  cases ends with
  | @stopped count after afterSink events trajectory within stops =>
      obtain ⟨rest, rfl⟩ := Nat.exists_eq_add_of_le within
      rw [Run.start_eq, Run.iterate_of_trajectory trajectory]
      have still :
          ∀ run : Run, run.processor = after → run.iterate rest = run := by
        rintro run rfl
        rcases stops with halted | reached
        · exact Run.iterate_of_halted halted rest
        · have none : rest = 0 := by omega
          subst none
          rfl
      rw [still _ rfl]
      simp [Run.result]
  | @faulted count reached reachedSink events fault trajectory within running
      faults =>
      obtain ⟨rest, rfl⟩ := Nat.exists_eq_add_of_le within
      rw [Nat.succ_eq_add_one, Nat.add_assoc, Nat.add_comm 1 rest]
      rw [Run.start_eq, Run.iterate_of_trajectory trajectory,
        Run.iterate_succ_of_running running, Run.iterate_of_halted]
      · simp [Run.advance, faults, Run.result]
      · simp [Run.advance, faults, processor_of_step_error faults]

/-- A successful step before a loop. -/
theorem cons
    {status : Status}
    {count : Except Fault Nat}
    (running : before.status = .running)
    (succeeds : (before.step sink).result = .ok status)
    (ends :
      Ends limit (before.step sink).processor (before.step sink).sink
        after afterSink events count) :
    Ends (limit + 1) before sink after afterSink
      ((before.step sink).events ++ events) (count.map (· + 1)) := by
  cases ends with
  | stopped trajectory within stops =>
      refine .stopped (.cons running succeeds trajectory)
        (Nat.succ_le_succ within) ?_
      simpa using stops
  | faulted trajectory within reachedRunning faults =>
      rw [← List.append_assoc]
      exact .faulted (.cons running succeeds trajectory)
        (Nat.succ_lt_succ within) reachedRunning faults

end Ends

/-- Every loop with a limit ends. -/
theorem exists_ends
    (limit : Nat)
    (before : Processor)
    (sink : Sink) :
    ∃ after afterSink events result,
      Ends limit before sink after afterSink events result := by
  induction limit generalizing before sink with
  | zero =>
      exact ⟨before, sink, [], .ok 0,
        .stopped (.nil before sink) (Nat.le_refl 0) (Or.inr rfl)⟩
  | succ limit inductionHypothesis =>
      cases status : before.status with
      | halted =>
          exact ⟨before, sink, [], .ok 0,
            .stopped (.nil before sink) (Nat.zero_le _) (Or.inl status)⟩
      | running =>
          cases stepped : (before.step sink).result with
          | error fault =>
              exact ⟨_, _, _, _,
                .faulted (.nil before sink) (Nat.succ_pos limit)
                  status stepped⟩
          | ok next =>
              obtain ⟨after, afterSink, events, result, ends⟩ :=
                inductionHypothesis (before.step sink).processor
                  (before.step sink).sink
              exact ⟨_, _, _, _, ends.cons status stepped⟩

/-- A halted processor takes no part in a trajectory of any length. -/
theorem Trajectory.of_halted
    {count : Nat}
    {before after : Processor}
    {sink afterSink : Sink}
    {events : List Event}
    (trajectory : Trajectory count before sink events after afterSink)
    (halted : before.status = .halted) :
    count = 0 ∧ after = before ∧ afterSink = sink ∧ events = [] := by
  cases trajectory with
  | nil => exact ⟨rfl, rfl, rfl, rfl⟩
  | cons running => simp [halted] at running

namespace Ends

variable
  {limit earlier later : Nat}
  {before middle after : Processor}
  {sink middleSink afterSink : Sink}
  {events more : List Event}
  {result other : Except Fault Nat}

/-- What a step preserves, a loop preserves, also one that ends at a fault. -/
theorem preserves
    {motive : Processor → Prop}
    (step :
      ∀ processor sink,
        motive processor → motive (processor.step sink).processor)
    (ends : Ends limit before sink after afterSink events result)
    (holds : motive before) :
    motive after := by
  cases ends with
  | stopped trajectory => exact trajectory.preserves step holds
  | faulted trajectory => exact step _ _ (trajectory.preserves step holds)

/-- A loop that finds its processor halted ends at once. -/
theorem of_halted
    (ends : Ends limit before sink after afterSink events result)
    (halted : before.status = .halted) :
    after = before ∧ afterSink = sink ∧ events = [] ∧ result = .ok 0 := by
  cases ends with
  | stopped trajectory =>
      obtain ⟨rfl, rfl, rfl, rfl⟩ := trajectory.of_halted halted
      exact ⟨rfl, rfl, rfl, rfl⟩
  | faulted trajectory _ running =>
      obtain ⟨-, rfl, -, -⟩ := trajectory.of_halted halted
      simp [halted] at running

/-- A loop that ends at a fault leaves its processor halted. -/
theorem halted_of_error
    {fault : Fault}
    (ends : Ends limit before sink after afterSink events (.error fault)) :
    after.status = .halted := by
  cases ends with
  | faulted _ _ _ faults =>
      exact congrArg Processor.status (processor_of_step_error faults)

/-- A loop without a fault ends at a halt or uses up its limit. -/
theorem halted_or_eq_limit
    {count : Nat}
    (ends : Ends limit before sink after afterSink events (.ok count)) :
    after.status = .halted ∨ count = limit := by
  cases ends with
  | stopped _ _ stops => exact stops

/-- Two loops, the second going on after the first, are one loop. -/
theorem append
    (first : Ends earlier before sink middle middleSink events result)
    (second : Ends later middle middleSink after afterSink more other) :
    Ends (earlier + later) before sink after afterSink (events ++ more)
      (do return (← result) + (← other)) := by
  cases first with
  | @stopped count _ _ _ trajectory within stops =>
      rcases stops with halted | atLimit
      · obtain ⟨rfl, rfl, rfl, rfl⟩ := second.of_halted halted
        rw [List.append_nil]
        exact .stopped trajectory (by omega) (Or.inl halted)
      · cases second with
        | @stopped rest _ _ _ continuation continues ends =>
            refine .stopped (trajectory.append continuation) (by omega) ?_
            rcases ends with halted | atRest
            · exact Or.inl halted
            · exact Or.inr (by omega)
        | faulted continuation continues running faults =>
            rw [← List.append_assoc]
            exact .faulted (trajectory.append continuation) (by omega)
              running faults
  | faulted trajectory within running faults =>
      have halted := congrArg Processor.status (processor_of_step_error faults)
      obtain ⟨rfl, rfl, rfl, rfl⟩ := second.of_halted halted
      rw [List.append_nil]
      exact .faulted trajectory (by omega) running faults

end Ends

namespace Run

@[simp] theorem processor_noteLimit (run : Run) (limit : Nat) :
    (run.noteLimit limit).processor = run.processor := by
  unfold noteLimit
  split <;> rfl

@[simp] theorem sink_noteLimit (run : Run) (limit : Nat) :
    (run.noteLimit limit).sink = run.sink := by
  unfold noteLimit
  split <;> rfl

@[simp] theorem result_noteLimit (run : Run) (limit : Nat) :
    (run.noteLimit limit).result = run.result := by
  unfold noteLimit
  split <;> rfl

/-- The record of a reached limit prints nothing. -/
@[simp] theorem printedText_noteLimit (run : Run) (limit : Nat) :
    printedText (run.noteLimit limit).events.toList =
      printedText run.events.toList := by
  unfold noteLimit
  split
  · rfl
  · rw [Array.toList_push, printedText_append]
    exact String.append_empty

end Run

/-- Whatever way the loop of a run ends is the way that the run ends. -/
theorem Ends.runFor_eq
    {limit : Nat}
    {before after : Processor}
    {sink afterSink : Sink}
    {events : List Event}
    {result : Except Fault Nat}
    (ends : Ends limit before.prepare sink after afterSink events result) :
    (before.runFor sink limit).processor = after ∧
      (before.runFor sink limit).sink = afterSink ∧
      printedText (before.runFor sink limit).events.toList =
        printedText events ∧
      (before.runFor sink limit).result = result := by
  obtain ⟨processorEq, sinkEq, eventsEq, resultEq⟩ := ends.iterate_eq
  simp only [Processor.runFor, Run.processor_noteLimit, Run.sink_noteLimit,
    Run.printedText_noteLimit, Run.result_noteLimit]
  exact ⟨processorEq, sinkEq, congrArg printedText eventsEq, resultEq⟩

/-- Preparing a processor does not count as a step. -/
theorem steps_prepare (processor : Processor) :
    processor.prepare.steps = processor.steps := by
  unfold Processor.prepare
  split <;> rfl

/-- A run is a loop that starts once the stack pointer is prepared. -/
theorem Processor.ends_runFor
    (before : Processor)
    (sink : Sink)
    (limit : Nat) :
    ∃ events,
      Ends limit before.prepare sink
          (before.runFor sink limit).processor
          (before.runFor sink limit).sink
          events
          (before.runFor sink limit).result ∧
        printedText (before.runFor sink limit).events.toList =
          printedText events := by
  obtain ⟨after, afterSink, events, result, ends⟩ :=
    exists_ends limit before.prepare sink
  obtain ⟨rfl, rfl, printedEq, rfl⟩ := ends.runFor_eq
  exact ⟨events, ends, printedEq⟩

/-- A run without a fault has come to a halt or to its limit. -/
theorem stops_of_runFor_ok
    {before : Processor}
    {sink : Sink}
    {limit count : Nat}
    (succeeds : (before.runFor sink limit).result = .ok count) :
    (before.runFor sink limit).processor.status = .halted ∨ count = limit := by
  obtain ⟨events, ends, -⟩ := before.ends_runFor sink limit
  rw [succeeds] at ends
  generalize (before.runFor sink limit).processor = final at ends ⊢
  generalize (before.runFor sink limit).sink = finalSink at ends
  cases ends with
  | stopped trajectory within stops => exact stops

/-- What a step preserves, a run preserves from its prepared processor on. -/
theorem Processor.runFor_preserves
    {motive : Processor → Prop}
    (step :
      ∀ processor sink,
        motive processor → motive (processor.step sink).processor)
    {before : Processor}
    (holds : motive before.prepare)
    (sink : Sink)
    (limit : Nat) :
    motive (before.runFor sink limit).processor := by
  obtain ⟨events, ends, -⟩ := before.ends_runFor sink limit
  exact ends.preserves step holds

end LS8
