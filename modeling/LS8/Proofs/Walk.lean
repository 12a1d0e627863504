import Mathlib.Logic.Function.Iterate
import LS8.Proofs.Loop

namespace LS8

/-!
# Walks

A walk makes step after step, whatever comes of them, and keeps all that comes
out. It has a state after any number of steps, so that two walks can be
compared state by state; a step of a halted processor changes nothing.

A trajectory is the beginning of a walk (`Trajectory.walk_eq`).
-/

/-- A machine after one more step. -/
def Machine.next (machine : Machine) : Machine :=
  let transition := machine.processor.step machine.sink
  {
    processor := transition.processor
    sink := transition.sink
    events := machine.events ++ transition.events
  }

namespace Processor

/-- The machine that so many steps lead to. -/
def walk (before : Processor) (sink : Sink) (count : Nat) : Machine :=
  Machine.next^[count] (Machine.start before sink)

@[simp] theorem walk_zero (before : Processor) (sink : Sink) :
    before.walk sink 0 = Machine.start before sink :=
  rfl

theorem walk_succ (before : Processor) (sink : Sink) (count : Nat) :
    before.walk sink (count + 1) = (before.walk sink count).next :=
  Function.iterate_succ_apply' Machine.next count _

end Processor

/-- A trajectory adds what comes out of it to what came out before. -/
theorem Trajectory.iterate_next
    {count : Nat}
    {before after : Processor}
    {sink afterSink : Sink}
    {events : List Event}
    (trajectory : Trajectory count before sink events after afterSink)
    (earlier : List Event) :
    Machine.next^[count]
        { processor := before, sink := sink, events := earlier } =
      {
        processor := after
        sink := afterSink
        events := earlier ++ events
      } := by
  induction trajectory generalizing earlier with
  | nil => simp
  | cons running succeeds rest inductionHypothesis =>
      rw [Function.iterate_succ_apply, ← List.append_assoc]
      exact inductionHypothesis _

/-- A walk leads along every trajectory. -/
theorem Trajectory.walk_eq
    {count : Nat}
    {before after : Processor}
    {sink afterSink : Sink}
    {events : List Event}
    (trajectory : Trajectory count before sink events after afterSink) :
    before.walk sink count =
      { processor := after, sink := afterSink, events := events } :=
  trajectory.iterate_next []

end LS8
