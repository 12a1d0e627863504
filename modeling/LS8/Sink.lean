import LS8.Fault

namespace LS8

/-!
# Sinks

The receiver of printed text. A sink accepts so many more bytes, or any
number; once it is full it refuses, in a way of its own. A text that fits only
in part is accepted in part. Printed text is ASCII, so a character counts as
one byte.

A write is refused exactly if its text is longer than the room there is
(`refusal?_write_eq_none_iff`), and what is accepted of it is a beginning of
the text (`accepted_write`).
-/

/-- A receiver of printed text. -/
structure Sink where
  /-- How many more bytes are accepted; `none` if there is no limit. -/
  room : Option Nat
  /-- How a write fails once the sink is full. -/
  refusal : Refusal
  deriving Repr, DecidableEq

/-- What became of a text that was written to a sink. -/
structure Delivery where
  /-- The sink after the write. -/
  sink : Sink
  /-- The part of the text that the sink took. -/
  accepted : String
  /-- Why the rest was refused, if there was a rest. -/
  refusal? : Option Refusal
  deriving Repr, DecidableEq

namespace Sink

/-- A sink that accepts everything. -/
def unlimited : Sink :=
  { room := none, refusal := .sinkFull }

/-- A sink that accepts so many more bytes. -/
def limited (room : Nat) (refusal : Refusal) : Sink :=
  { room := some room, refusal := refusal }

/-- Write a text: the sink takes it, or as much of it as there is room for. -/
def write (sink : Sink) (text : String) : Delivery :=
  match sink.room with
  | none =>
      { sink := sink, accepted := text, refusal? := none }
  | some room =>
      if text.length ≤ room then
        {
          sink := { sink with room := some (room - text.length) }
          accepted := text
          refusal? := none
        }
      else
        {
          sink := { sink with room := some 0 }
          accepted := String.ofList (text.toList.take room)
          refusal? := some sink.refusal
        }

/-- A sink without limit accepts a text as a whole. -/
@[simp] theorem write_unlimited (text : String) :
    unlimited.write text =
      { sink := unlimited, accepted := text, refusal? := none } :=
  rfl

/-- Nothing is written without a change. -/
@[simp] theorem write_empty (sink : Sink) :
    sink.write "" = { sink := sink, accepted := "", refusal? := none } := by
  rcases sink with ⟨room, refusal⟩
  cases room with
  | none => rfl
  | some room => simp [write]

/-- A text for which there is room is accepted as a whole. -/
theorem write_of_length_le
    {text : String}
    {room : Nat}
    (fits : text.length ≤ room)
    (refusal : Refusal) :
    (limited room refusal).write text =
      {
        sink := limited (room - text.length) refusal
        accepted := text
        refusal? := none
      } := by
  simp [limited, write, fits]

/-- Of a text that is too long, as much is accepted as there is room for. -/
theorem write_of_lt_length
    {text : String}
    {room : Nat}
    (overflows : room < text.length)
    (refusal : Refusal) :
    (limited room refusal).write text =
      {
        sink := limited 0 refusal
        accepted := String.ofList (text.toList.take room)
        refusal? := some refusal
      } := by
  simp [limited, write, Nat.not_le.mpr overflows]

/-- A text that is not refused is accepted as a whole. -/
theorem accepted_of_refusal?_eq_none
    {sink : Sink}
    {text : String}
    (accepts : (sink.write text).refusal? = none) :
    (sink.write text).accepted = text := by
  rcases sink with ⟨room, refusal⟩
  cases room with
  | none => rfl
  | some room =>
      by_cases fits : text.length ≤ room
      · simp [write, fits]
      · simp [write, fits] at accepts

/-- What is taken of a text that is refused is a proper beginning of it. -/
theorem exists_rest_of_refused
    {sink : Sink}
    {text : String}
    {refusal : Refusal}
    (refused : (sink.write text).refusal? = some refusal) :
    ∃ rest, rest ≠ "" ∧ (sink.write text).accepted ++ rest = text := by
  rcases sink with ⟨room, reason⟩
  cases room with
  | none => simp [write] at refused
  | some room =>
      by_cases fits : text.length ≤ room
      · simp [write, fits] at refused
      · refine ⟨String.ofList (text.toList.drop room), ?_, ?_⟩
        · intro empty
          have none := congrArg String.toList empty
          simp only [String.toList_ofList, String.toList_empty,
            List.drop_eq_nil_iff, String.length_toList] at none
          exact fits none
        · simp [write, fits, ← String.ofList_append]

/-- A write succeeds exactly if there is no limit or room for the whole text. -/
theorem refusal?_write_eq_none_iff (sink : Sink) (text : String) :
    (sink.write text).refusal? = none ↔
      ∀ room, sink.room = some room → text.length ≤ room := by
  rcases sink with ⟨room, refusal⟩
  cases room with
  | none => simp [write]
  | some room =>
      by_cases fits : text.length ≤ room <;> simp [write, fits]

theorem refusal_eq_of_refused
    {sink : Sink}
    {text : String}
    {refusal : Refusal}
    (refused : (sink.write text).refusal? = some refusal) :
    refusal = sink.refusal := by
  rcases sink with ⟨room, reason⟩
  cases room with
  | none => simp [write] at refused
  | some room =>
      by_cases fits : text.length ≤ room
      · simp [write, fits] at refused
      · simpa [write, fits] using refused.symm

/-- What a sink does not take as a whole it refuses in its own way. -/
theorem refusal?_write_eq_some_iff
    {sink : Sink}
    {text : String}
    {refusal : Refusal} :
    (sink.write text).refusal? = some refusal ↔
      (sink.write text).accepted ≠ text ∧ refusal = sink.refusal := by
  constructor
  · intro refused
    obtain ⟨rest, nonempty, whole⟩ := exists_rest_of_refused refused
    refine ⟨?_, refusal_eq_of_refused refused⟩
    intro same
    rw [same] at whole
    exact nonempty ((String.append_right_inj text).mp (by simpa using whole))
  · rintro ⟨short, rfl⟩
    cases outcome : (sink.write text).refusal? with
    | none => exact (short (accepted_of_refusal?_eq_none outcome)).elim
    | some refusal => rw [refusal_eq_of_refused outcome]

/-- With a limit, as many characters are accepted as there is room for. -/
theorem accepted_write
    {sink : Sink}
    {room : Nat}
    (limited : sink.room = some room)
    (text : String) :
    (sink.write text).accepted.toList = text.toList.take room := by
  by_cases fits : text.length ≤ room
  · have whole : text.toList.take room = text.toList :=
      List.take_of_length_le
        (by rwa [String.length_toList])
    simp [write, limited, fits, whole]
  · simp [write, limited, fits]

/-- A write never changes the way in which a sink refuses. -/
@[simp] theorem refusal_write (sink : Sink) (text : String) :
    (sink.write text).sink.refusal = sink.refusal := by
  rcases sink with ⟨room, refusal⟩
  cases room with
  | none => rfl
  | some room =>
      by_cases fits : text.length ≤ room <;> simp [write, fits]

end Sink

end LS8
