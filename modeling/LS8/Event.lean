import LS8.Record

namespace LS8

/-!
# Events

Printed text and log records come out of one machine in one order. A history
is the list of these events; the printed text alone, and the records alone,
are projections of it.
-/

/-- One thing that comes out of the simulator. -/
inductive Event where
  /-- Text that was accepted by the output. -/
  | printed (text : String)
  /-- A log record. -/
  | logged (record : Record)
  deriving Repr, DecidableEq

namespace Event

/-- The text that an event prints. -/
def printedText : Event → String
  | .printed text => text
  | .logged _ => ""

/-- The record that an event logs. -/
def record? : Event → Option Record
  | .printed _ => none
  | .logged record => some record

/-- Whether an event is seen at a verbosity; printed text always is. -/
def isShown (verbosity : Verbosity) : Event → Bool
  | .printed _ => true
  | .logged record => verbosity.shows record.level

/-- The text of an event where printed text and log share one output. -/
def text : Event → String
  | .printed text => text
  | .logged record => record.line

end Event

/-- Everything printed in a history, in order. -/
def printedText (events : List Event) : String :=
  String.join (events.map Event.printedText)

/-- The records of a history, in order. -/
def loggedRecords (events : List Event) : List Record :=
  events.filterMap Event.record?

/-- The events of a history that are seen at a verbosity, in order. -/
def shownEvents (verbosity : Verbosity) (events : List Event) : List Event :=
  events.filter (Event.isShown verbosity)

/-- What a history looks like where printed text and log share one output. -/
def transcript (verbosity : Verbosity) (events : List Event) : String :=
  String.join ((shownEvents verbosity events).map Event.text)

@[simp] theorem printedText_nil : printedText [] = "" :=
  rfl

@[simp] theorem printedText_printed (text : String) :
    printedText [.printed text] = text := by
  simp [printedText, Event.printedText]

@[simp] theorem printedText_logged (record : Record) :
    printedText [.logged record] = "" :=
  rfl

/-- What a longer history prints is what its parts print. -/
@[simp] theorem printedText_append (earlier later : List Event) :
    printedText (earlier ++ later) =
      printedText earlier ++ printedText later := by
  simp only [printedText, List.map_append, String.join_append]

/-- The records of a longer history are those of its parts. -/
@[simp] theorem loggedRecords_append (earlier later : List Event) :
    loggedRecords (earlier ++ later) =
      loggedRecords earlier ++ loggedRecords later := by
  simp only [loggedRecords, List.filterMap_append]

/-- What is seen of a longer history is what is seen of its parts. -/
@[simp] theorem shownEvents_append
    (verbosity : Verbosity)
    (earlier later : List Event) :
    shownEvents verbosity (earlier ++ later) =
      shownEvents verbosity earlier ++ shownEvents verbosity later := by
  simp only [shownEvents, List.filter_append]

/-- Printed text is seen at every verbosity. -/
@[simp] theorem printedText_shownEvents
    (verbosity : Verbosity)
    (events : List Event) :
    printedText (shownEvents verbosity events) = printedText events := by
  induction events with
  | nil => rfl
  | cons event rest inductionHypothesis =>
      rw [← List.singleton_append, shownEvents_append, printedText_append,
        printedText_append, inductionHypothesis]
      cases event with
      | printed text => rfl
      | logged record =>
          cases shown : verbosity.shows record.level <;>
            simp [shownEvents, Event.isShown, shown]

/-- A longer history looks like its parts, one after the other. -/
@[simp] theorem transcript_append
    (verbosity : Verbosity)
    (earlier later : List Event) :
    transcript verbosity (earlier ++ later) =
      transcript verbosity earlier ++ transcript verbosity later := by
  simp only [transcript, shownEvents_append, List.map_append, String.join_append]

end LS8
