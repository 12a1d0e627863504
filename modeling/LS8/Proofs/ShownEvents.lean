import LS8.Event

namespace LS8

/-!
# What is seen at a verbosity

Verbosities are ordered, from silence to showing everything, and a lower one
shows less. What is seen at a lower verbosity is therefore a part of what is
seen at a higher one: the records above the lower verbosity are left out, and
nothing else is (`shownEvents_shownEvents`).
-/

namespace Verbosity

/-- The position of a verbosity; a greater one shows more. -/
def rank : Verbosity → Nat
  | .silent => 0
  | .upTo level => level.rank

theorem shows_eq_decide (verbosity : Verbosity) (level : Level) :
    verbosity.shows level = decide (level.rank ≤ verbosity.rank) := by
  cases verbosity with
  | silent => cases level <;> rfl
  | upTo limit => rfl

/-- A verbosity that hides a severity hides those that are less grave. -/
theorem hides_of_rank_le
    {verbosity : Verbosity}
    {graver level : Level}
    (hides : verbosity.shows graver = false)
    (order : graver.rank ≤ level.rank) :
    verbosity.shows level = false := by
  rw [shows_eq_decide, decide_eq_false_iff_not] at hides ⊢
  exact fun shown => hides (Nat.le_trans order shown)

/-- What a verbosity shows is shown at a higher one, too. -/
theorem isShown_of_rank_le
    {low high : Verbosity}
    (order : low.rank ≤ high.rank)
    {event : Event}
    (shown : event.isShown low = true) :
    event.isShown high = true := by
  cases event with
  | printed text => rfl
  | logged record =>
      simp only [Event.isShown, shows_eq_decide, decide_eq_true_eq] at shown ⊢
      exact Nat.le_trans shown order

end Verbosity

/-- What is seen at a lower verbosity is seen of what a higher one shows. -/
theorem shownEvents_shownEvents
    {low high : Verbosity}
    (order : low.rank ≤ high.rank)
    (events : List Event) :
    shownEvents low (shownEvents high events) = shownEvents low events := by
  simp only [shownEvents, List.filter_filter]
  apply List.filter_congr
  intro event _
  cases shown : event.isShown low with
  | false => rfl
  | true => exact Verbosity.isShown_of_rank_le order shown

/-- Printed text is seen as it is. -/
@[simp] theorem transcript_printed (verbosity : Verbosity) (text : String) :
    transcript verbosity [.printed text] = text := by
  have seen : shownEvents verbosity [.printed text] = [.printed text] := rfl
  simp [transcript, seen, Event.text]

/-- A record is seen as its line, if its severity is shown. -/
@[simp] theorem transcript_logged (verbosity : Verbosity) (record : Record) :
    transcript verbosity [.logged record] =
      if verbosity.shows record.level then record.line else "" := by
  cases shown : verbosity.shows record.level <;>
    simp [transcript, shownEvents, Event.isShown, shown, Event.text]

/-- Where all records are hidden, nothing is seen but the printed text. -/
theorem transcript_of_hidden
    {verbosity : Verbosity}
    {events : List Event}
    (hidden :
      ∀ record ∈ loggedRecords events,
        verbosity.shows record.level = false) :
    transcript verbosity events = printedText events := by
  induction events with
  | nil => rfl
  | cons event rest inductionHypothesis =>
      rw [← List.singleton_append, loggedRecords_append] at hidden
      rw [← List.singleton_append, transcript_append, printedText_append]
      congr 1
      · cases event with
        | printed text => simp
        | logged record =>
            have hides := hidden record (by simp [loggedRecords, Event.record?])
            simp [hides]
      · exact inductionHypothesis fun record logged =>
          hidden record (List.mem_append_right _ logged)

end LS8
