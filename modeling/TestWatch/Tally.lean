import TestWatch.Line
import TestWatch.Text.Numeral

/-!
# Tallies

The counts of a test run and the records that were seen.  Results add to the counts; a summary
replaces them by the run's own count, which is authoritative, and leaves the records alone.

Counts are words of 64 bits, and after the largest word comes zero (`nextCount`).  The steps up to
`applyAllBy` have the way to count on as a parameter, so that the same steps can be taken without a
bound; `apply` and `applyAll` take them in words.
-/

namespace TestWatch

open Text

/-- The state of the count. -/
structure Tally where
  /-- The number of tests that ran. -/
  run : Nat
  /-- The number of tests that passed. -/
  passed : Nat
  /-- The number of tests that failed. -/
  failed : Nat
  /-- The records of passing tests, in the order of their lines. -/
  passedTests : List Record
  /-- The records of failing tests, in the order of their lines. -/
  failedTests : List Record
  deriving DecidableEq, Repr

namespace Tally

/-- Nothing counted yet. -/
def empty : Tally := ⟨0, 0, 0, [], []⟩

/-- Counts a test by a way to count on; a test without a record counts too. -/
def addResult (next : Nat → Nat) (t : Tally) (status : Status) (record : Option Record) : Tally :=
  match status with
  | .pass => { t with
      run := next t.run
      passed := next t.passed
      passedTests := t.passedTests ++ record.toList }
  | .fail => { t with
      run := next t.run
      failed := next t.failed
      failedTests := t.failedTests ++ record.toList }

/-- Takes the counts of a summary over; what did not fail passed. -/
def setSummary (t : Tally) (run failed : Nat) : Tally :=
  { t with run := run, failed := failed, passed := run - failed }

/-- The tally after an event, by a way to count on. -/
def applyBy (next : Nat → Nat) (t : Tally) : Event → Tally
  | .result status record => t.addResult next status record
  | .summary run failed => t.setSummary run failed
  | .malformedSummary | .verdict _ | .marker _ | .unclassified => t

/-- The tally after some events, in order, by a way to count on. -/
def applyAllBy (next : Nat → Nat) (t : Tally) (events : List Event) : Tally :=
  events.foldl (applyBy next) t

/-- The count after another one: counts are words, so that it wraps around. -/
def nextCount (n : Nat) : Nat := (n + 1) % word64

/-- The tally after an event. -/
def apply (t : Tally) (event : Event) : Tally := t.applyBy nextCount event

/-- The tally after some events, in order. -/
def applyAll (t : Tally) (events : List Event) : Tally := t.applyAllBy nextCount events

/-- A run is a success if some test ran and none failed. -/
def isSuccess (t : Tally) : Bool := 0 < t.run && t.failed == 0

theorem applyAllBy_append (next : Nat → Nat) (t : Tally) (a b : List Event) :
    t.applyAllBy next (a ++ b) = (t.applyAllBy next a).applyAllBy next b := List.foldl_append

theorem applyAll_append (t : Tally) (a b : List Event) :
    t.applyAll (a ++ b) = (t.applyAll a).applyAll b := applyAllBy_append nextCount t a b

end Tally

end TestWatch
