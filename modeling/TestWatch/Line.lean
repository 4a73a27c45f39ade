import TestWatch.Text.Basic

/-!
# Lines of a test run

What a line of a Unity test run can be.  Unity prints a line per test,

    main/ring.c:31:push_keeps_order:PASS
    main/ring.c:47:pop_of_empty:FAIL:Expected 0 Was 7

then a summary and a verdict:

    2 Tests 1 Failures 0 Ignored
    FAIL

Firmware that ends otherwise is recognised by a closing phrase.
-/

namespace TestWatch

/-- The outcome of a single test. -/
inductive Status where
  /-- The test passed. -/
  | pass
  /-- The test failed. -/
  | fail
  deriving DecidableEq, Repr

/-- A status as Unity prints it. -/
def Status.word : Status → Text
  | .pass => "PASS".toList
  | .fail => "FAIL".toList

/-- The result of a single test. -/
structure Record where
  /-- The name of the test. -/
  name : Text
  /-- The file that the test stands in, without directories. -/
  file : Text
  /-- The number of the test's line, as printed. -/
  line : Text
  /-- The outcome. -/
  status : Status
  /-- The message of a failure, or nothing. -/
  message : Text
  deriving DecidableEq, Repr

/-- The bare verdict at the end of a run. -/
inductive Verdict where
  /-- Every test passed. -/
  | ok
  /-- Some test failed. -/
  | fail
  deriving DecidableEq, Repr

/-- A verdict as Unity prints it. -/
def Verdict.word : Verdict → Text
  | .ok => "OK".toList
  | .fail => "FAIL".toList

/-- The phrases that close the run of firmware that prints no Unity summary. -/
inductive Marker where
  /-- The run is complete. -/
  | runComplete
  /-- All tests passed. -/
  | allPassed
  /-- Some tests failed. -/
  | someFailed
  /-- The tests are over. -/
  | endOfTests
  deriving DecidableEq, Repr

/-- The phrase of a marker, in upper case. -/
def Marker.phrase : Marker → Text
  | .runComplete => "UNITY TEST RUN COMPLETE".toList
  | .allPassed => "ALL TESTS PASSED".toList
  | .someFailed => "SOME TESTS FAILED".toList
  | .endOfTests => "END OF TESTS".toList

/-- The markers in the order in which they are looked for. -/
def Marker.all : List Marker := [.runComplete, .allPassed, .someFailed, .endOfTests]

/-- No marker is left out. -/
theorem Marker.mem_all (m : Marker) : m ∈ Marker.all := by cases m <;> decide

/-- What a line says. -/
inductive Event where
  /-- A test ended; the record is there if the line has the fields for one. -/
  | result (status : Status) (record : Option Record)
  /-- The run's own count of the tests that ran and those that failed. -/
  | summary (run failed : Nat)
  /-- A summary without two numbers that can be read. -/
  | malformedSummary
  /-- A bare verdict. -/
  | verdict (verdict : Verdict)
  /-- A closing phrase. -/
  | marker (marker : Marker)
  /-- Anything else. -/
  | unclassified
  deriving DecidableEq, Repr

/-- Why a run counts as complete. -/
inductive Trigger where
  /-- A summary was seen. -/
  | summary
  /-- A bare verdict was seen. -/
  | verdict (verdict : Verdict)
  /-- A closing phrase was seen. -/
  | marker (marker : Marker)
  deriving DecidableEq, Repr

/-- The trigger that an event is, if it completes a run. -/
def Event.trigger? : Event → Option Trigger
  | .summary _ _ => some .summary
  | .verdict v => some (.verdict v)
  | .marker m => some (.marker m)
  | .result _ _ | .malformedSummary | .unclassified => none

/-- The wording of a trigger. -/
def Trigger.wording : Trigger → Text
  | .summary => "Unity test summary".toList
  | .verdict v => "Unity terminal marker `".toList ++ v.word ++ "`".toList
  | .marker m => "completion marker `".toList ++ m.phrase ++ "`".toList

end TestWatch
