import TestWatch.Feed
import TestWatch.Journal
import TestWatch.Progress
import TestWatch.Session.Echo
import TestWatch.Tally

/-!
# The outcome of a session

How a session ended, what it counted, and the exit status that follows.
-/

namespace TestWatch

open Text

/-- What cut a session short. -/
inductive Interruption where
  /-- A signal to stop. -/
  | signal (signal : StopSignal)
  /-- A read that failed. -/
  | readFault (source : Text) (fault : Fault)
  deriving DecidableEq, Repr

/-- The wording of a read that failed, without its cause. -/
def readFaultWording (source : Text) : Text := "error reading from ".toList ++ source

/-- How a session ended. -/
structure Outcome where
  /-- Where the run stands; it is still running if the session was cut short before. -/
  phase : Phase
  /-- What completed the run, if anything. -/
  trigger : Option Trigger
  /-- The counts. -/
  tally : Tally
  /-- What cut the session short, if anything. -/
  interruption : Option Interruption
  /-- How long the session took. -/
  elapsed : TimeSpan
  /-- The number of reads that were made. -/
  reads : Nat
  /-- The steps of the feed that were not reached. -/
  remaining : List FeedStep
  /-- What became of the echo. -/
  echo : Echo
  /-- What the session noted. -/
  journal : Journal
  deriving DecidableEq, Repr

namespace Outcome

/-- Whether a trigger was seen; this says nothing about the tests. -/
def isCompleted (o : Outcome) : Bool := o.phase == .completed

/-- A session is a success if the run completed without interruption, some test ran and none
failed. -/
def isSuccess (o : Outcome) : Bool :=
  o.isCompleted && o.interruption.isNone && o.tally.isSuccess

theorem isSuccess_iff (o : Outcome) : o.isSuccess = true
    ↔ o.phase = .completed ∧ o.interruption = none ∧ 0 < o.tally.run ∧ o.tally.failed = 0 := by
  simp [isSuccess, isCompleted, Tally.isSuccess, and_assoc]

end Outcome

/-- The exit status: zero for a success, one for everything else. -/
def exitStatus (success : Bool) : Nat := if success then 0 else 1

end TestWatch
