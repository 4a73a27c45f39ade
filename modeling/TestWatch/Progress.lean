import TestWatch.Line
import TestWatch.TimeSpan

/-!
# Progress of a run

Whether a run is still going on, has completed or has taken too long.  The first of the two ends
that is observed stays: once the run has ended, neither events nor the clock change anything.
-/

namespace TestWatch

/-- Where a run stands. -/
inductive Phase where
  /-- Nothing has ended the run yet. -/
  | running
  /-- A trigger was seen. -/
  | completed
  /-- The time was over before a trigger was seen. -/
  | timedOut
  deriving DecidableEq, Repr

/-- Whether no further change is possible. -/
def Phase.isTerminal : Phase → Bool
  | .running => false
  | .completed | .timedOut => true

/-- The name of a phase. -/
def Phase.name : Phase → Text
  | .running => "Running".toList
  | .completed => "Completed".toList
  | .timedOut => "TimedOut".toList

/-- A run under observation. -/
structure Progress where
  /-- The time that the run may take. -/
  timeout : TimeSpan
  /-- Where it stands. -/
  phase : Phase
  /-- What completed it, if anything. -/
  trigger : Option Trigger
  deriving DecidableEq, Repr

namespace Progress

/-- A run that begins. -/
def start (timeout : TimeSpan) : Progress := ⟨timeout, .running, none⟩

/-- The trigger that an event is for this run: none if the run has ended. -/
def fires? (p : Progress) (event : Event) : Option Trigger :=
  if p.phase.isTerminal then none else event.trigger?

/-- The run after an event. -/
def observe (p : Progress) (event : Event) : Progress :=
  match p.fires? event with
  | none => p
  | some trigger => { p with phase := .completed, trigger := some trigger }

/-- Whether the time is over for this run: never if the run has ended. -/
def expires (p : Progress) (elapsed : TimeSpan) : Bool :=
  !p.phase.isTerminal && p.timeout.nanos ≤ elapsed.nanos

/-- The run after a look at the clock. -/
def checkClock (p : Progress) (elapsed : TimeSpan) : Progress :=
  if p.expires elapsed then { p with phase := .timedOut } else p

theorem fires?_of_terminal {p : Progress} (h : p.phase.isTerminal = true) (event : Event) :
    p.fires? event = none :=
  if_pos h

theorem fires?_of_trigger?_eq_none {event : Event} (h : event.trigger? = none) (p : Progress) :
    p.fires? event = none := by
  rw [fires?, h, ite_self]

theorem observe_of_fires?_eq_none {p : Progress} {event : Event} (h : p.fires? event = none) :
    p.observe event = p := by
  rw [observe, h]

theorem observe_of_terminal {p : Progress} (h : p.phase.isTerminal = true) (event : Event) :
    p.observe event = p :=
  observe_of_fires?_eq_none (fires?_of_terminal h event)

theorem expires_of_terminal {p : Progress} (h : p.phase.isTerminal = true) (elapsed : TimeSpan) :
    p.expires elapsed = false := by
  rw [expires, h]
  rfl

theorem checkClock_of_expires_eq_false {p : Progress} {elapsed : TimeSpan}
    (h : p.expires elapsed = false) : p.checkClock elapsed = p := by
  rw [checkClock, h]
  rfl

end Progress

end TestWatch
