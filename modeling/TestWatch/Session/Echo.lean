import TestWatch.Feed

/-!
# The echo

What a session reads is passed on to a sink before it is looked at.  A sink may fail, at a write or
at the flush that follows it; the session then goes on without it.
-/

namespace TestWatch

/-- What can fail of a sink. -/
inductive SinkStage where
  /-- Writing. -/
  | write
  /-- Flushing. -/
  | flush
  deriving DecidableEq, Repr

/-- When a sink begins to fail, and how. -/
structure Refusal where
  /-- What fails. -/
  stage : SinkStage
  /-- The number of writes before that go through. -/
  after : Nat
  /-- The fault.  A write that was only interrupted is tried again and has not failed. -/
  fault : Fault
  deriving DecidableEq, Repr

/-- A sink for octets. -/
structure Sink where
  /-- The octets that it took. -/
  taken : Octets
  /-- The number of writes that went through. -/
  writes : Nat
  /-- What was asked of it, whether it went through or not. -/
  calls : List SinkStage
  /-- When it begins to fail, if ever. -/
  refusal : Option Refusal
  deriving DecidableEq, Repr

namespace Sink

/-- A sink that has taken nothing. -/
def fresh (refusal : Option Refusal) : Sink := ⟨[], 0, [], refusal⟩

/-- The fault that a stage gives now, if it fails. -/
def faultAt (sink : Sink) (stage : SinkStage) : Option Fault :=
  match sink.refusal with
  | none => none
  | some refusal =>
    if refusal.stage = stage ∧ refusal.after < sink.writes + (if stage = .write then 1 else 0) then
      some refusal.fault
    else none

/-- Writes some octets and flushes: the sink after it, and the fault if there was one. -/
def put (sink : Sink) (octets : Octets) : Sink × Option Fault :=
  match sink.faultAt .write with
  | some fault => ({ sink with calls := sink.calls ++ [.write] }, some fault)
  | none =>
    let written := { sink with
      taken := sink.taken ++ octets
      writes := sink.writes + 1
      calls := sink.calls ++ [.write, .flush] }
    (written, written.faultAt .flush)

end Sink

/-- The echo of a session: its sink, and whether the sink has been given up. -/
structure Echo where
  /-- The sink. -/
  sink : Sink
  /-- Whether it has failed. -/
  failed : Bool
  deriving DecidableEq, Repr

/-- Passes some octets on, unless the sink has been given up: the echo after it, and the fault if
one came up now. -/
def Echo.pass (echo : Echo) (octets : Octets) : Echo × Option Fault :=
  if echo.failed then (echo, none)
  else
    let result := echo.sink.put octets
    (⟨result.1, result.2.isSome⟩, result.2)

end TestWatch
