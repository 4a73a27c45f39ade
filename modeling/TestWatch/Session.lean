import TestWatch.Line.Reading
import TestWatch.Line.Shown
import TestWatch.LineBuffer
import TestWatch.Session.Outcome

/-!
# Watching a run

A session reads a feed until the run completes, the time is over, a signal asks it to stop or a read
fails.  Time passes only while the session waits: for the poll interval after a read that brought
nothing, and for the grace period once the run has completed.  After the grace period the session
takes what the feed still has.  At the end the line that no newline has ended is read too.

`watch` is the loop up to the end, `drain` what follows a completed run, `Session.run` the whole.
-/

namespace TestWatch

open Text

/-- The times that a session keeps to. -/
structure Timing where
  /-- How long the run may take. -/
  timeout : TimeSpan
  /-- How long to wait after a read that brought nothing. -/
  pollInterval : TimeSpan
  /-- How long to wait after the run has completed. -/
  gracePeriod : TimeSpan
  deriving DecidableEq, Repr

/-- What a session knows. -/
structure Session where
  /-- The octets of the line that is not complete yet. -/
  lines : LineBuffer
  /-- The counts. -/
  tally : Tally
  /-- Where the run stands. -/
  progress : Progress
  /-- The echo. -/
  echo : Echo
  /-- What was noted. -/
  journal : Journal
  deriving DecidableEq, Repr

namespace Session

/-! ## Lines and octets -/

/-- A session that begins. -/
def start (timeout : TimeSpan) (sink : Sink) : Session :=
  ⟨.empty, .empty, .start timeout, ⟨sink, false⟩, []⟩

/-- Notes something. -/
def note (s : Session) (level : Level) (text : Text) : Session :=
  { s with journal := s.journal ++ [⟨level, .monitoring, text⟩] }

/-- Takes an event into account. -/
def takeEvent (s : Session) (event : Event) : Session :=
  let next := { s with tally := s.tally.apply event, progress := s.progress.observe event }
  match s.progress.fires? event with
  | some trigger => next.note .info ("detected ".toList ++ trigger.wording)
  | none => next

/-- Takes a line into account. -/
def takeLine (s : Session) (line : Text) : Session :=
  let event := Event.ofLine line
  (s.note .debug (quoted line ++ ": ".toList ++ event.shown)).takeEvent event

/-- Passes octets on to the echo. -/
def passOn (s : Session) (octets : Octets) : Session :=
  let result := s.echo.pass octets
  let next := { s with echo := result.1 }
  match result.2 with
  | some fault =>
    next.note .warn
      ("failed to echo device output, continuing without it: ".toList ++ fault.text)
  | none => next

/-- Takes octets in: they are echoed, and then the lines that they complete are taken into
account. -/
def receive (s : Session) (octets : Octets) : Session :=
  let echoed := s.passOn octets
  let pushed := echoed.lines.push octets
  pushed.1.foldl takeLine { echoed with lines := pushed.2 }

/-- Takes the line into account that no newline has ended, if there is one. -/
def flush (s : Session) : Session :=
  let flushed := s.lines.flush
  let next := { s with lines := flushed.2 }
  match flushed.1 with
  | some line => (next.note .debug "flushing unterminated line".toList).takeLine line
  | none => next

/-! ## The loop -/

/-- Why the loop was left. -/
inductive Stop where
  /-- The time was over. -/
  | deadline
  /-- The run completed. -/
  | completed
  /-- A read failed. -/
  | fault (fault : Fault)
  /-- A signal asked to stop. -/
  | signal (signal : StopSignal)
  deriving DecidableEq, Repr

/-- The state in which the loop was left. -/
structure Halt where
  /-- Why it was left. -/
  stop : Stop
  /-- When it was left, in nanoseconds from the start. -/
  now : Nat
  /-- The reads made so far. -/
  reads : Nat
  /-- What the session knows. -/
  session : Session
  /-- The steps of the feed that are left. -/
  rest : List FeedStep
  deriving DecidableEq, Repr

/-- What a session does as it leaves the loop: it looks at the clock and notes that the time is over,
or notes the signal; the other ends leave nothing to do. -/
def leave (timing : Timing) (now : Nat) (s : Session) : Stop → Session
  | .deadline =>
    let late := { s with progress := s.progress.checkClock ⟨now⟩ }
    late.note .warn ("no completion detected within ".toList ++ timing.timeout.written)
  | .signal signal => s.note .warn ("received ".toList ++ signal.wording ++ ", stopping".toList)
  | .completed | .fault _ => s

/-- When the feed is asked again after it had nothing; without any interval to wait that is not
before the time is over. -/
def nextPoll (timing : Timing) (now : Nat) : Nat :=
  if timing.pollInterval.isZero then timing.timeout.nanos else now + timing.pollInterval.nanos

/-- The loop.  Each round looks at the clock, makes a read, takes what it brought into account, and
then stops if the run has completed or a signal was raised, or waits if the read brought nothing. -/
def watch (timing : Timing) (now reads : Nat) (s : Session) (steps : List FeedStep) : Halt :=
  if timing.timeout.nanos ≤ now then
    ⟨.deadline, now, reads, s.leave timing now .deadline, steps⟩
  else
    match steps with
    | [] => watch timing (nextPoll timing now) (reads + 1) s []
    | step :: rest =>
      match step.read with
      | .fault fault => ⟨.fault fault, now, reads + 1, s.leave timing now (.fault fault), rest⟩
      | .data octets =>
        let s := if octets.isEmpty then s else s.receive octets
        if s.progress.phase = .completed then
          ⟨.completed, now, reads + 1, s.leave timing now .completed, rest⟩
        else
          match step.signal with
          | some signal =>
            ⟨.signal signal, now, reads + 1, s.leave timing now (.signal signal), rest⟩
          | none =>
            watch timing (if octets.isEmpty then now + timing.pollInterval.nanos else now)
              (reads + 1) s rest
termination_by (steps.length, timing.timeout.nanos - now)
decreasing_by
  · rename_i hover
    apply Prod.Lex.right
    unfold nextPoll
    split
    · omega
    · rename_i hzero
      have : timing.pollInterval.nanos ≠ 0 := by simpa [TimeSpan.isZero] using hzero
      omega
  · apply Prod.Lex.left
    simp

/-- What is left after a run that has completed. -/
structure Drained where
  /-- The fault that a read gave, if one did. -/
  fault : Option Fault
  /-- The reads made. -/
  reads : Nat
  /-- What the session knows. -/
  session : Session
  /-- The steps of the feed that are left. -/
  rest : List FeedStep
  deriving DecidableEq, Repr

/-- Takes in what the feed has, until a read brings nothing or fails. -/
def drain (reads : Nat) (s : Session) : List FeedStep → Drained
  | [] => ⟨none, reads + 1, s, []⟩
  | step :: rest =>
    match step.read with
    | .fault fault => ⟨some fault, reads + 1, s, rest⟩
    | .data octets =>
      if octets.isEmpty then ⟨none, reads + 1, s, rest⟩
      else drain (reads + 1) (s.receive octets) rest

/-! ## The whole session -/

/-- The outcome of what a session knows at its end. -/
def finish (s : Session) (interruption : Option Interruption) (elapsed reads : Nat)
    (rest : List FeedStep) : Outcome :=
  let s := s.flush
  { phase := s.progress.phase
    trigger := s.progress.trigger
    tally := s.tally
    interruption := interruption
    elapsed := ⟨elapsed⟩
    reads := reads
    remaining := rest
    echo := s.echo
    journal := s.journal }

/-- The outcome after the loop was left: a completed run has its grace period and is drained, and
every session is flushed. -/
def conclude (timing : Timing) (source : Text) (halt : Halt) : Outcome :=
  match halt.stop with
  | .completed =>
    let drained := drain halt.reads halt.session halt.rest
    drained.session.finish (drained.fault.map (.readFault source))
      (halt.now + timing.gracePeriod.nanos) drained.reads drained.rest
  | .deadline => halt.session.finish none halt.now halt.reads halt.rest
  | .fault fault =>
    halt.session.finish (some (.readFault source fault)) halt.now halt.reads halt.rest
  | .signal signal => halt.session.finish (some (.signal signal)) halt.now halt.reads halt.rest

/-- A session about to watch a feed. -/
def opening (timing : Timing) (sink : Sink) (feed : Feed) : Session :=
  (start timing.timeout sink).note .debug
    ("monitoring ".toList ++ feed.name ++ " (timeout: ".toList ++ timing.timeout.written
      ++ ")".toList)

/-- The state in which the loop over a feed is left. -/
def halt (timing : Timing) (sink : Sink) (feed : Feed) : Halt :=
  watch timing 0 0 (opening timing sink feed) feed.steps

/-- Watches a run from its beginning to its end. -/
def run (timing : Timing) (sink : Sink) (feed : Feed) : Outcome :=
  conclude timing feed.name (halt timing sink feed)

end Session

end TestWatch
