import TestWatch.Program
import TestWatch.Proofs.Session.Capture
import TestWatch.Proofs.Session.Duration

/-!
# Replaying a log

What the program makes of a log is decided by the octets of the log alone, however the reader and
the replay cut them: no read fails, no signal comes, and the clock stands still until the log has
been read up (`elapsed_run_quietSteps`).

The session passes the octets on to the output and the report follows them
(`conclude_of_kept`).  `watch_replay` says what the session comes to, what is printed and
with which status the program ends.
-/

namespace TestWatch

open Text

/-! ## The session -/

namespace Session

variable {timing : Timing} {pieces : List Octets} {i : Nat}

/-- A run over a feed without gaps completes before any time has passed. -/
theorem clockAt_quietSteps_of_completed {name : Text} (hpieces : [] ∉ pieces)
    (h : FirstStop timing ⟨name, quietSteps pieces⟩ i .completed) :
    clockAt timing ⟨name, quietSteps pieces⟩ i = 0 := by
  have hbrings := bringsNothing_of_completed h.here
  suffices hidle : Feed.idleReads ⟨name, quietSteps pieces⟩ i = 0 by
    rw [clockAt, hidle, Nat.mul_zero]
  by_contra hidle
  obtain ⟨j, hj, hread⟩ := Feed.exists_idle_of_idleReads (Nat.pos_of_ne_zero hidle)
  have hlength := Feed.length_le_of_bringsNothing name hpieces (i := j) (by rw [hread]; rfl)
  -- the read that completes the run comes after an empty one, where nothing is left
  rw [Feed.readAt_quietSteps, List.getD_eq_default _ _ (by omega)] at hbrings
  cases hbrings

/-- A session over such a feed takes the grace period if the run completes, and otherwise the polls
that the time allows. -/
theorem elapsed_run_quietSteps (hpoll : 0 < timing.pollInterval.nanos)
    (htimeout : 0 < timing.timeout.nanos) (sink : Sink) (hpieces : [] ∉ pieces) (name : Text) :
    (run timing sink ⟨name, quietSteps pieces⟩).elapsed
      = if (run timing sink ⟨name, quietSteps pieces⟩).phase = .completed then timing.gracePeriod
        else ⟨timing.pollInterval.nanos
          * (timing.timeout.nanos ⌈/⌉ timing.pollInterval.nanos)⟩ := by
  obtain ⟨i, stop, h⟩ := exists_firstStop hpoll ⟨name, quietSteps pieces⟩
  have hends := ends_of_firstStop hpoll sink h
  rcases stop_quietSteps htimeout hpieces h with rfl | ⟨rfl, -⟩
  · obtain ⟨hphase, helapsed, -⟩ := hends
    rw [clockAt_quietSteps_of_completed hpieces h, Nat.zero_add] at helapsed
    rw [if_pos hphase]
    exact congrArg TimeSpan.mk helapsed
  · obtain ⟨hphase, -, -, helapsed, -⟩ := hends
    rw [hphase, if_neg (by decide)]
    exact congrArg TimeSpan.mk helapsed

/-- The verdict is that the run has completed exactly if some line that a newline ended is a
summary, a bare verdict or a closing phrase. -/
theorem verdict_completed_iff (bytes : Octets) : (verdict bytes).1 = .completed
    ↔ ∃ line ∈ terminatedLines bytes, (Event.ofLine line).Completes := by
  rw [← isSome_findTrigger_iff, verdict]
  cases findTrigger (terminatedLines bytes) <;> simp

/-- What the verdict says of a run that has completed, and of one that has not. -/
theorem verdict_cases (bytes : Octets) :
    (∃ line trigger, IsFirstTrigger (terminatedLines bytes) line trigger
      ∧ verdict bytes = (.completed, some trigger))
    ∨ verdict bytes = (.timedOut, none) := by
  cases hfirst : findTrigger (terminatedLines bytes) with
  | none =>
    rw [verdict, hfirst]
    exact .inr rfl
  | some trigger =>
    obtain ⟨line, hline⟩ := findTrigger_eq_some_iff.1 hfirst
    rw [verdict, hfirst]
    exact .inl ⟨line, trigger, hline, rfl⟩

/-- A session over a log whose reader neither fails nor pauses: it reads the log up, is not cut
short, gives the verdict on it, and takes as long as that verdict needs. -/
theorem run_log (hpoll : 0 < timing.pollInterval.nanos) (htimeout : 0 < timing.timeout.nanos)
    (sink : Sink) {captured : List Octets} (hcaptured : [] ∉ captured) (name : Text) (chunk : Nat) :
    let feed := ((Replay.start name (.items (captured.map .data))).withChunk chunk).feed
    let o := run timing sink feed
    feed.octets o.reads = captured.flatten ∧ o.interruption = none
      ∧ (o.phase, o.trigger) = verdict captured.flatten
      ∧ o.elapsed = if o.phase = .completed then timing.gracePeriod
        else ⟨timing.pollInterval.nanos
          * (timing.timeout.nanos ⌈/⌉ timing.pollInterval.nanos)⟩ := by
  obtain ⟨pieces, hpieces, hflatten, hfeed⟩ := Replay.exists_feed_eq name chunk hcaptured
  obtain ⟨hoctets, hnone, hverdict⟩ := run_quietSteps hpoll htimeout sink hpieces name
  have helapsed := elapsed_run_quietSteps hpoll htimeout sink hpieces name
  rw [hflatten] at hoctets hverdict
  rw [hfeed]
  exact ⟨hoctets, hnone, hverdict, helapsed⟩

/-- Such a session has completed by the first trigger and taken the grace period, or it has timed out
without a trigger. -/
theorem ends_log (hpoll : 0 < timing.pollInterval.nanos) (htimeout : 0 < timing.timeout.nanos)
    (sink : Sink) {captured : List Octets} (hcaptured : [] ∉ captured) (name : Text) (chunk : Nat) :
    let o := run timing sink ((Replay.start name (.items (captured.map .data))).withChunk chunk).feed
    (o.phase = .completed ∧ o.elapsed = timing.gracePeriod
      ∧ ∃ line trigger, IsFirstTrigger (terminatedLines captured.flatten) line trigger
        ∧ o.trigger = some trigger)
    ∨ (o.phase = .timedOut ∧ o.trigger = none ∧ o.elapsed.nanos
      = timing.pollInterval.nanos * (timing.timeout.nanos ⌈/⌉ timing.pollInterval.nanos)) := by
  intro o
  obtain ⟨-, -, hverdict, helapsed⟩ := run_log hpoll htimeout sink hcaptured name chunk
  rcases verdict_cases captured.flatten with ⟨line, trigger, hfirst, hv⟩ | hv
  · obtain ⟨hphase, htrigger⟩ := Prod.mk.inj (hverdict.trans hv)
    exact .inl ⟨hphase, helapsed.trans (if_pos hphase), line, trigger, hfirst, htrigger⟩
  · obtain ⟨hphase, htrigger⟩ := Prod.mk.inj (hverdict.trans hv)
    have hother : o.phase ≠ .completed := by
      rw [hphase]
      decide
    exact .inr ⟨hphase, htrigger, congrArg TimeSpan.nanos (helapsed.trans (if_neg hother))⟩

/-- A sink that refuses nothing refuses nothing at the end either. -/
theorem refusal_run (hpoll : 0 < timing.pollInterval.nanos) (sink : Sink)
    (hsink : sink.refusal = none) (feed : Feed) :
    (run timing sink feed).echo.sink.refusal = none := by
  obtain ⟨s, now, stop, interruption, elapsed, reads, hknows, hrun⟩ :=
    exists_finish_run hpoll sink feed
  rw [hrun]
  show (s.leave timing now stop).flush.echo.sink.refusal = none
  rw [flush_echo, leave_echo]
  exact (hknows.kept hsink).2

end Session

/-! ## The output -/

/-- A sink that refuses nothing takes what is put into it. -/
theorem Sink.put_of_kept {sink : Sink} (h : sink.refusal = none) (octets : Octets) :
    (sink.put octets).1.taken = sink.taken ++ octets ∧ (sink.put octets).2 = none := by
  simp [put, faultAt, h]

namespace Program

/-- With an output that refuses nothing the report is printed as a whole, and the status is that of
the session. -/
theorem conclude_of_kept (color : Bool) {o : Outcome} (h : o.echo.sink.refusal = none) :
    conclude color o = ⟨exitStatus o.isSuccess,
      [.report (reportOctets color o), .note (verdict color o)]⟩ := by
  obtain ⟨htaken, hprinted⟩ := Sink.put_of_kept h (reportOctets color o)
  unfold conclude
  dsimp only
  rw [hprinted, htaken, List.drop_left]

/-- Watching a feed with such an output prints what was read, and then the report. -/
theorem output_watch_of_kept {world : Surroundings} (hworld : world.refusal = none) (color : Bool)
    {timing : Timing} (hpoll : 0 < timing.pollInterval.nanos) (feed : Feed) :
    (watch world color timing feed).deeds.flatMap Deed.output
      = feed.octets (Session.run timing (.fresh world.refusal) feed).reads
        ++ reportOctets color (Session.run timing (.fresh world.refusal) feed) := by
  have htaken := Session.taken_run hpoll (.fresh world.refusal) feed
    (Session.kept_run hpoll hworld feed)
  have hkept := Session.refusal_run hpoll (.fresh world.refusal) hworld feed
  rw [watch, conclude_of_kept color hkept]
  show [] ++ ((Session.run timing (.fresh world.refusal) feed).echo.sink.taken
    ++ (reportOctets color (Session.run timing (.fresh world.refusal) feed) ++ ([] ++ []))) = _
  rw [htaken]
  simp [Sink.fresh]

/-- Watching a feed with such an output ends with zero exactly if the session is a success. -/
theorem status_watch_of_kept {world : Surroundings} (hworld : world.refusal = none) (color : Bool)
    {timing : Timing} (hpoll : 0 < timing.pollInterval.nanos) (feed : Feed) :
    (watch world color timing feed).status = 0
      ↔ (Session.run timing (.fresh world.refusal) feed).isSuccess = true := by
  have hkept := Session.refusal_run hpoll (.fresh world.refusal) hworld feed
  rw [status_watch, status_conclude]
  exact and_iff_right (Sink.put_of_kept hkept _).2

/-- **The octets of a log decide what its replay comes to.**  The run has completed if some line that
a newline ended is a summary, a bare verdict or a closing phrase, and the first of these is the
trigger; otherwise the session times out, whatever the last line says.  The program prints the log and
the report, and ends with zero if the run has completed and some test ran and none failed, counted
over all lines. -/
theorem watch_replay {world : Surroundings} (hworld : world.refusal = none) (color : Bool)
    {timing : Timing} (htimeout : 0 < timing.timeout.nanos) (hpoll : 0 < timing.pollInterval.nanos)
    {captured : List Octets} (hcaptured : [] ∉ captured) (name : Text) (chunk : Nat) :
    let bytes := captured.flatten
    let tally := Tally.empty.applyAll (eventsOf (textLines bytes))
    let feed := ((Replay.start name (.items (captured.map .data))).withChunk chunk).feed
    let o := Session.run timing (.fresh world.refusal) feed
    let work := watch world color timing feed
    Deed.watch o ∈ work.deeds
      ∧ (o.phase = .completed
        ↔ ∃ line ∈ terminatedLines bytes, (Event.ofLine line).Completes)
      ∧ (o.phase = .completed → o.elapsed = timing.gracePeriod
        ∧ ∃ line trigger, IsFirstTrigger (terminatedLines bytes) line trigger
          ∧ o.trigger = some trigger)
      ∧ (o.phase ≠ .completed → o.phase = .timedOut ∧ o.trigger = none
        ∧ o.elapsed.nanos
          = timing.pollInterval.nanos * (timing.timeout.nanos ⌈/⌉ timing.pollInterval.nanos))
      ∧ o.tally = tally
      ∧ work.deeds.flatMap Deed.output
        = bytes ++ encode ('\n' :: Report.render color tally ++ ['\n'])
      ∧ (work.status = 0 ↔ o.phase = .completed ∧ 0 < tally.run ∧ tally.failed = 0) := by
  intro bytes tally feed o work
  obtain ⟨hread, hnone, hverdict, -⟩ :=
    Session.run_log hpoll htimeout (.fresh world.refusal) hcaptured name chunk
  have hends := Session.ends_log hpoll htimeout (.fresh world.refusal) hcaptured name chunk
  have hoctets : feed.octets o.reads = bytes := hread
  have hphase : o.phase = (Session.verdict bytes).1 := congrArg Prod.fst hverdict
  have htally : o.tally = tally := by
    rw [Session.lines_run hpoll, hoctets]
  have hreport : reportOctets color o = encode ('\n' :: Report.render color tally ++ ['\n']) := by
    rw [reportOctets, htally]
  refine ⟨?_, ?_, ?_, ?_, htally, ?_, ?_⟩
  · exact List.mem_cons_of_mem _ List.mem_cons_self
  · rw [hphase]
    exact Session.verdict_completed_iff bytes
  · intro hcompleted
    rcases hends with ⟨-, h⟩ | ⟨hlate, -⟩
    · exact h
    · cases hcompleted.symm.trans hlate
  · intro hother
    rcases hends with ⟨hcompleted, -⟩ | h
    · exact absurd hcompleted hother
    · exact h
  · rw [← hreport, ← hoctets]
    exact output_watch_of_kept hworld color hpoll feed
  · rw [status_watch_of_kept hworld color hpoll feed, Outcome.isSuccess_iff]
    show o.phase = .completed ∧ o.interruption = none ∧ 0 < o.tally.run ∧ o.tally.failed = 0 ↔ _
    rw [htally]
    exact and_congr_right fun _ => and_iff_right hnone

/-- A verdict in the middle of a log completes its replay, and a failure in the line that no newline
ended still counts: the program ends with one. -/
theorem watch_replay_late :
    let captured := [encode "t.c:1:a:PA".toList, encode "SS\nOK\nt.c:2:b:FAIL".toList]
    let feed := ((Replay.start "log".toList (.items (captured.map .data))).withChunk 3).feed
    (Session.run Session.brisk (.fresh none) feed).phase = .completed
      ∧ (Session.run Session.brisk (.fresh none) feed).elapsed = .ofMillis 500
      ∧ (Session.run Session.brisk (.fresh none) feed).tally.failed = 1
      ∧ (watch .secluded false Session.brisk feed).status ≠ 0 := by
  intro captured feed
  have hworld : Surroundings.secluded.refusal = none := rfl
  have htimeout : 0 < Session.brisk.timeout.nanos := by decide
  have hpoll : 0 < Session.brisk.pollInterval.nanos := by decide
  have hcaptured : [] ∉ captured := by decide
  obtain ⟨-, hcompleted, htaken, -, htally, -, hstatus⟩ :=
    watch_replay hworld false htimeout hpoll hcaptured "log".toList 3
  have hverdict : (Event.ofLine "OK".toList).Completes := .inr (.inl ⟨.ok, by decide +kernel⟩)
  have hphase := hcompleted.2 ⟨"OK".toList, by decide +kernel, hverdict⟩
  have hfailed : (Tally.empty.applyAll (eventsOf (textLines captured.flatten))).failed = 1 := by
    decide +kernel
  refine ⟨hphase, (htaken hphase).1, (congrArg Tally.failed htally).trans hfailed, ?_⟩
  rw [Ne, hstatus, hfailed]
  rintro ⟨-, -, hzero⟩
  cases hzero

end Program

end TestWatch
