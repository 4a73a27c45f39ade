import TestWatch.Proofs.Session.Course

/-!
# What a session leaves behind

Whichever way a session ends, its tally is the one of all lines of the octets that its reads
brought: those that came in the loop, those after the trigger, those of the drain, and the line that
no newline ended (`tally_run`).  A sink that never fails has taken just these octets, and the steps
that are left are those that no read took.

Where the run stands at the end depends on the stop.  A session that completed in the loop keeps the
first trigger among the lines that a newline ended (`trigger_run_of_completed`); one that was stopped
otherwise has seen none there (`findTrigger_run_of_cut`), and after the deadline it has timed out for
good (`phase_run_of_deadline`).
-/

namespace TestWatch

open Text

/-- The octets of some reads are the first of the octets of more reads. -/
theorem Feed.octets_of_le (feed : Feed) {a b : Nat} (hab : a ≤ b) :
    ∃ rest, feed.octets b = feed.octets a ++ rest := by
  induction b, hab using Nat.le_induction with
  | base => exact ⟨[], (List.append_nil _).symm⟩
  | succ b hab ih =>
    obtain ⟨rest, hrest⟩ := ih
    refine ⟨rest ++ (feed.readAt b).octets, ?_⟩
    rw [feed.octets_succ, hrest, List.append_assoc]

namespace Session

variable {timing : Timing} {feed : Feed} {i : Nat} {stop : Stop}

/-! ## The tally and the echo -/

/-- However a session ends, it ends with a session that knows the octets of its reads. -/
theorem exists_finish_run (hpoll : 0 < timing.pollInterval.nanos) (sink : Sink) (feed : Feed) :
    ∃ (s : Session) (now : Nat) (stop : Stop) (interruption : Option Interruption)
      (elapsed reads : Nat), s.Knows timing.timeout sink (feed.octets reads) ∧ run timing sink feed
        = (s.leave timing now stop).finish interruption elapsed reads (feed.steps.drop reads) := by
  obtain ⟨i, stop, h⟩ := exists_firstStop hpoll feed
  obtain ⟨reads, elapsed, interruption, hrun⟩ := exists_run_eq hpoll h
  exact ⟨_, _, stop, _, _, reads, knows_afterReads timing sink feed reads, hrun sink⟩

/-- All lines of what was read are counted. -/
theorem lines_run (hpoll : 0 < timing.pollInterval.nanos) (sink : Sink) (feed : Feed) :
    (run timing sink feed).tally = Tally.empty.applyAll
      (eventsOf (textLines (feed.octets (run timing sink feed).reads))) := by
  obtain ⟨s, now, stop, interruption, elapsed, reads, hknows, hrun⟩ :=
    exists_finish_run hpoll sink feed
  rw [hrun]
  exact (hknows.account timing now stop).1

/-- What was read was echoed, unless the sink was given up. -/
theorem taken_run (hpoll : 0 < timing.pollInterval.nanos) (sink : Sink) (feed : Feed)
    (h : (run timing sink feed).echo.failed = false) : (run timing sink feed).echo.sink.taken
      = sink.taken ++ feed.octets (run timing sink feed).reads := by
  obtain ⟨s, now, stop, interruption, elapsed, reads, hknows, hrun⟩ :=
    exists_finish_run hpoll sink feed
  rw [hrun] at h ⊢
  exact (hknows.account timing now stop).2.1 h

/-- A sink that refuses nothing is not given up. -/
theorem kept_run (hpoll : 0 < timing.pollInterval.nanos) {sink : Sink} (hsink : sink.refusal = none)
    (feed : Feed) : (run timing sink feed).echo.failed = false := by
  obtain ⟨s, now, stop, interruption, elapsed, reads, hknows, hrun⟩ :=
    exists_finish_run hpoll sink feed
  rw [hrun]
  exact (hknows.account timing now stop).2.2 hsink

/-- The steps that no read took are left. -/
theorem remaining_run (hpoll : 0 < timing.pollInterval.nanos) (sink : Sink) (feed : Feed) :
    (run timing sink feed).remaining = feed.steps.drop (run timing sink feed).reads := by
  obtain ⟨s, now, stop, interruption, elapsed, reads, -, hrun⟩ := exists_finish_run hpoll sink feed
  rw [hrun]
  rfl

/-- **No line is lost, counted twice or out of order.**  The tally is the one of the lines of all
octets that the session read, however it ended; and unless its sink was given up, which one that
refuses nothing never is, these octets are what it echoed. -/
theorem tally_run (hpoll : 0 < timing.pollInterval.nanos) (sink : Sink) (feed : Feed) :
    (run timing sink feed).tally = Tally.empty.applyAll
        (eventsOf (textLines (feed.octets (run timing sink feed).reads)))
      ∧ ((run timing sink feed).echo.failed = false → (run timing sink feed).echo.sink.taken
        = sink.taken ++ feed.octets (run timing sink feed).reads)
      ∧ (sink.refusal = none → (run timing sink feed).echo.failed = false)
      ∧ (run timing sink feed).remaining = feed.steps.drop (run timing sink feed).reads :=
  ⟨lines_run hpoll sink feed, taken_run hpoll sink feed, fun hsink => kept_run hpoll hsink feed,
    remaining_run hpoll sink feed⟩

/-- The line that is told in the drain is counted, though the feed has not ended it yet. -/
theorem tally_run_straddling : (run brisk (.fresh none) straddling).tally
      = ⟨2, 1, 1, [⟨"a".toList, "t.c".toList, "1".toList, .pass, []⟩],
        [⟨"b".toList, "t.c".toList, "2".toList, .fail, "late".toList⟩]⟩
    ∧ (run brisk (.fresh none) straddling).echo.sink.taken
      = encode "t.c:1:a:PASS\r\nOK\nt.c:2:b:FAIL:late".toList
    ∧ (run brisk (.fresh none) straddling).remaining
      = [(Read.data (encode "\n".toList)).quietly] := by
  have hpoll : 0 < brisk.pollInterval.nanos := by decide
  obtain ⟨htally, htaken, hkept, hremaining⟩ := tally_run hpoll (.fresh none) straddling
  rw [reads_run_straddling] at htally htaken hremaining
  refine ⟨htally.trans ?_, (htaken (hkept rfl)).trans ?_, hremaining.trans ?_⟩
  all_goals decide +kernel

/-! ## The progress -/

/-- As the clock ends the loop, the run has timed out without a trigger. -/
theorem progress_haltAt_of_deadline (sink : Sink) (h : FirstStop timing feed i .deadline) :
    (haltAt timing sink feed i .deadline).session.progress = ⟨timing.timeout, .timedOut, none⟩ := by
  have hrun := (knows_afterReads timing sink feed i).progress
  rw [findTrigger_of_before h.before] at hrun
  show ((afterReads timing sink feed i).leave timing (clockAt timing feed i) .deadline).progress = _
  rw [leave_progress, if_pos rfl, hrun]
  exact Progress.checkClock_after_none (applies_of_stopAt h.here)

/-- A session that the clock has stopped has timed out, whatever the last line says. -/
theorem phase_run_of_deadline (hpoll : 0 < timing.pollInterval.nanos) (sink : Sink)
    (h : FirstStop timing feed i .deadline) :
    (run timing sink feed).phase = .timedOut ∧ (run timing sink feed).trigger = none := by
  have hlate := progress_haltAt_of_deadline sink h
  have hflush := progress_flush_of_terminal (s := (haltAt timing sink feed i .deadline).session)
    (by rw [hlate]; rfl)
  rw [hlate] at hflush
  rw [run_of_cut sink hpoll h (by simp)]
  exact ⟨congrArg Progress.phase hflush, congrArg Progress.trigger hflush⟩

/-- A session that was stopped before its run completed has seen no trigger among the lines that a
newline ended. -/
theorem findTrigger_run_of_cut (hpoll : 0 < timing.pollInterval.nanos) (sink : Sink)
    (h : FirstStop timing feed i stop) (hstop : stop ≠ .completed) :
    findTrigger (terminatedLines (feed.octets (run timing sink feed).reads)) = none := by
  have hbefore := findTrigger_of_before h.before
  have happlies := applies_of_stopAt h.here
  rw [run_of_cut sink hpoll h hstop]
  show findTrigger (terminatedLines (feed.octets (stop.readsBy i))) = none
  cases stop with
  | completed => exact absurd rfl hstop
  | deadline => exact hbefore
  | fault fault =>
    obtain ⟨-, hread⟩ := happlies
    rw [Stop.readsBy, feed.octets_succ, hread, Read.octets, List.append_nil, hbefore]
  | signal signal =>
    obtain ⟨-, ⟨octets, hread, htrigger⟩, -⟩ := happlies
    rw [Stop.readsBy, feed.octets_succ, hread, Read.octets, findTrigger_terminatedLines hbefore,
      htrigger]

/-- The first trigger among the lines of some reads is the first among those of more reads. -/
theorem isFirstTrigger_of_le {a b : Nat} (hab : a ≤ b) {line : Text} {trigger : Trigger}
    (h : IsFirstTrigger (terminatedLines (feed.octets a)) line trigger) :
    IsFirstTrigger (terminatedLines (feed.octets b)) line trigger := by
  obtain ⟨rest, hrest⟩ := feed.octets_of_le hab
  rw [hrest, terminatedLines_append]
  exact h.append _

theorem findTrigger_of_le {a b : Nat} (hab : a ≤ b) {trigger : Trigger}
    (h : findTrigger (terminatedLines (feed.octets a)) = some trigger) :
    findTrigger (terminatedLines (feed.octets b)) = some trigger := by
  obtain ⟨line, hline⟩ := findTrigger_eq_some_iff.1 h
  exact findTrigger_eq_some_iff.2 ⟨line, isFirstTrigger_of_le hab hline⟩

/-- The read that completes a run brings the first trigger. -/
theorem exists_trigger_of_completed (h : FirstStop timing feed i .completed) :
    ∃ trigger, findTrigger (terminatedLines (feed.octets (i + 1))) = some trigger := by
  obtain ⟨-, octets, hread, htrigger⟩ := applies_of_stopAt h.here
  rw [feed.octets_succ, hread, Read.octets,
    findTrigger_terminatedLines (findTrigger_of_before h.before)]
  exact Option.isSome_iff_exists.1 htrigger

/-- A run that completed in the loop keeps the trigger that completed it. -/
theorem trigger_run_of_completed (hpoll : 0 < timing.pollInterval.nanos) (sink : Sink)
    (h : FirstStop timing feed i .completed) {trigger : Trigger}
    (hfirst : findTrigger (terminatedLines (feed.octets (i + 1))) = some trigger) :
    i + 1 ≤ (run timing sink feed).reads
      ∧ (run timing sink feed).phase = .completed
      ∧ (run timing sink feed).trigger = some trigger := by
  obtain ⟨m, hdrain⟩ := exists_drainEnd feed (i + 1)
  have hle : i + 1 ≤ m + 1 := Nat.le_succ_of_le hdrain.le
  have hprogress := (knows_afterReads timing sink feed (m + 1)).progress
  rw [findTrigger_of_le hle hfirst] at hprogress
  have hflush := progress_flush_of_terminal (s := afterReads timing sink feed (m + 1))
    (by rw [hprogress]; rfl)
  rw [hprogress] at hflush
  rw [run_of_completed sink hpoll h hdrain]
  exact ⟨hle, congrArg Progress.phase hflush, congrArg Progress.trigger hflush⟩

end Session

end TestWatch
