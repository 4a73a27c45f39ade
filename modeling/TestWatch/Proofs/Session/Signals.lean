import TestWatch.Program
import TestWatch.Proofs.Session.Capture

/-!
# Signals

A signal is looked at when the lines of its read are taken into account and have not completed the
run.  So a signal that is raised in the loop fails the session, unless it comes with the read that
completes the run; from that read on signals are not looked at any more, and the session is the one
that it would be without them (`signal_run`).

`Feed.AgreeUntil` relates two feeds that differ only in their signals from some read on;
`run_of_agreeUntil` says that they lead to the same session if the run completes with that read.
-/

namespace TestWatch

open Text

/-! ## Feeds that differ in their later signals -/

/-- Two feeds have the same reads, and the same signals before the `n`-th of them. -/
structure Feed.AgreeUntil (feed feed' : Feed) (n : Nat) : Prop where
  /-- They have the same name. -/
  name : feed'.name = feed.name
  /-- They have the same reads. -/
  reads : ∀ i, feed'.readAt i = feed.readAt i
  /-- They have the same signals before that read. -/
  signals : ∀ i < n, (feed'.stepAt i).signal = (feed.stepAt i).signal

namespace Feed.AgreeUntil

variable {feed feed' : Feed} {n : Nat}

theorem octets (h : feed.AgreeUntil feed' n) (k : Nat) : feed'.octets k = feed.octets k := by
  induction k with
  | zero => rfl
  | succ k ih => rw [octets_succ, octets_succ, ih, h.reads]

theorem pieces (h : feed.AgreeUntil feed' n) (k : Nat) : feed'.pieces k = feed.pieces k := by
  induction k with
  | zero => rfl
  | succ k ih => rw [pieces_succ, pieces_succ, ih, h.reads]

theorem idleReads (h : feed.AgreeUntil feed' n) (k : Nat) :
    feed'.idleReads k = feed.idleReads k := by
  simp only [Feed.idleReads, h.reads]

end Feed.AgreeUntil

namespace Session

variable {timing : Timing} {sink : Sink} {feed feed' : Feed} {i j : Nat} {stop : Stop}

/-! ## The loop up to the read that completes the run -/

theorem clockAt_of_agreeUntil (h : feed.AgreeUntil feed' i) (k : Nat) :
    clockAt timing feed' k = clockAt timing feed k := by
  rw [clockAt, clockAt, h.idleReads]

theorem afterReads_of_agreeUntil (h : feed.AgreeUntil feed' i) (k : Nat) :
    afterReads timing sink feed' k = afterReads timing sink feed k := by
  rw [afterReads, afterReads, h.pieces, opening, opening, h.name]

/-- A round before the signals differ is left for the same reason. -/
theorem stopAt_of_agreeUntil (h : feed.AgreeUntil feed' i) (hj : j < i) :
    stopAt timing feed' j = stopAt timing feed j := by
  simp only [stopAt, clockAt_of_agreeUntil h, h.reads, h.octets, h.signals j hj]

/-- Whether a round completes the run has nothing to do with signals. -/
theorem stopAt_completed_of_agreeUntil (h : feed.AgreeUntil feed' i)
    (hstop : stopAt timing feed j = some .completed) :
    stopAt timing feed' j = some .completed := by
  obtain ⟨htime, octets, hread, htrigger⟩ := applies_of_stopAt hstop
  have hread' : feed'.readAt j = .data octets := (h.reads j).trans hread
  have htime' : ¬timing.timeout.nanos ≤ clockAt timing feed' j := by
    rw [clockAt_of_agreeUntil h]
    exact Nat.not_le.2 htime
  have htrigger' : (findTrigger (completedLines (feed'.octets j) octets)).isSome = true := by
    rw [h.octets]
    exact htrigger
  rw [stopAt, if_neg htime', hread']
  exact if_pos htrigger'

theorem FirstStop.of_agreeUntil (h : feed.AgreeUntil feed' i)
    (hstop : FirstStop timing feed i .completed) : FirstStop timing feed' i .completed where
  here := stopAt_completed_of_agreeUntil h hstop.here
  before j hj := (stopAt_of_agreeUntil h hj).trans (hstop.before j hj)

theorem DrainEnd.of_agreeUntil {k m : Nat} (h : feed.AgreeUntil feed' i)
    (hdrain : DrainEnd feed k m) : DrainEnd feed' k m where
  le := hdrain.le
  last := by
    rw [h.reads]
    exact hdrain.last
  before j hkj hjm := by
    rw [h.reads]
    exact hdrain.before j hkj hjm

/-- Signals from the read on that completes the run are not noticed. -/
theorem run_of_agreeUntil (hpoll : 0 < timing.pollInterval.nanos) (sink : Sink)
    (hstop : FirstStop timing feed i .completed) (h : feed.AgreeUntil feed' i) :
    run timing sink feed' = { run timing sink feed with
      remaining := feed'.steps.drop (run timing sink feed).reads } := by
  obtain ⟨m, hdrain⟩ := exists_drainEnd feed (i + 1)
  have hrun := run_of_completed sink hpoll hstop hdrain
  have hrun' := run_of_completed sink hpoll (hstop.of_agreeUntil h) (hdrain.of_agreeUntil h)
  rw [hrun', hrun, afterReads_of_agreeUntil h, clockAt_of_agreeUntil h, h.reads, h.name]
  rfl

/-! ## Signals in the reads of a session -/

/-- Before the loop is left no signal is raised. -/
theorem le_of_signal (h : FirstStop timing feed i stop) {request : StopSignal}
    (hsignal : (feed.stepAt j).signal = some request) : i ≤ j := by
  by_contra hj
  obtain ⟨-, hnone, -⟩ := stopAt_eq_none (h.before j (Nat.lt_of_not_le hj))
  rw [hnone] at hsignal
  cases hsignal

/-- A session that was cut short is no success. -/
theorem isSuccess_of_interruption {o : Outcome} (h : o.interruption ≠ none) :
    o.isSuccess = false := by
  have hcut : o.interruption.isNone = false := by
    rw [Option.isNone_eq_false_iff, Option.isSome_iff_ne_none]
    exact h
  rw [Outcome.isSuccess, hcut, Bool.and_false, Bool.false_and]

/-- With a signal in one of its reads a session that is left otherwise than by completion is no
success. -/
theorem isSuccess_of_signal (hpoll : 0 < timing.pollInterval.nanos) (sink : Sink)
    (h : FirstStop timing feed i stop) (hstop : stop ≠ .completed)
    (hj : j < (run timing sink feed).reads) {request : StopSignal}
    (hsignal : (feed.stepAt j).signal = some request) :
    (run timing sink feed).isSuccess = false := by
  have hij := le_of_signal h hsignal
  rw [run_of_cut sink hpoll h hstop] at hj ⊢
  refine isSuccess_of_interruption ?_
  cases stop with
  | completed => exact absurd rfl hstop
  | deadline =>
    -- the clock ends the loop before the read of its round is made
    have hji : j < i := hj
    omega
  | fault fault => exact Option.some_ne_none _
  | signal signal => exact Option.some_ne_none _

/-- **When a signal fails the run.**  A signal in one of the reads that a session makes leaves no
success and ends the program with one, as long as the run has not completed in the loop.  If it has,
then by the read of the signal or earlier, and no signal from that read on is noticed: any feed that
has the same reads and the same signals before leads to the same session. -/
theorem signal_run (hpoll : 0 < timing.pollInterval.nanos) (world : Surroundings) (color : Bool)
    (feed : Feed) {j : Nat} (hj : j < (run timing (.fresh world.refusal) feed).reads)
    {request : StopSignal} (hsignal : (feed.stepAt j).signal = some request) :
    let left := halt timing (.fresh world.refusal) feed
    let o := run timing (.fresh world.refusal) feed
    (left.stop ≠ .completed →
        o.isSuccess = false ∧ (Program.watch world color timing feed).status = 1)
      ∧ (left.stop = .completed → left.reads ≤ j + 1
        ∧ ∀ feed', feed.AgreeUntil feed' (left.reads - 1) →
          run timing (.fresh world.refusal) feed'
            = { o with remaining := feed'.steps.drop o.reads }) := by
  intro left o
  obtain ⟨i, stop, h⟩ := exists_firstStop hpoll feed
  have hleft : left = haltAt timing (.fresh world.refusal) feed i stop :=
    halt_of_firstStop _ hpoll h
  rw [hleft]
  constructor
  · intro hstop
    have hfailed : o.isSuccess = false := isSuccess_of_signal hpoll _ h hstop hj hsignal
    refine ⟨hfailed, ?_⟩
    rw [Program.status_watch]
    exact Program.status_conclude_of_failure color hfailed
  · intro hstop
    have hcompleted : stop = .completed := hstop
    subst hcompleted
    have hij := le_of_signal h hsignal
    exact ⟨Nat.succ_le_succ hij, fun feed' hagree => run_of_agreeUntil hpoll _ h hagree⟩

/-- A signal before the verdict has its newline fails the run, though it looks completed. -/
theorem signal_run_severed : 1 < (run brisk (.fresh none) severed).reads
    ∧ (severed.stepAt 1).signal = some .interrupt
    ∧ (run brisk (.fresh none) severed).isSuccess = false
    ∧ (Program.watch .secluded false brisk severed).status = 1 := by
  have hpoll : 0 < brisk.pollInterval.nanos := by decide
  have hrun := run_of_cut (.fresh none) hpoll firstStop_severed (by simp)
  have hmade : 1 < (run brisk (.fresh none) severed).reads := by
    rw [hrun]
    decide +kernel
  have hleft : (halt brisk (.fresh none) severed).stop ≠ .completed := by
    rw [halt_of_firstStop _ hpoll firstStop_severed]
    simp [haltAt]
  exact ⟨hmade, rfl, (signal_run hpoll .secluded false severed hmade rfl).1 hleft⟩

/-- A feed on which a signal comes while the run that has completed is drained. -/
def belated : Feed :=
  ⟨"wire".toList, [(Read.data (encode "t.c:1:a:PASS\nOK\n".toList)).quietly,
    ⟨.data (encode "more\n".toList), some .interrupt⟩]⟩

theorem firstStop_belated : FirstStop brisk belated 0 .completed :=
  ⟨by decide +kernel, fun _ hj => absurd hj (Nat.not_lt_zero _)⟩

theorem drainEnd_belated : DrainEnd belated 1 2 where
  le := by decide
  last := by decide
  before j hj hlt := by
    obtain rfl : j = 1 := by omega
    decide +kernel

/-- Not every signal in a read of a session fails the run: the one on this feed is raised in the
second of three reads, and the session is a success. -/
theorem not_failure_of_signal :
    ¬∀ (timing : Timing) (world : Surroundings) (color : Bool) (feed : Feed) (j : Nat)
      (request : StopSignal), 0 < timing.pollInterval.nanos →
      j < (run timing (.fresh world.refusal) feed).reads →
      (feed.stepAt j).signal = some request →
      (run timing (.fresh world.refusal) feed).isSuccess = false
        ∧ (Program.watch world color timing feed).status = 1 := by
  intro hclaim
  have hpoll : 0 < brisk.pollInterval.nanos := by decide
  have hrun := run_of_completed (.fresh none) hpoll firstStop_belated drainEnd_belated
  have hmade : 1 < (run brisk (.fresh none) belated).reads := by
    rw [hrun]
    decide
  have hsuccess : (run brisk (.fresh none) belated).isSuccess = true := by
    rw [hrun]
    decide +kernel
  obtain ⟨hfailed, -⟩ := hclaim brisk .secluded false belated 1 .interrupt hpoll hmade rfl
  cases hsuccess.symm.trans hfailed

end Session

end TestWatch
