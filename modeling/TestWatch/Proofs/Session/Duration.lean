import Mathlib.Algebra.Order.Floor.Div
import TestWatch.Proofs.Session.Ending

/-!
# How long a session takes

Time passes only between the rounds of the loop whose reads come back empty, and in the grace period.
So the number of empty reads bounds the rounds: each of them starts before the time is over
(`idleReads_le`), and the other reads are steps of the feed (`le_length_add_idleReads`).

`ends_run` puts this together: the loop is left at its first stop, when that is, what the outcome is
for each of the four stops, and that the reads of the whole session are bounded.
-/

namespace TestWatch

/-- Reads that bring something are not empty. -/
theorem Feed.idleReads_of_bringing (feed : Feed) {a b : Nat} (hab : a ≤ b)
    (h : ∀ j, a ≤ j → j < b → (feed.readAt j).bringsNothing = false) :
    feed.idleReads a = feed.idleReads b := by
  refine eq_of_steps hab fun j haj hjb => ?_
  have hread : feed.readAt j ≠ .data [] := by
    intro hidle
    have hj := h j haj hjb
    rw [hidle] at hj
    cases hj
  rw [feed.idleReads_succ, if_neg hread, Nat.add_zero]

namespace Session

variable {timing : Timing} {feed : Feed} {i : Nat} {stop : Stop}

theorem clockAt_lt_of_firstStop (h : FirstStop timing feed i stop) {j : Nat}
    (hj : j < i) : clockAt timing feed j < timing.timeout.nanos :=
  (stopAt_eq_none (h.before j hj)).1

/-- The read that completes a run brings octets. -/
theorem bringsNothing_of_completed (h : stopAt timing feed i = some .completed) :
    (feed.readAt i).bringsNothing = false := by
  obtain ⟨-, octets, hread, htrigger⟩ := applies_of_stopAt h
  rw [hread]
  cases octets with
  | cons b octets => rfl
  | nil =>
    rw [completedLines, List.append_nil, List.drop_length] at htrigger
    cases htrigger

/-- While the time is not over, there are at most as many empty reads as intervals begin in it. -/
theorem idleReads_le (hpoll : 0 < timing.pollInterval.nanos) {n : Nat}
    (h : ∀ j < n, clockAt timing feed j < timing.timeout.nanos) :
    feed.idleReads n ≤ timing.timeout.nanos ⌈/⌉ timing.pollInterval.nanos := by
  induction n with
  | zero => exact Nat.zero_le _
  | succ i ih =>
    have hle := ih fun j hj => h j (by omega)
    rw [feed.idleReads_succ]
    split
    · by_contra hover
      have hceil : timing.timeout.nanos ⌈/⌉ timing.pollInterval.nanos ≤ feed.idleReads i := by omega
      have hlate := (ceilDiv_le_iff_le_mul hpoll).1 hceil
      exact absurd (h i (Nat.lt_succ_self i)) (Nat.not_lt.2 hlate)
    · exact hle

/-- The clock runs out at the first multiple of the interval that is not before the timeout. -/
theorem clockAt_of_deadline (hpoll : 0 < timing.pollInterval.nanos)
    (h : FirstStop timing feed i .deadline) : clockAt timing feed i
      = timing.pollInterval.nanos * (timing.timeout.nanos ⌈/⌉ timing.pollInterval.nanos) := by
  have hle := idleReads_le hpoll fun j hj => clockAt_lt_of_firstStop h hj
  have hge := (ceilDiv_le_iff_le_mul hpoll).2 (applies_of_stopAt h.here)
  rw [clockAt, Nat.le_antisymm hle hge]

theorem mul_ceilDiv_lt (t : Nat) {p : Nat} (hp : 0 < p) : p * (t ⌈/⌉ p) < t + p := by
  rw [Nat.ceilDiv_eq_add_pred_div]
  have h := Nat.mul_div_le (t + p - 1) p
  omega

/-- What the stop of the loop in a round means for the outcome of the session. -/
def Stop.Ends (timing : Timing) (feed : Feed) (i : Nat) (o : Outcome) : Stop → Prop
  | .deadline => o.phase = .timedOut ∧ o.interruption = none ∧ o.reads = i
      ∧ o.elapsed.nanos
        = timing.pollInterval.nanos * (timing.timeout.nanos ⌈/⌉ timing.pollInterval.nanos)
      ∧ timing.timeout.nanos ≤ o.elapsed.nanos
      ∧ o.elapsed.nanos < timing.timeout.nanos + timing.pollInterval.nanos
  | .fault cause => o.interruption = some (.readFault feed.name cause) ∧ o.reads = i + 1
      ∧ o.elapsed.nanos = clockAt timing feed i ∧ clockAt timing feed i < timing.timeout.nanos
  | .signal request => o.interruption = some (.signal request) ∧ o.reads = i + 1
      ∧ o.elapsed.nanos = clockAt timing feed i ∧ clockAt timing feed i < timing.timeout.nanos
  | .completed => o.phase = .completed
      ∧ o.elapsed.nanos = clockAt timing feed i + timing.gracePeriod.nanos
      ∧ clockAt timing feed i < timing.timeout.nanos
      ∧ ∃ m, DrainEnd feed (i + 1) m ∧ o.reads = m + 1
        ∧ o.interruption = (feed.readAt m).fault?.map (.readFault feed.name)

theorem ends_of_deadline (hpoll : 0 < timing.pollInterval.nanos) (sink : Sink)
    (h : FirstStop timing feed i .deadline) :
    Stop.Ends timing feed i (run timing sink feed) .deadline := by
  have hphase := (phase_run_of_deadline hpoll sink h).1
  have hclock := clockAt_of_deadline hpoll h
  have hlate : timing.timeout.nanos ≤ clockAt timing feed i := applies_of_stopAt h.here
  have hshort := mul_ceilDiv_lt timing.timeout.nanos hpoll
  rw [run_of_cut sink hpoll h (by simp)] at hphase ⊢
  exact ⟨hphase, rfl, rfl, hclock, hlate, hclock ▸ hshort⟩

theorem ends_of_completed (hpoll : 0 < timing.pollInterval.nanos) (sink : Sink)
    (h : FirstStop timing feed i .completed) :
    Stop.Ends timing feed i (run timing sink feed) .completed := by
  obtain ⟨trigger, hfirst⟩ := exists_trigger_of_completed h
  obtain ⟨-, hphase, -⟩ := trigger_run_of_completed hpoll sink h hfirst
  obtain ⟨m, hdrain⟩ := exists_drainEnd feed (i + 1)
  have htime := (applies_of_stopAt h.here).1
  rw [run_of_completed sink hpoll h hdrain] at hphase ⊢
  exact ⟨hphase, rfl, htime, m, hdrain, rfl, rfl⟩

theorem ends_of_firstStop (hpoll : 0 < timing.pollInterval.nanos) (sink : Sink)
    (h : FirstStop timing feed i stop) : stop.Ends timing feed i (run timing sink feed) := by
  cases stop with
  | deadline => exact ends_of_deadline hpoll sink h
  | completed => exact ends_of_completed hpoll sink h
  | fault fault =>
    have htime := (applies_of_stopAt h.here).1
    rw [run_of_cut sink hpoll h (by simp)]
    exact ⟨rfl, rfl, rfl, htime⟩
  | signal signal =>
    have htime := (applies_of_stopAt h.here).1
    rw [run_of_cut sink hpoll h (by simp)]
    exact ⟨rfl, rfl, rfl, htime⟩

/-- The drain makes one empty read at most, and the loop no more than the time allows. -/
theorem reads_run_le (hpoll : 0 < timing.pollInterval.nanos) (sink : Sink)
    (h : FirstStop timing feed i stop) : (run timing sink feed).reads
      ≤ feed.steps.length + timing.timeout.nanos ⌈/⌉ timing.pollInterval.nanos + 1 := by
  have hidle := idleReads_le hpoll fun j hj => clockAt_lt_of_firstStop h hj
  have hends := ends_of_firstStop hpoll sink h
  have hloop := feed.le_length_add_idleReads i
  cases stop with
  | deadline =>
    obtain ⟨-, -, hreads, -⟩ := hends
    omega
  | fault fault =>
    obtain ⟨-, hreads, -⟩ := hends
    omega
  | signal signal =>
    obtain ⟨-, hreads, -⟩ := hends
    omega
  | completed =>
    obtain ⟨-, -, -, m, hdrain, hreads, -⟩ := hends
    have hsame : feed.idleReads i = feed.idleReads m := by
      refine feed.idleReads_of_bringing (by have := hdrain.le; omega) fun j hij hjm => ?_
      rcases Nat.eq_or_lt_of_le hij with rfl | hij
      · exact bringsNothing_of_completed h.here
      · exact hdrain.before j hij hjm
    have hdrained := feed.le_length_add_idleReads m
    omega

/-- **When and how a session ends.**  The loop is left in the first round in which the time is over,
the read fails, the octets read complete a line that is a trigger, or a signal is raised; each round
up to it begins at its time and with one read made for each round before.  This fixes how long the
session takes and which steps it takes, and the reads are bounded. -/
theorem ends_run (hpoll : 0 < timing.pollInterval.nanos) (sink : Sink) (feed : Feed) :
    ∃ i stop, FirstStop timing feed i stop ∧ stop.Applies timing feed i
      ∧ (∀ j ≤ i, halt timing sink feed = loopAt timing sink feed j)
      ∧ (halt timing sink feed).stop = stop
      ∧ (halt timing sink feed).now = clockAt timing feed i
      ∧ (halt timing sink feed).reads = stop.readsBy i
      ∧ stop.Ends timing feed i (run timing sink feed)
      ∧ (run timing sink feed).remaining = feed.steps.drop (run timing sink feed).reads
      ∧ (run timing sink feed).reads
        ≤ feed.steps.length + timing.timeout.nanos ⌈/⌉ timing.pollInterval.nanos + 1 := by
  obtain ⟨i, stop, h⟩ := exists_firstStop hpoll feed
  have hrounds : ∀ j ≤ i, halt timing sink feed = loopAt timing sink feed j := by
    intro j hj
    exact halt_eq_loopAt sink hpoll fun k hk => h.before k (Nat.lt_of_lt_of_le hk hj)
  have hhalt := halt_of_firstStop sink hpoll h
  refine ⟨i, stop, h, applies_of_stopAt h.here, hrounds, ?_, ?_, ?_, ends_of_firstStop hpoll sink h,
    remaining_run hpoll sink feed, reads_run_le hpoll sink h⟩
  all_goals rw [hhalt]; rfl

/-- One interval passes before the verdict, and the grace period after it. -/
theorem ends_run_straddling : (run brisk (.fresh none) straddling).phase = .completed
    ∧ (run brisk (.fresh none) straddling).interruption = none
    ∧ (run brisk (.fresh none) straddling).elapsed.nanos = 510000000
    ∧ (run brisk (.fresh none) straddling).reads = 5 := by
  have hpoll : 0 < brisk.pollInterval.nanos := by decide
  obtain ⟨i, stop, h, -, -, -, -, -, hends, -⟩ := ends_run hpoll (.fresh none) straddling
  obtain ⟨rfl, rfl⟩ := h.unique firstStop_straddling
  obtain ⟨hphase, helapsed, -, m, hdrain, hreads, hnone⟩ := hends
  obtain rfl := hdrain.unique drainEnd_straddling
  refine ⟨hphase, hnone.trans ?_, helapsed.trans ?_, hreads⟩
  all_goals decide +kernel

end Session

end TestWatch
