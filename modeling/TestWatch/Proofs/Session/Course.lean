import Mathlib.Data.Nat.Count
import TestWatch.Proofs.Session.Receiving

/-!
# The course of a session

A session is a loop over a feed with state of its own.  Here its course is read off the feed alone.
The reads are counted from zero, without an end: after the last step of the feed a read brings
nothing.  `clockAt` is the time at which a round of the loop begins, and `stopAt` tells why the loop
is left in that round, if it is.

The rounds before the first stop do what one step of `loopAt_eq` says, so that the loop halts at
the first stop (`halt_of_firstStop`); with an interval to wait there is one (`exists_firstStop`).
After a run has completed, the rest of the feed is drained in the same way (`drain_of_drainEnd`).
`run_of_cut` and `run_of_completed` put the whole session together.
-/

namespace TestWatch

open Text

/-! ## Reads of a feed -/

namespace Read

/-- The fault that a read gives. -/
def fault? : Read → Option Fault
  | .data _ => none
  | .fault cause => some cause

/-- A read brings nothing if it fails or comes back empty. -/
def bringsNothing (read : Read) : Bool := read.octets.isEmpty

end Read

namespace Feed

/-- A step of the feed; after the last one nothing is available. -/
def stepAt (feed : Feed) (i : Nat) : FeedStep := feed.steps.getD i (Read.data []).quietly

/-- What a read yields. -/
def readAt (feed : Feed) (i : Nat) : Read := (feed.stepAt i).read

/-- The octets that the first `n` reads bring. -/
def octets (feed : Feed) (n : Nat) : Octets := (feed.steps.take n).flatMap fun step => step.read.octets

/-- The pieces in which they come. -/
def pieces (feed : Feed) (n : Nat) : List Octets :=
  ((feed.steps.take n).map fun step => step.read.octets).filter fun piece => !piece.isEmpty

/-- How many of the first `n` reads come back empty. -/
def idleReads (feed : Feed) (n : Nat) : Nat := Nat.count (fun i => feed.readAt i = .data []) n

variable (feed : Feed)

theorem stepAt_of_length_le {i : Nat} (h : feed.steps.length ≤ i) :
    feed.stepAt i = (Read.data []).quietly := by
  rw [stepAt, List.getD_eq_getElem?_getD, List.getElem?_eq_none h]
  rfl

theorem readAt_of_length_le {i : Nat} (h : feed.steps.length ≤ i) : feed.readAt i = .data [] := by
  rw [readAt, feed.stepAt_of_length_le h]
  rfl

theorem drop_of_lt_length {i : Nat} (h : i < feed.steps.length) :
    feed.steps.drop i = feed.stepAt i :: feed.steps.drop (i + 1) := by
  rw [List.drop_eq_getElem_cons h, stepAt, List.getD_eq_getElem?_getD, List.getElem?_eq_getElem h]
  rfl

theorem take_succ (i : Nat) : (feed.steps.take (i + 1)).map (fun step => step.read.octets)
    = (feed.steps.take i).map (fun step => step.read.octets)
      ++ (feed.steps[i]?.map fun step => step.read.octets).toList := by
  rw [List.take_add_one, List.map_append]
  cases feed.steps[i]? <;> rfl

theorem octets_readAt (i : Nat) :
    (feed.readAt i).octets = (feed.steps[i]?.map fun step => step.read.octets).getD [] := by
  rw [readAt, stepAt, List.getD_eq_getElem?_getD]
  cases feed.steps[i]? <;> rfl

theorem octets_succ (i : Nat) : feed.octets (i + 1) = feed.octets i ++ (feed.readAt i).octets := by
  rw [octets, octets, List.flatMap_def, List.flatMap_def, take_succ, List.flatten_append,
    octets_readAt]
  cases feed.steps[i]? <;> simp

theorem pieces_succ (i : Nat) : feed.pieces (i + 1) = feed.pieces i
    ++ if (feed.readAt i).bringsNothing then [] else [(feed.readAt i).octets] := by
  rw [pieces, pieces, take_succ, List.filter_append, Read.bringsNothing, octets_readAt]
  cases feed.steps[i]? with
  | none => rfl
  | some step => cases h : step.read.octets <;> simp [h]

/-- The pieces hold the octets. -/
theorem flatten_pieces (n : Nat) : (feed.pieces n).flatten = feed.octets n := by
  induction n with
  | zero => rfl
  | succ i ih =>
    rw [pieces_succ, List.flatten_append, ih, octets_succ, Read.bringsNothing]
    cases (feed.readAt i).octets <;> simp

theorem idleReads_succ (i : Nat) :
    feed.idleReads (i + 1) = feed.idleReads i + if feed.readAt i = .data [] then 1 else 0 :=
  Nat.count_succ _ _

/-- A read that is not empty is a step of the feed. -/
theorem le_length_add_idleReads (n : Nat) : n ≤ feed.steps.length + feed.idleReads n := by
  induction n with
  | zero => exact Nat.zero_le _
  | succ i ih =>
    by_cases hi : i < feed.steps.length
    · omega
    · have hidle := feed.readAt_of_length_le (Nat.le_of_not_lt hi)
      rw [feed.idleReads_succ, if_pos hidle]
      omega

end Feed

/-- A function that no step from `a` to `b` changes has one value there. -/
theorem eq_of_steps {α : Type} {f : Nat → α} {a b : Nat} (hab : a ≤ b)
    (h : ∀ i, a ≤ i → i < b → f i = f (i + 1)) : f a = f b := by
  induction b, hab using Nat.le_induction with
  | base => rfl
  | succ b hab ih => exact (ih fun i hi hib => h i hi (by omega)).trans (h b hab (by omega))

namespace Session

/-! ## Rounds of the loop -/

theorem watch_late {timing : Timing} {now : Nat} (hnow : timing.timeout.nanos ≤ now) (reads : Nat)
    (s : Session) (steps : List FeedStep) : watch timing now reads s steps
      = ⟨.deadline, now, reads, s.leave timing now .deadline, steps⟩ := by
  rw [watch.eq_def, if_pos hnow]

theorem watch_nil {timing : Timing} {now : Nat} (hnow : now < timing.timeout.nanos) (reads : Nat)
    (s : Session) :
    watch timing now reads s [] = watch timing (nextPoll timing now) (reads + 1) s [] := by
  rw [watch.eq_def, if_neg (Nat.not_le.2 hnow)]

/-- When a round of the loop begins: each read before that came back empty took an interval. -/
def clockAt (timing : Timing) (feed : Feed) (i : Nat) : Nat :=
  timing.pollInterval.nanos * feed.idleReads i

/-- Why the loop is left in a round, if it is: the time is over, the read fails, the octets read
complete a line that is a trigger, or a signal is raised, in this order. -/
def stopAt (timing : Timing) (feed : Feed) (i : Nat) : Option Stop :=
  if timing.timeout.nanos ≤ clockAt timing feed i then some .deadline
  else match feed.readAt i with
    | .fault fault => some (.fault fault)
    | .data octets =>
      if (findTrigger (completedLines (feed.octets i) octets)).isSome then some .completed
      else (feed.stepAt i).signal.map .signal

/-- The loop is left for the first time in a round. -/
structure FirstStop (timing : Timing) (feed : Feed) (i : Nat) (stop : Stop) : Prop where
  /-- It is left there. -/
  here : stopAt timing feed i = some stop
  /-- It was not left before. -/
  before : ∀ j < i, stopAt timing feed j = none

/-- The reads made by the end of a round that leaves the loop: the clock is looked at before the
read. -/
def Stop.readsBy (i : Nat) : Stop → Nat
  | .deadline => i
  | .completed | .fault _ | .signal _ => i + 1

variable (timing : Timing) (sink : Sink) (feed : Feed)

/-- The session after the first `n` reads. -/
def afterReads (n : Nat) : Session := (opening timing sink feed).receiveAll (feed.pieces n)

/-- The loop from a round on. -/
def loopAt (i : Nat) : Halt :=
  watch timing (clockAt timing feed i) i (afterReads timing sink feed i) (feed.steps.drop i)

/-- The state in which the loop is left in a round. -/
def haltAt (i : Nat) (stop : Stop) : Halt where
  stop := stop
  now := clockAt timing feed i
  reads := stop.readsBy i
  session := (afterReads timing sink feed (stop.readsBy i)).leave timing (clockAt timing feed i) stop
  rest := feed.steps.drop (stop.readsBy i)

theorem afterReads_succ (i : Nat) : afterReads timing sink feed (i + 1)
    = if (feed.readAt i).bringsNothing then afterReads timing sink feed i
      else (afterReads timing sink feed i).receive (feed.readAt i).octets := by
  rw [afterReads, afterReads, Feed.pieces_succ, receiveAll_append]
  split <;> rfl

theorem knows_afterReads (n : Nat) :
    (afterReads timing sink feed n).Knows timing.timeout sink (feed.octets n) := by
  have h := (knows_opening timing sink feed).receiveAll (feed.pieces n)
  rwa [Feed.flatten_pieces] at h

theorem clockAt_succ (i : Nat) : clockAt timing feed (i + 1)
    = clockAt timing feed i + if feed.readAt i = .data [] then timing.pollInterval.nanos else 0 := by
  rw [clockAt, clockAt, Feed.idleReads_succ, Nat.mul_add]
  split <;> simp

variable {timing feed}

/-- What a stop says about the clock, the read and the signal of its round. -/
def Stop.Applies (timing : Timing) (feed : Feed) (i : Nat) : Stop → Prop
  | .deadline => timing.timeout.nanos ≤ clockAt timing feed i
  | .fault cause => clockAt timing feed i < timing.timeout.nanos ∧ feed.readAt i = .fault cause
  | .completed => clockAt timing feed i < timing.timeout.nanos
      ∧ ∃ octets, feed.readAt i = .data octets
        ∧ (findTrigger (completedLines (feed.octets i) octets)).isSome = true
  | .signal request => clockAt timing feed i < timing.timeout.nanos
      ∧ (∃ octets, feed.readAt i = .data octets
        ∧ findTrigger (completedLines (feed.octets i) octets) = none)
      ∧ (feed.stepAt i).signal = some request

theorem applies_of_stopAt {i : Nat} {stop : Stop} (h : stopAt timing feed i = some stop) :
    stop.Applies timing feed i := by
  unfold stopAt at h
  split at h
  · rename_i htime
    cases h
    exact htime
  · rename_i htime
    have htime : clockAt timing feed i < timing.timeout.nanos := by omega
    cases hread : feed.readAt i with
    | fault fault =>
      rw [hread] at h
      cases h
      exact ⟨htime, hread⟩
    | data octets =>
      rw [hread] at h
      dsimp only at h
      split at h
      · rename_i htrigger
        cases h
        exact ⟨htime, octets, hread, htrigger⟩
      · rename_i htrigger
        obtain ⟨signal, hsignal, rfl⟩ := Option.map_eq_some_iff.1 h
        exact ⟨htime, ⟨octets, hread, by simpa using htrigger⟩, hsignal⟩

/-- A round that does not leave the loop is in time and its read does not fail; the read completes no
line that is a trigger and no signal is raised. -/
theorem stopAt_eq_none {i : Nat} (h : stopAt timing feed i = none) :
    clockAt timing feed i < timing.timeout.nanos ∧ (feed.stepAt i).signal = none
      ∧ ∃ octets, feed.readAt i = .data octets
        ∧ findTrigger (completedLines (feed.octets i) octets) = none := by
  unfold stopAt at h
  split at h
  · cases h
  · rename_i htime
    cases hread : feed.readAt i with
    | fault fault => rw [hread] at h; cases h
    | data octets =>
      rw [hread] at h
      dsimp only at h
      split at h
      · cases h
      · rename_i htrigger
        exact ⟨by omega, Option.map_eq_none_iff.1 h, octets, rfl, by simpa using htrigger⟩

/-- No line that came to an end before the loop is left is a trigger. -/
theorem findTrigger_of_before {i : Nat} (h : ∀ j < i, stopAt timing feed j = none) :
    findTrigger (terminatedLines (feed.octets i)) = none := by
  induction i with
  | zero => rfl
  | succ i ih =>
    have hi := ih fun j hj => h j (by omega)
    obtain ⟨-, -, octets, hread, htrigger⟩ := stopAt_eq_none (h i (by omega))
    rw [Feed.octets_succ, hread, Read.octets, findTrigger_terminatedLines hi, htrigger]

/-- One round of the loop over what is left of a feed, in time and with the run still going on. -/
theorem watch_drop (hpoll : 0 < timing.pollInterval.nanos) {now : Nat}
    (htime : now < timing.timeout.nanos) {s : Session} (hphase : s.progress.phase ≠ .completed)
    (reads i : Nat) :
    watch timing now reads s (feed.steps.drop i) =
      match feed.readAt i with
      | .fault fault =>
        ⟨.fault fault, now, reads + 1, s.leave timing now (.fault fault), feed.steps.drop (i + 1)⟩
      | .data octets =>
        let next := if octets.isEmpty then s else s.receive octets
        if next.progress.phase = .completed then
          ⟨.completed, now, reads + 1, next.leave timing now .completed, feed.steps.drop (i + 1)⟩
        else match (feed.stepAt i).signal with
          | some signal =>
            ⟨.signal signal, now, reads + 1, next.leave timing now (.signal signal),
              feed.steps.drop (i + 1)⟩
          | none =>
            watch timing (if octets.isEmpty then now + timing.pollInterval.nanos else now)
              (reads + 1) next (feed.steps.drop (i + 1)) := by
  by_cases hi : i < feed.steps.length
  · rw [feed.drop_of_lt_length hi, watch, if_neg (Nat.not_le.2 htime)]
    rfl
  · have hi : feed.steps.length ≤ i := by omega
    have hpoll : timing.pollInterval.isZero = false := by simp [TimeSpan.isZero]; omega
    rw [List.drop_eq_nil_of_le hi, List.drop_eq_nil_of_le (by omega : _ ≤ i + 1),
      feed.readAt_of_length_le hi, feed.stepAt_of_length_le hi, watch_nil htime]
    simp [hphase, nextPoll, hpoll, Read.quietly]

/-- What a round of the loop does if the loop was not left before: it leaves the loop as `stopAt`
says, or goes on to the next round. -/
theorem loopAt_eq (hpoll : 0 < timing.pollInterval.nanos) {i : Nat}
    (hbefore : ∀ j < i, stopAt timing feed j = none) :
    loopAt timing sink feed i =
      match stopAt timing feed i with
      | some stop => haltAt timing sink feed i stop
      | none => loopAt timing sink feed (i + 1) := by
  have hrun := findTrigger_of_before hbefore
  have hphase : (afterReads timing sink feed i).progress.phase ≠ .completed := by
    rw [Ne, (knows_afterReads timing sink feed i).completed_iff, hrun]
    exact Bool.false_ne_true
  by_cases htime : timing.timeout.nanos ≤ clockAt timing feed i
  · rw [loopAt, watch_late htime, stopAt, if_pos htime]
    rfl
  · rw [loopAt, watch_drop hpoll (by omega) hphase, stopAt, if_neg htime]
    have hnext := afterReads_succ timing sink feed i
    cases hread : feed.readAt i with
    | fault fault =>
      rw [hread, Read.bringsNothing, Read.octets, List.isEmpty_nil, if_pos rfl] at hnext
      dsimp only
      rw [← hnext]
      rfl
    | data octets =>
      rw [hread, Read.bringsNothing, Read.octets] at hnext
      dsimp only
      rw [← hnext]
      -- up to here no line was a trigger, so the run completes in this round or not at all
      have hcompleted : (afterReads timing sink feed (i + 1)).progress.phase = .completed ↔
          (findTrigger (completedLines (feed.octets i) octets)).isSome = true := by
        rw [(knows_afterReads timing sink feed (i + 1)).completed_iff, feed.octets_succ, hread,
          Read.octets, findTrigger_terminatedLines hrun]
      by_cases htrigger : (findTrigger (completedLines (feed.octets i) octets)).isSome = true
      · rw [if_pos (hcompleted.2 htrigger), if_pos htrigger]
        rfl
      · rw [if_neg (mt hcompleted.1 htrigger), if_neg htrigger]
        cases (feed.stepAt i).signal with
        | some signal => rfl
        | none =>
          simp only [Option.map_none]
          rw [loopAt, clockAt_succ, hread]
          cases octets <;> rfl

/-- A round that no stop precedes is reached with its reads made. -/
theorem halt_eq_loopAt (hpoll : 0 < timing.pollInterval.nanos) {i : Nat}
    (hbefore : ∀ j < i, stopAt timing feed j = none) :
    halt timing sink feed = loopAt timing sink feed i := by
  have hsteps : loopAt timing sink feed 0 = loopAt timing sink feed i := by
    refine eq_of_steps (Nat.zero_le i) fun j _ hj => ?_
    rw [loopAt_eq sink hpoll fun k hk => hbefore k (by omega), hbefore j hj]
  exact hsteps

/-- The loop is left at its first stop. -/
theorem halt_of_firstStop (hpoll : 0 < timing.pollInterval.nanos) {i : Nat} {stop : Stop}
    (h : FirstStop timing feed i stop) : halt timing sink feed = haltAt timing sink feed i stop := by
  rw [halt_eq_loopAt sink hpoll h.before, loopAt_eq sink hpoll h.before, h.here]

theorem FirstStop.unique {i j : Nat} {stop stop' : Stop} (h : FirstStop timing feed i stop)
    (h' : FirstStop timing feed j stop') : i = j ∧ stop = stop' := by
  rcases Nat.lt_trichotomy i j with hij | rfl | hji
  · exact absurd h.here (by rw [h'.before i hij]; simp)
  · exact ⟨rfl, Option.some.inj (h.here.symm.trans h'.here)⟩
  · exact absurd h'.here (by rw [h.before j hji]; simp)

/-- With an interval to wait, the loop is left in some round. -/
theorem exists_firstStop (hpoll : 0 < timing.pollInterval.nanos) (feed : Feed) :
    ∃ i stop, FirstStop timing feed i stop := by
  have hlate : ∃ i, (stopAt timing feed i).isSome = true := by
    refine ⟨feed.steps.length + timing.timeout.nanos, ?_⟩
    -- after the last step every read comes back empty and takes an interval
    have hreads := feed.le_length_add_idleReads (feed.steps.length + timing.timeout.nanos)
    have hidle : timing.timeout.nanos
        ≤ feed.idleReads (feed.steps.length + timing.timeout.nanos) := Nat.le_of_add_le_add_left hreads
    have hclock : timing.timeout.nanos
        ≤ clockAt timing feed (feed.steps.length + timing.timeout.nanos) :=
      hidle.trans (Nat.le_mul_of_pos_left _ hpoll)
    rw [stopAt, if_pos hclock]
    rfl
  obtain ⟨stop, hstop⟩ := Option.isSome_iff_exists.1 (Nat.find_spec hlate)
  refine ⟨Nat.find hlate, stop, hstop, fun j hj => ?_⟩
  simpa using Nat.find_min hlate hj

/-! ## The rest of the feed -/

variable (timing) in
/-- The drain from a read on. -/
def drainAt (feed : Feed) (k : Nat) : Drained :=
  drain k (afterReads timing sink feed k) (feed.steps.drop k)

/-- From a read on, the drain takes what the reads bring up to the first that brings nothing. -/
structure DrainEnd (feed : Feed) (k m : Nat) : Prop where
  /-- It comes no earlier. -/
  le : k ≤ m
  /-- It brings nothing. -/
  last : (feed.readAt m).bringsNothing = true
  /-- The others bring something. -/
  before : ∀ j, k ≤ j → j < m → (feed.readAt j).bringsNothing = false

/-- One read of the drain. -/
theorem drainAt_eq (feed : Feed) (k : Nat) : drainAt timing sink feed k =
    if (feed.readAt k).bringsNothing then
      ⟨(feed.readAt k).fault?, k + 1, afterReads timing sink feed (k + 1), feed.steps.drop (k + 1)⟩
    else drainAt timing sink feed (k + 1) := by
  by_cases hk : k < feed.steps.length
  · rw [drainAt, feed.drop_of_lt_length hk, drain, drainAt, afterReads_succ]
    show (match feed.readAt k with | .fault fault => _ | .data octets => _) = _
    cases hread : feed.readAt k with
    | fault fault => rfl
    | data octets => cases octets <;> rfl
  · have hk : feed.steps.length ≤ k := by omega
    rw [drainAt, afterReads_succ, feed.readAt_of_length_le hk, List.drop_eq_nil_of_le hk,
      List.drop_eq_nil_of_le (by omega : _ ≤ k + 1)]
    rfl

theorem drain_of_drainEnd {feed : Feed} {k m : Nat} (h : DrainEnd feed k m) :
    drainAt timing sink feed k
      = ⟨(feed.readAt m).fault?, m + 1, afterReads timing sink feed (m + 1),
          feed.steps.drop (m + 1)⟩ := by
  have hsteps : drainAt timing sink feed k = drainAt timing sink feed m := by
    refine eq_of_steps h.le fun j hkj hjm => ?_
    rw [drainAt_eq, h.before j hkj hjm]
    rfl
  rw [hsteps, drainAt_eq, if_pos h.last]

theorem DrainEnd.unique {feed : Feed} {k m n : Nat} (h : DrainEnd feed k m) (h' : DrainEnd feed k n) :
    m = n := by
  rcases Nat.lt_trichotomy m n with hmn | rfl | hnm
  · exact absurd h.last (by rw [h'.before m h.le hmn]; simp)
  · rfl
  · exact absurd h'.last (by rw [h.before n h'.le hnm]; simp)

theorem exists_drainEnd (feed : Feed) (k : Nat) : ∃ m, DrainEnd feed k m := by
  have hend : ∃ m, k ≤ m ∧ (feed.readAt m).bringsNothing = true := by
    refine ⟨max k feed.steps.length, Nat.le_max_left _ _, ?_⟩
    rw [feed.readAt_of_length_le (Nat.le_max_right _ _)]
    rfl
  obtain ⟨hle, hlast⟩ := Nat.find_spec hend
  refine ⟨Nat.find hend, hle, hlast, fun j hkj hj => ?_⟩
  simpa [hkj] using Nat.find_min hend hj

/-! ## The whole session -/

/-- What cuts a session short that leaves the loop so. -/
def Stop.interruption? (source : Text) : Stop → Option Interruption
  | .deadline | .completed => none
  | .fault cause => some (.readFault source cause)
  | .signal request => some (.signal request)

/-- A session whose run has not completed in the loop ends with the loop. -/
theorem run_of_cut (hpoll : 0 < timing.pollInterval.nanos) {i : Nat} {stop : Stop}
    (h : FirstStop timing feed i stop) (hstop : stop ≠ .completed) :
    run timing sink feed = (haltAt timing sink feed i stop).session.finish
      (stop.interruption? feed.name) (clockAt timing feed i) (stop.readsBy i)
      (feed.steps.drop (stop.readsBy i)) := by
  rw [run, halt_of_firstStop sink hpoll h, conclude]
  cases stop with
  | completed => exact absurd rfl hstop
  | deadline => rfl
  | fault fault => rfl
  | signal signal => rfl

/-- A session whose run has completed goes on for the grace period and drains the feed. -/
theorem run_of_completed (hpoll : 0 < timing.pollInterval.nanos) {i m : Nat}
    (h : FirstStop timing feed i .completed) (hdrain : DrainEnd feed (i + 1) m) :
    run timing sink feed = (afterReads timing sink feed (m + 1)).finish
      ((feed.readAt m).fault?.map (.readFault feed.name))
      (clockAt timing feed i + timing.gracePeriod.nanos) (m + 1) (feed.steps.drop (m + 1)) := by
  calc run timing sink feed = conclude timing feed.name (haltAt timing sink feed i .completed) := by
        rw [run, halt_of_firstStop sink hpoll h]
    _ = (drainAt timing sink feed (i + 1)).session.finish
          ((drainAt timing sink feed (i + 1)).fault.map (.readFault feed.name))
          (clockAt timing feed i + timing.gracePeriod.nanos)
          (drainAt timing sink feed (i + 1)).reads (drainAt timing sink feed (i + 1)).rest := rfl
    _ = _ := by rw [drain_of_drainEnd sink hdrain]

/-- However the loop is left, the session ends after a number of reads, at a time and with an
interruption that its sink has no part in. -/
theorem exists_run_eq (hpoll : 0 < timing.pollInterval.nanos) {i : Nat} {stop : Stop}
    (h : FirstStop timing feed i stop) :
    ∃ (reads elapsed : Nat) (interruption : Option Interruption), ∀ sink : Sink,
      run timing sink feed
        = ((afterReads timing sink feed reads).leave timing (clockAt timing feed i) stop).finish
            interruption elapsed reads (feed.steps.drop reads) := by
  by_cases hstop : stop = .completed
  · subst hstop
    obtain ⟨m, hdrain⟩ := exists_drainEnd feed (i + 1)
    exact ⟨m + 1, _, _, fun sink => run_of_completed sink hpoll h hdrain⟩
  · exact ⟨stop.readsBy i, _, _, fun sink => run_of_cut sink hpoll h hstop⟩

/-! ## One course -/

/-- Thirty milliseconds for a run, ten between two looks at the feed. -/
def brisk : Timing := ⟨.ofMillis 30, .ofMillis 10, .ofMillis 500⟩

/-- A feed whose lines straddle its reads: the verdict comes in the middle of the third one, and a
failure after it is told in the drain. -/
def straddling : Feed :=
  ⟨"wire".toList,
    [.data (encode "t.c:1:a:PA".toList), .data [], .data (encode "SS\r\nOK\nt.c:2:b:FA".toList),
      .data (encode "IL:late".toList), .data [], .data (encode "\n".toList)].map Read.quietly⟩

theorem firstStop_straddling : FirstStop brisk straddling 2 .completed :=
  ⟨by decide +kernel, by decide +kernel⟩

theorem drainEnd_straddling : DrainEnd straddling 3 4 where
  le := by decide
  last := by decide +kernel
  before j hj hlt := by
    obtain rfl : j = 3 := by omega
    decide +kernel

theorem reads_run_straddling (sink : Sink) : (run brisk sink straddling).reads = 5 := by
  rw [run_of_completed sink (by decide) firstStop_straddling drainEnd_straddling]
  rfl

end Session

end TestWatch
