import Mathlib.Data.List.GetD
import TestWatch.Proofs.Session.Ending
import TestWatch.Proofs.Session.Recut
import TestWatch.Report

/-!
# Replaying what a session echoed

What a session echoed can be stored and replayed.  The replay meets the same octets at other times
and in other pieces, and it is never cut short: it reads the log up (`run_quietSteps`) and
then times out or has completed.

* `verdict`: what can be said of a run from its octets alone.
* `verdict_run`: a session that is not cut short in its loop says this of the octets it read.
* `replay_run`: so the replay agrees with the session that wrote the log, and a session that was cut
  short is never replayed as a success.
-/

namespace TestWatch

open Text

/-! ## Feeds without faults, signals and gaps -/

namespace Feed

variable (name : Text) {pieces : List Octets}

theorem stepAt_quietSteps (i : Nat) :
    stepAt ⟨name, quietSteps pieces⟩ i = (Read.data (pieces.getD i [])).quietly :=
  List.getD_map pieces [] fun piece => (Read.data piece).quietly

theorem readAt_quietSteps (i : Nat) :
    readAt ⟨name, quietSteps pieces⟩ i = .data (pieces.getD i []) := by
  rw [readAt, stepAt_quietSteps]
  rfl

/-- Only after the last piece a read brings nothing. -/
theorem length_le_of_bringsNothing (hpieces : [] ∉ pieces) {i : Nat}
    (h : (readAt ⟨name, quietSteps pieces⟩ i).bringsNothing = true) : pieces.length ≤ i := by
  by_contra hi
  have hlt : i < pieces.length := Nat.lt_of_not_le hi
  rw [readAt_quietSteps, Read.bringsNothing, Read.octets, List.getD_eq_getElem _ _ hlt] at h
  have hempty : pieces[i] = [] := List.isEmpty_iff.1 h
  exact hpieces (hempty ▸ List.getElem_mem hlt)

theorem octets_quietSteps {n : Nat} (hn : pieces.length ≤ n) :
    octets ⟨name, quietSteps pieces⟩ n = pieces.flatten := by
  have hlength : (quietSteps pieces).length ≤ n := by simpa [quietSteps] using hn
  rw [octets, List.take_of_length_le hlength, List.flatMap_def, quietSteps, List.map_map]
  exact congrArg List.flatten (List.map_id _)

/-- If some reads took time, one of them came back empty. -/
theorem exists_idle_of_idleReads {feed : Feed} {n : Nat} (h : 0 < feed.idleReads n) :
    ∃ j < n, feed.readAt j = .data [] := by
  by_contra hnone
  have hzero : feed.idleReads n = 0 := by
    rw [idleReads, Nat.count_iff_forall_not]
    exact fun j hj hidle => hnone ⟨j, hj, hidle⟩
  omega

end Feed

/-- A log of some pieces is read as pieces of the same octets, none of them empty. -/
theorem Replay.exists_feed_eq (name : Text) (chunk : Nat) {captured : List Octets}
    (hcaptured : [] ∉ captured) : ∃ pieces : List Octets, [] ∉ pieces ∧ pieces.flatten = captured.flatten
      ∧ ((start name (.items (captured.map .data))).withChunk chunk).feed
        = ⟨name, quietSteps pieces⟩ := by
  suffices h : ∃ pieces : List Octets, [] ∉ pieces ∧ pieces.flatten = captured.flatten
      ∧ readsOf (max chunk 1) (captured.map .data) = pieces.map .data by
    obtain ⟨pieces, hpieces, hflatten, hreads⟩ := h
    refine ⟨pieces, hpieces, hflatten, ?_⟩
    show Feed.mk name ((readsOf (max chunk 1) (captured.map .data)).map Read.quietly) = _
    rw [hreads, List.map_map]
    rfl
  induction captured with
  | nil => exact ⟨[], List.not_mem_nil, rfl, rfl⟩
  | cons octets captured ih =>
    obtain ⟨hoctets, hcaptured⟩ := not_or.1 (mt List.mem_cons.2 hcaptured)
    obtain ⟨rest, hrest, hflatten, hreads⟩ := ih hcaptured
    refine ⟨pieces (max chunk 1) octets ++ rest, ?_, ?_, ?_⟩
    · rw [List.mem_append, not_or]
      exact ⟨nil_notMem_pieces _ _, hrest⟩
    · rw [List.flatten_append, flatten_pieces, hflatten, List.flatten_cons]
    · have hdata : octets.isEmpty = false := by simpa using Ne.symm hoctets
      rw [List.map_cons, readsOf, hdata, hreads, List.map_append]
      rfl

namespace Session

variable {timing : Timing} {feed : Feed} {i : Nat} {stop : Stop}

/-! ## Verdicts -/

/-- What can be said of a run from its octets: its first trigger has completed it, and without one it
has taken too long. -/
def verdict (bytes : Octets) : Phase × Option Trigger :=
  match findTrigger (terminatedLines bytes) with
  | some trigger => (.completed, some trigger)
  | none => (.timedOut, none)

/-- A session that nothing cuts short in its loop gives the verdict on what it read. -/
theorem verdict_run (hpoll : 0 < timing.pollInterval.nanos) (sink : Sink)
    (h : FirstStop timing feed i stop) (hstop : stop.interruption? feed.name = none) :
    ((run timing sink feed).phase, (run timing sink feed).trigger)
      = verdict (feed.octets (run timing sink feed).reads) := by
  cases stop with
  | deadline =>
    obtain ⟨hphase, htrigger⟩ := phase_run_of_deadline hpoll sink h
    rw [verdict, findTrigger_run_of_cut hpoll sink h (by simp), hphase, htrigger]
  | completed =>
    obtain ⟨trigger, hfirst⟩ := exists_trigger_of_completed h
    obtain ⟨hle, hphase, htrigger⟩ := trigger_run_of_completed hpoll sink h hfirst
    rw [verdict, findTrigger_of_le hle hfirst, hphase, htrigger]
  | fault fault => cases hstop
  | signal signal => cases hstop

/-- A session that was cut short in its loop read nothing that completes a run. -/
theorem verdict_of_interruption (hpoll : 0 < timing.pollInterval.nanos) (sink : Sink)
    (h : FirstStop timing feed i stop) (hstop : stop.interruption? feed.name ≠ none) :
    verdict (feed.octets (run timing sink feed).reads) = (.timedOut, none) := by
  have hcut : stop ≠ .completed := by
    rintro rfl
    exact hstop rfl
  rw [verdict, findTrigger_run_of_cut hpoll sink h hcut]

/-- What cut a session short in its loop is told at its end. -/
theorem interruption_run (hpoll : 0 < timing.pollInterval.nanos) (sink : Sink)
    (h : FirstStop timing feed i stop) (hnone : (run timing sink feed).interruption = none) :
    stop.interruption? feed.name = none := by
  by_cases hstop : stop = .completed
  · rw [hstop]
    rfl
  · rw [run_of_cut sink hpoll h hstop] at hnone
    exact hnone

/-! ## The replay -/

variable {name : Text} {pieces : List Octets}

/-- The loop over a feed without faults, signals and gaps reads the feed up before it is left, unless
the run completes. -/
theorem stop_quietSteps (htimeout : 0 < timing.timeout.nanos) (hpieces : [] ∉ pieces)
    (h : FirstStop timing ⟨name, quietSteps pieces⟩ i stop) :
    stop = .completed ∨ stop = .deadline ∧ pieces.length ≤ i := by
  have happlies := applies_of_stopAt h.here
  cases stop with
  | completed => exact .inl rfl
  | deadline =>
    have hlate : timing.timeout.nanos
        ≤ timing.pollInterval.nanos * Feed.idleReads ⟨name, quietSteps pieces⟩ i := happlies
    have hidle : 0 < Feed.idleReads ⟨name, quietSteps pieces⟩ i :=
      Nat.pos_of_mul_pos_left (Nat.lt_of_lt_of_le htimeout hlate)
    obtain ⟨j, hj, hread⟩ := Feed.exists_idle_of_idleReads hidle
    have hlength := Feed.length_le_of_bringsNothing name hpieces (i := j) (by rw [hread]; rfl)
    exact .inr ⟨rfl, by omega⟩
  | fault fault =>
    obtain ⟨-, hread⟩ := happlies
    rw [Feed.readAt_quietSteps] at hread
    cases hread
  | signal signal =>
    obtain ⟨-, -, hsignal⟩ := happlies
    rw [Feed.stepAt_quietSteps] at hsignal
    cases hsignal

/-- A session over such a feed reads all of it, gives the verdict on it and is not cut short. -/
theorem run_quietSteps (hpoll : 0 < timing.pollInterval.nanos) (htimeout : 0 < timing.timeout.nanos)
    (sink : Sink) (hpieces : [] ∉ pieces) (name : Text) :
    Feed.octets ⟨name, quietSteps pieces⟩ (run timing sink ⟨name, quietSteps pieces⟩).reads
        = pieces.flatten
      ∧ (run timing sink ⟨name, quietSteps pieces⟩).interruption = none
      ∧ ((run timing sink ⟨name, quietSteps pieces⟩).phase,
        (run timing sink ⟨name, quietSteps pieces⟩).trigger) = verdict pieces.flatten := by
  obtain ⟨i, stop, h⟩ := exists_firstStop hpoll ⟨name, quietSteps pieces⟩
  have hoctets : Feed.octets ⟨name, quietSteps pieces⟩
        (run timing sink ⟨name, quietSteps pieces⟩).reads = pieces.flatten
      ∧ (run timing sink ⟨name, quietSteps pieces⟩).interruption = none
      ∧ stop.interruption? name = none := by
    rcases stop_quietSteps htimeout hpieces h with rfl | ⟨rfl, hlength⟩
    · obtain ⟨m, hdrain⟩ := exists_drainEnd ⟨name, quietSteps pieces⟩ (i + 1)
      have hlength := Feed.length_le_of_bringsNothing name hpieces hdrain.last
      rw [run_of_completed sink hpoll h hdrain, Feed.readAt_quietSteps]
      exact ⟨Feed.octets_quietSteps name (Nat.le_succ_of_le hlength), rfl, rfl⟩
    · rw [run_of_cut sink hpoll h (by simp)]
      exact ⟨Feed.octets_quietSteps name hlength, rfl, rfl⟩
  obtain ⟨hoctets, hnone, hstop⟩ := hoctets
  have hverdict := verdict_run hpoll sink h hstop
  rw [hoctets] at hverdict
  exact ⟨hoctets, hnone, hverdict⟩

/-- **Replaying what a session echoed reproduces its result.**  The replay may cut the octets in
other pieces and keep to other times.  It counts the same; if the session was not cut short, it ends
the same way; and if a fault or a signal cut the session short in its loop, the replay times out and
is no success, even where the last line made the session look completed. -/
theorem replay_run (hpoll : 0 < timing.pollInterval.nanos) (refusal : Option Refusal) (feed : Feed)
    (hgoing : (run timing (.fresh refusal) feed).echo.failed = false) {captured : List Octets}
    (hcaptured : [] ∉ captured)
    (hechoed : captured.flatten = (run timing (.fresh refusal) feed).echo.sink.taken)
    {timing' : Timing} (htimeout' : 0 < timing'.timeout.nanos)
    (hpoll' : 0 < timing'.pollInterval.nanos) (sink' : Sink) (name : Text) (chunk : Nat) :
    let live := run timing (.fresh refusal) feed
    let replayed := run timing' sink'
      ((Replay.start name (.items (captured.map .data))).withChunk chunk).feed
    replayed.tally = live.tally
      ∧ (∀ color, Report.render color replayed.tally = Report.render color live.tally)
      ∧ (live.interruption = none → replayed.phase = live.phase ∧ replayed.trigger = live.trigger
        ∧ replayed.isCompleted = live.isCompleted ∧ replayed.isSuccess = live.isSuccess)
      ∧ ((∃ fault, (halt timing (.fresh refusal) feed).stop = .fault fault)
          ∨ (∃ signal, (halt timing (.fresh refusal) feed).stop = .signal signal) →
        replayed.phase = .timedOut ∧ replayed.isSuccess = false) := by
  intro live replayed
  obtain ⟨i, stop, h⟩ := exists_firstStop hpoll feed
  have hstop : (halt timing (.fresh refusal) feed).stop = stop := by
    rw [halt_of_firstStop _ hpoll h]
    rfl
  obtain ⟨pieces, hpieces, hflatten, hfeed⟩ := Replay.exists_feed_eq name chunk hcaptured
  obtain ⟨hoctets', hnone', hverdict'⟩ := run_quietSteps hpoll' htimeout' sink' hpieces name
  have htaken := taken_run hpoll (.fresh refusal) feed hgoing
  have hsame : pieces.flatten = feed.octets live.reads := (hflatten.trans hechoed).trans htaken
  have htally : replayed.tally = live.tally := by
    show (run timing' sink' _).tally = _
    rw [hfeed, lines_run hpoll', hoctets', hsame, ← lines_run hpoll]
  rw [hsame] at hverdict'
  rw [← hfeed] at hverdict' hnone'
  refine ⟨htally, fun color => by rw [htally], ?_, ?_⟩
  · intro hnone
    have hverdict := hverdict'.trans (verdict_run hpoll _ h (interruption_run hpoll _ h hnone)).symm
    obtain ⟨hphase, htrigger⟩ := Prod.mk.inj hverdict
    have hcompleted : replayed.isCompleted = live.isCompleted := by
      rw [Outcome.isCompleted, Outcome.isCompleted, hphase]
    have hsuccess : replayed.isSuccess = live.isSuccess := by
      rw [Outcome.isSuccess, Outcome.isSuccess, hcompleted, htally, hnone, hnone']
    exact ⟨hphase, htrigger, hcompleted, hsuccess⟩
  · intro hcut
    have hcut : stop.interruption? feed.name ≠ none := by
      rw [hstop] at hcut
      rcases hcut with ⟨fault, rfl⟩ | ⟨signal, rfl⟩ <;> simp [Stop.interruption?]
    have hverdict := hverdict'.trans (verdict_of_interruption hpoll _ h hcut)
    obtain ⟨hphase, -⟩ := Prod.mk.inj hverdict
    refine ⟨hphase, ?_⟩
    rw [Outcome.isSuccess, Outcome.isCompleted, hphase]
    rfl

/-- A feed over which a signal comes while the verdict has no newline yet. -/
def severed : Feed :=
  ⟨"wire".toList, [(Read.data (encode "t.c:1:a:PASS\nOK".toList)).quietly,
    ⟨.data [], some .interrupt⟩]⟩

theorem firstStop_severed : FirstStop brisk severed 1 (.signal .interrupt) :=
  ⟨by decide +kernel, by decide +kernel⟩

/-- The session over this feed looks completed, and its replay times out. -/
theorem replay_run_severed :
    (run brisk (.fresh none) severed).phase = .completed
      ∧ (run brisk (.fresh none) severed).echo.sink.taken = encode "t.c:1:a:PASS\nOK".toList
      ∧ (run brisk (.fresh none) ((Replay.start "log".toList
        (.items [.data (encode "t.c:1:a:PASS\nOK".toList)])).withChunk 3).feed).phase = .timedOut := by
  have hpoll : 0 < brisk.pollInterval.nanos := by decide
  have hrun := run_of_cut (.fresh none) hpoll firstStop_severed (by simp)
  have hgoing : (run brisk (.fresh none) severed).echo.failed = false := kept_run hpoll rfl severed
  have htaken : (run brisk (.fresh none) severed).echo.sink.taken
      = encode "t.c:1:a:PASS\nOK".toList := by
    rw [hrun]
    decide +kernel
  have hsignal : (halt brisk (.fresh none) severed).stop = .signal .interrupt := by
    rw [halt_of_firstStop (.fresh none) hpoll firstStop_severed]
    rfl
  have hcaptured : [] ∉ [encode "t.c:1:a:PASS\nOK".toList] := by decide
  have htimeout : 0 < brisk.timeout.nanos := by decide
  have hreplay := replay_run hpoll none severed hgoing hcaptured (htaken.symm ▸ rfl) htimeout hpoll
    (.fresh none) "log".toList 3
  obtain ⟨-, -, -, hcut⟩ := hreplay
  refine ⟨?_, htaken, (hcut (.inr ⟨_, hsignal⟩)).1⟩
  rw [hrun]
  decide +kernel

end Session

end TestWatch
