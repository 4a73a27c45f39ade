import TestWatch.Proofs.Session.Notices

/-!
# A session goes on without its echo

A sink that begins to fail is given up at once, and the session goes on as if it had not failed.

* `Refusal.echo` is what has become of the echo after some pieces, in closed form: the pieces that
  were taken, the calls that the sink got, and whether it was given up.  One more piece is passed on
  as it says (`Refusal.pass_echo`), and so are all pieces of a session (`echo_run`).
* `Session.muted` is a session without its echo and without what it told of it.  No step looks at
  either (`muted_receive`, `muted_leave`, `muted_flush`), so that sessions with different sinks are
  the same but for them.

`unaffected_run` puts both together.
-/

namespace TestWatch

open Text

/-! ## A sink that begins to fail -/

namespace Refusal

/-- The number of writes that go through before a failure is reported: one that fails does not, and
one whose flush fails does. -/
def writes (r : Refusal) : Nat :=
  match r.stage with
  | .write => r.after
  | .flush => r.after + 1

/-- The calls for the piece with which the failure is reported. -/
def lastCalls (r : Refusal) : List SinkStage :=
  match r.stage with
  | .write => [.write]
  | .flush => [.write, .flush]

/-- The calls for a number of pieces: a write and a flush for each piece before the failure, and the
calls up to the one that fails. -/
def calls (r : Refusal) (n : Nat) : List SinkStage :=
  (List.replicate (min r.after n) [SinkStage.write, .flush]).flatten
    ++ if r.after < n then r.lastCalls else []

/-- What has become of an echo after some pieces. -/
def echo (r : Refusal) (pieces : List Octets) : Echo where
  sink := {
    taken := (pieces.take r.writes).flatten
    writes := min r.writes pieces.length
    calls := r.calls pieces.length
    refusal := some r }
  failed := r.after < pieces.length

variable (r : Refusal)

theorem echo_nil : r.echo [] = ⟨.fresh (some r), false⟩ := by
  simp [echo, calls, Sink.fresh]

theorem after_le_writes : r.after ≤ r.writes := by
  unfold writes
  cases r.stage
  · exact Nat.le_refl _
  · exact Nat.le_succ _

theorem writes_le : r.writes ≤ r.after + 1 := by
  unfold writes
  cases r.stage
  · exact Nat.le_succ _
  · exact Nat.le_refl _

/-- An echo that was given up is left alone. -/
theorem echo_of_lt {pieces : List Octets} (h : r.after < pieces.length) (piece : Octets) :
    r.echo (pieces ++ [piece]) = r.echo pieces := by
  have hwrites : r.writes ≤ pieces.length := r.writes_le.trans h
  have hlength : (pieces ++ [piece]).length = pieces.length + 1 := List.length_append
  have hlater : r.after < pieces.length + 1 := Nat.lt_succ_of_lt h
  have hcalls : r.calls (pieces.length + 1) = r.calls pieces.length := by
    rw [calls, calls, Nat.min_eq_left (Nat.le_of_lt h), Nat.min_eq_left (Nat.le_of_lt hlater),
      if_pos h, if_pos hlater]
  rw [echo, echo, hlength, hcalls, List.take_append_of_le_length hwrites, Nat.min_eq_left hwrites,
    Nat.min_eq_left (Nat.le_succ_of_le hwrites), decide_eq_true h, decide_eq_true hlater]

/-- Up to the failure all pieces are taken. -/
theorem echo_of_le {pieces : List Octets} (h : pieces.length ≤ r.after) : r.echo pieces = ⟨{
      taken := pieces.flatten
      writes := pieces.length
      calls := (List.replicate pieces.length [SinkStage.write, .flush]).flatten
      refusal := some r }, false⟩ := by
  have hwrites : pieces.length ≤ r.writes := h.trans r.after_le_writes
  have hgoing : ¬r.after < pieces.length := Nat.not_lt.2 h
  rw [echo, calls, List.take_of_length_le hwrites, Nat.min_eq_right hwrites, Nat.min_eq_right h,
    if_neg hgoing, decide_eq_false hgoing, List.append_nil]

/-- A piece before the failure is written and flushed. -/
theorem put_of_lt {sink : Sink} (hrefusal : sink.refusal = some r) (h : sink.writes < r.after)
    (piece : Octets) : sink.put piece = ({ sink with
      taken := sink.taken ++ piece
      writes := sink.writes + 1
      calls := sink.calls ++ [.write, .flush] }, none) := by
  have hwrite : ¬r.after < sink.writes + 1 := by omega
  simp [Sink.put, Sink.faultAt, hrefusal, hwrite]

/-- The piece with which the failure is reported. -/
theorem put_of_eq {sink : Sink} (hrefusal : sink.refusal = some r) (h : sink.writes = r.after)
    (piece : Octets) : sink.put piece = ({ sink with
      taken := if r.stage = .write then sink.taken else sink.taken ++ piece
      writes := if r.stage = .write then sink.writes else sink.writes + 1
      calls := sink.calls ++ r.lastCalls }, some r.fault) := by
  cases hstage : r.stage <;> simp [Sink.put, Sink.faultAt, lastCalls, hrefusal, hstage, h]

/-- The echo with the piece that fails. -/
theorem echo_of_eq {pieces : List Octets} (h : pieces.length = r.after) (piece : Octets) :
    r.echo (pieces ++ [piece]) = ⟨{
      taken := if r.stage = .write then pieces.flatten else pieces.flatten ++ piece
      writes := if r.stage = .write then pieces.length else pieces.length + 1
      calls := (List.replicate pieces.length [SinkStage.write, .flush]).flatten ++ r.lastCalls
      refusal := some r }, true⟩ := by
  have hlength : (pieces ++ [piece]).length = pieces.length + 1 := List.length_append
  have hover : r.after < pieces.length + 1 := by omega
  have hmin : min r.after (pieces.length + 1) = pieces.length := by omega
  rw [echo, calls, hlength, hmin, if_pos hover, decide_eq_true hover]
  cases hstage : r.stage with
  | write => simp [writes, hstage, ← h]
  | flush =>
    have hall : (pieces ++ [piece]).take (pieces.length + 1) = pieces ++ [piece] :=
      List.take_of_length_le (Nat.le_of_eq hlength)
    simp [writes, hstage, ← h, hall]

/-- One more piece: the failure is reported if it comes just then. -/
theorem pass_echo (pieces : List Octets) (piece : Octets) : (r.echo pieces).pass piece
    = (r.echo (pieces ++ [piece]), if pieces.length = r.after then some r.fault else none) := by
  rcases Nat.lt_trichotomy r.after pieces.length with hafter | hafter | hafter
  · have hfailed : (r.echo pieces).failed = true := decide_eq_true hafter
    rw [r.echo_of_lt hafter, if_neg (Nat.ne_of_gt hafter), Echo.pass, if_pos hfailed]
  · rw [r.echo_of_le (Nat.le_of_eq hafter.symm), r.echo_of_eq hafter.symm, if_pos hafter.symm,
      Echo.pass, if_neg Bool.false_ne_true, r.put_of_eq rfl hafter.symm]
    rfl
  · have hnext : (pieces ++ [piece]).length ≤ r.after := by
      rw [List.length_append]
      exact hafter
    rw [r.echo_of_le (Nat.le_of_lt hafter), r.echo_of_le hnext, if_neg (Nat.ne_of_lt hafter),
      Echo.pass, if_neg Bool.false_ne_true, r.put_of_lt rfl hafter]
    simp [List.replicate_succ', List.flatten_append]

/-- The failure is reported once, with the piece that reaches it. -/
theorem faults_echo (pieces more : List Octets) : (r.echo pieces).faults more
    = if pieces.length ≤ r.after ∧ r.after < pieces.length + more.length then [r.fault] else [] := by
  induction more generalizing pieces with
  | nil =>
    rw [Echo.faults, if_neg]
    rintro ⟨hle, hlt⟩
    exact absurd hlt (Nat.not_lt.2 hle)
  | cons piece more ih =>
    rw [Echo.faults, pass_echo, ih]
    dsimp only
    rw [List.length_append, List.length_singleton, List.length_cons]
    by_cases hnow : pieces.length = r.after
    · rw [if_pos hnow, if_neg (by omega), if_pos (by omega)]
      rfl
    · rw [if_neg hnow, Option.toList_none, List.nil_append]
      have hiff : (pieces.length + 1 ≤ r.after ∧ r.after < pieces.length + 1 + more.length)
          ↔ (pieces.length ≤ r.after ∧ r.after < pieces.length + (more.length + 1)) := by omega
      rw [if_congr hiff rfl rfl]

end Refusal

namespace Session

/-! ## The echo of a session -/

/-- All pieces that a session receives are passed on. -/
theorem receiveAll_echo (r : Refusal) {s : Session} {before : List Octets}
    (h : s.echo = r.echo before) (pieces : List Octets) :
    (s.receiveAll pieces).echo = r.echo (before ++ pieces) := by
  induction pieces generalizing s before with
  | nil =>
    rw [List.append_nil]
    exact h
  | cons piece pieces ih =>
    have hnext : (s.receive piece).echo = r.echo (before ++ [piece]) := by
      rw [receive_echo, h, r.pass_echo]
    rw [List.append_cons]
    exact ih hnext

/-- At the end of a session its echo has been passed the pieces that were read. -/
theorem echo_run {timing : Timing} (hpoll : 0 < timing.pollInterval.nanos) (r : Refusal)
    (feed : Feed) : (run timing (.fresh (some r)) feed).echo
      = r.echo (feed.pieces (run timing (.fresh (some r)) feed).reads) := by
  obtain ⟨i, stop, h⟩ := exists_firstStop hpoll feed
  obtain ⟨reads, elapsed, interruption, hrun⟩ := exists_run_eq hpoll h
  have hopening : (opening timing (.fresh (some r)) feed).echo = r.echo [] := r.echo_nil.symm
  rw [hrun]
  show ((afterReads timing (.fresh (some r)) feed reads).leave timing (clockAt timing feed i)
    stop).flush.echo = r.echo (feed.pieces reads)
  rw [flush_echo, leave_echo, afterReads, receiveAll_echo r hopening, List.nil_append]

/-- What is told of the echo is its faults. -/
theorem faults_log_run {timing : Timing} (hpoll : 0 < timing.pollInterval.nanos) (sink : Sink)
    (feed : Feed) :
    ((run timing sink feed).journal.log.filter (·.opens NoticeKind.unechoed.heading)).Perm
      ((Echo.faults ⟨sink, false⟩ (feed.pieces (run timing sink feed).reads)).map fun fault =>
        (Notice.unechoed fault).entry) := by
  obtain ⟨i, stop, h⟩ := exists_firstStop hpoll feed
  have hlog := filter_log_run hpoll sink h .unechoed
  have hstop : (stop.notices timing).filter (·.kind == .unechoed) = [] := by cases stop <;> rfl
  rw [if_pos rfl, hstop, if_neg (by decide), List.append_nil, List.append_nil, List.map_map] at hlog
  exact hlog

/-- The failure of the echo is told once if the pieces that were read reach it, and not at all
otherwise. -/
theorem unechoed_log_run {timing : Timing} (hpoll : 0 < timing.pollInterval.nanos) (r : Refusal)
    (feed : Feed) :
    (run timing (.fresh (some r)) feed).journal.log.filter (·.opens NoticeKind.unechoed.heading)
      = if r.after < (feed.pieces (run timing (.fresh (some r)) feed).reads).length
        then [(Notice.unechoed r.fault).entry] else [] := by
  have hlog := faults_log_run hpoll (.fresh (some r)) feed
  have hiff : (([] : List Octets).length ≤ r.after ∧ r.after < ([] : List Octets).length
      + (feed.pieces (run timing (.fresh (some r)) feed).reads).length)
        ↔ r.after < (feed.pieces (run timing (.fresh (some r)) feed).reads).length := by simp
  rw [← r.echo_nil, r.faults_echo, if_congr hiff rfl rfl] at hlog
  split
  · rename_i hreached
    rw [if_pos hreached] at hlog
    exact List.perm_singleton.1 hlog
  · rename_i hreached
    rw [if_neg hreached] at hlog
    exact hlog.eq_nil

/-! ## A session without its echo -/

end Session

/-- Whether an entry tells that the echo failed. -/
def Entry.tellsUnechoed (entry : Entry) : Bool :=
  entry.level.detail ≤ Level.info.detail && entry.opens NoticeKind.unechoed.heading

theorem Journal.filter_tellsUnechoed (journal : Journal) :
    journal.filter Entry.tellsUnechoed
      = journal.log.filter (·.opens NoticeKind.unechoed.heading) := by
  rw [Journal.log, Journal.upTo, List.filter_filter]
  refine List.filter_congr fun entry _ => ?_
  rw [Entry.tellsUnechoed, Bool.and_comm]

namespace Session

/-- A session that has given up its echo, and has not told of it. -/
def muted (s : Session) : Session := { s with
  echo := ⟨.fresh none, true⟩
  journal := s.journal.filter fun entry => !entry.tellsUnechoed }

variable {s : Session}

theorem muted_note {level : Level} {text : Text}
    (h : Entry.tellsUnechoed ⟨level, .monitoring, text⟩ = false) :
    (s.note level text).muted = s.muted.note level text := by
  simp [muted, note, h]

theorem muted_takeEvent (event : Event) : (s.takeEvent event).muted = s.muted.takeEvent event := by
  cases hfires : s.progress.fires? event with
  | none =>
    have hmuted : s.muted.progress.fires? event = none := hfires
    rw [takeEvent, takeEvent, hfires, hmuted]
    rfl
  | some trigger =>
    have hmuted : s.muted.progress.fires? event = some trigger := hfires
    rw [takeEvent, takeEvent, hfires, hmuted]
    exact muted_note rfl

theorem muted_takeLine (line : Text) : (s.takeLine line).muted = s.muted.takeLine line := by
  rw [takeLine, takeLine, muted_takeEvent, muted_note rfl]

theorem muted_takeLines (lines : List Text) :
    (s.takeLines lines).muted = s.muted.takeLines lines := by
  induction lines generalizing s with
  | nil => rfl
  | cons line lines ih =>
    refine (ih (s := s.takeLine line)).trans ?_
    rw [muted_takeLine]
    rfl

/-- Passing octets on changes nothing but the echo and what is told of it. -/
theorem muted_passOn (octets : Octets) : (s.passOn octets).muted = s.muted := by
  unfold passOn
  dsimp only
  cases (s.echo.pass octets).2 with
  | none => rfl
  | some fault =>
    have htells : (Notice.unechoed fault).entry.tellsUnechoed = true := rfl
    show ({ s with
      echo := (s.echo.pass octets).1
      journal := s.journal ++ [(Notice.unechoed fault).entry] } : Session).muted = s.muted
    simp [muted, htells]

theorem passOn_muted (octets : Octets) : s.muted.passOn octets = s.muted := by
  rw [passOn, muted, Echo.pass, if_pos rfl]

theorem muted_receive (octets : Octets) : (s.receive octets).muted = s.muted.receive octets := by
  have hlines : ({ s.passOn octets with lines := (s.lines.push octets).2 } : Session).muted
      = { (s.passOn octets).muted with lines := (s.lines.push octets).2 } := rfl
  rw [receive_eq, receive_eq, muted_takeLines, hlines, muted_passOn, passOn_muted]
  rfl

theorem muted_receiveAll (pieces : List Octets) :
    (s.receiveAll pieces).muted = s.muted.receiveAll pieces := by
  induction pieces generalizing s with
  | nil => rfl
  | cons piece pieces ih =>
    refine (ih (s := s.receive piece)).trans ?_
    rw [muted_receive]
    rfl

theorem muted_leave (timing : Timing) (now : Nat) (stop : Stop) :
    (s.leave timing now stop).muted = s.muted.leave timing now stop := by
  cases stop with
  | deadline => exact muted_note rfl
  | completed => rfl
  | fault cause => rfl
  | signal request => exact muted_note rfl

theorem muted_flush : s.flush.muted = s.muted.flush := by
  have hlines : s.muted.lines = s.lines := rfl
  unfold flush LineBuffer.flush
  rw [hlines]
  cases s.lines.lastLine with
  | none => rfl
  | some line =>
    dsimp only
    rw [muted_takeLine, muted_note rfl]
    rfl

/-- Sessions that are the same but for the echo have the same outcome but for it. -/
theorem finish_of_muted {t : Session} (h : s.muted = t.muted) (interruption : Option Interruption)
    (elapsed reads : Nat) (rest : List FeedStep) :
    s.finish interruption elapsed reads rest = { t.finish interruption elapsed reads rest with
        echo := s.flush.echo
        journal := s.flush.journal }
      ∧ s.flush.journal.filter (fun entry => !entry.tellsUnechoed)
        = t.flush.journal.filter fun entry => !entry.tellsUnechoed := by
  have hflush : s.flush.muted = t.flush.muted := by rw [muted_flush, muted_flush, h]
  obtain ⟨-, htally, hprogress, -, hjournal⟩ := Session.mk.inj hflush
  refine ⟨?_, hjournal⟩
  unfold finish
  dsimp only
  rw [hprogress, htally]

/-- Sessions over one feed that are given different sinks have the same outcome but for the echo. -/
theorem alike_but_echo {timing : Timing} (hpoll : 0 < timing.pollInterval.nanos) (sink sink' : Sink)
    (feed : Feed) :
    run timing sink feed = { run timing sink' feed with
        echo := (run timing sink feed).echo
        journal := (run timing sink feed).journal }
      ∧ (run timing sink feed).journal.filter (fun entry => !entry.tellsUnechoed)
        = (run timing sink' feed).journal.filter fun entry => !entry.tellsUnechoed := by
  obtain ⟨i, stop, h⟩ := exists_firstStop hpoll feed
  obtain ⟨reads, elapsed, interruption, hrun⟩ := exists_run_eq hpoll h
  have hopening : (opening timing sink feed).muted = (opening timing sink' feed).muted := rfl
  have hmuted : ((afterReads timing sink feed reads).leave timing (clockAt timing feed i) stop).muted
      = ((afterReads timing sink' feed reads).leave timing (clockAt timing feed i) stop).muted := by
    rw [muted_leave, muted_leave, afterReads, afterReads, muted_receiveAll, muted_receiveAll,
      hopening]
  rw [hrun sink, hrun sink']
  exact finish_of_muted hmuted interruption elapsed reads (feed.steps.drop reads)

/-! ## Sinks that fail and sinks that do not -/

/-- A sink that refuses nothing gives no faults. -/
theorem faults_of_kept {echo : Echo} (hfailed : echo.failed = false)
    (hrefusal : echo.sink.refusal = none) (pieces : List Octets) : echo.faults pieces = [] := by
  induction pieces generalizing echo with
  | nil => rfl
  | cons piece pieces ih =>
    obtain ⟨hkept, hsame⟩ := Echo.kept_pass hfailed hrefusal piece
    have hnone : (echo.pass piece).2 = none := by
      simp [Echo.pass, hfailed, Sink.put, Sink.faultAt, hrefusal]
    rw [Echo.faults, ih hkept hsame, hnone]
    rfl

/-- A session whose sink refuses nothing tells nothing of its echo. -/
theorem filter_journal_of_kept {timing : Timing} (hpoll : 0 < timing.pollInterval.nanos)
    (feed : Feed) :
    (run timing (.fresh none) feed).journal.filter (fun entry => !entry.tellsUnechoed)
      = (run timing (.fresh none) feed).journal := by
  have hlog := faults_log_run hpoll (.fresh none) feed
  have hfaults : Echo.faults ⟨.fresh none, false⟩
      (feed.pieces (run timing (.fresh none) feed).reads) = [] := faults_of_kept rfl rfl _
  rw [hfaults, ← Journal.filter_tellsUnechoed] at hlog
  have hnone := hlog.eq_nil
  rw [List.filter_eq_nil_iff] at hnone
  exact List.filter_eq_self.2 fun entry hmem => by simpa using hnone entry hmem

/-- **A sink that fails never influences the session.**  Against the session whose sink refuses
nothing, only the echo and the journal differ, and the journal only by what is told of the echo.  The
sink took the pieces that it was passed up to the failure, it was asked for nothing after that, and
the failure was told once if the session read as many pieces, and not at all otherwise. -/
theorem unaffected_run {timing : Timing} (hpoll : 0 < timing.pollInterval.nanos)
    (refusal : Refusal) (feed : Feed) :
    let o := run timing (.fresh (some refusal)) feed
    let kept := run timing (.fresh none) feed
    let pieces := feed.pieces o.reads
    o = { kept with echo := o.echo, journal := o.journal }
      ∧ o.journal.filter (fun entry => !entry.tellsUnechoed) = kept.journal
      ∧ o.echo.failed = decide (refusal.after < pieces.length)
      ∧ o.echo.sink.writes = min refusal.writes pieces.length
      ∧ o.echo.sink.taken = (pieces.take o.echo.sink.writes).flatten
      ∧ o.echo.sink.calls = refusal.calls pieces.length
      ∧ o.journal.filter Entry.tellsUnechoed
        = if refusal.after < pieces.length then [(Notice.unechoed refusal.fault).entry] else [] := by
  intro o kept pieces
  obtain ⟨hsame, hjournal⟩ := alike_but_echo hpoll (.fresh (some refusal)) (.fresh none) feed
  have hecho : o.echo = refusal.echo pieces := echo_run hpoll refusal feed
  have htaken : (pieces.take (min refusal.writes pieces.length)).flatten
      = (pieces.take refusal.writes).flatten := by
    rw [← List.take_take, List.take_length]
  refine ⟨hsame, hjournal.trans (filter_journal_of_kept hpoll feed), ?_, ?_, ?_, ?_, ?_⟩
  · rw [hecho]
    rfl
  · rw [hecho]
    rfl
  · rw [hecho]
    exact htaken.symm
  · rw [hecho]
    rfl
  · rw [Journal.filter_tellsUnechoed]
    exact unechoed_log_run hpoll refusal feed

/-- The flush after the second piece fails: the sink has both pieces, and the session goes on to
count the line that comes in the drain. -/
theorem unaffected_run_straddling :
    let refusal : Refusal := ⟨.flush, 1, FaultKind.brokenPipe.fault⟩
    let o := run brisk (.fresh (some refusal)) straddling
    o.phase = (run brisk (.fresh none) straddling).phase
      ∧ o.tally = (run brisk (.fresh none) straddling).tally
      ∧ o.echo.sink.taken = encode "t.c:1:a:PASS\r\nOK\nt.c:2:b:FA".toList
      ∧ o.echo.sink.calls = [.write, .flush, .write, .flush]
      ∧ o.journal.filter Entry.tellsUnechoed
        = [(Notice.unechoed FaultKind.brokenPipe.fault).entry] := by
  intro refusal o
  have hpoll : 0 < brisk.pollInterval.nanos := by decide
  obtain ⟨hsame, -, -, hwrites, htaken, hcalls, htold⟩ := unaffected_run hpoll refusal straddling
  rw [hwrites, reads_run_straddling] at htaken
  rw [reads_run_straddling] at hcalls htold
  obtain ⟨hphase, -, htally, -⟩ := Outcome.mk.inj hsame
  refine ⟨hphase, htally, htaken.trans ?_, hcalls.trans ?_, htold.trans ?_⟩
  all_goals decide +kernel

end Session

end TestWatch
