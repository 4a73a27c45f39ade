import TestWatch.Proofs.LineBuffer.Segments
import TestWatch.Session

/-!
# What a session knows of the octets it received

A session receives octets in pieces.  Apart from its journal, what it knows afterwards depends on the
octets alone and not on how they were cut, as long as its sink takes them: `Session.Knows` says what
that is, one piece keeps it (`Knows.receive`), and so do all pieces one after the other
(`Knows.receiveAll`).

The line that no newline ended is counted by the flush at the end (`Knows.account`); it can move
the progress of a run only if nothing has ended the run before (`progress_flush_of_terminal`).
-/

namespace TestWatch

open Text

/-! ## Progress over several events -/

namespace Progress

/-- The progress of a run whose first trigger is known. -/
def after (timeout : TimeSpan) : Option Trigger → Progress
  | none => .start timeout
  | some trigger => ⟨timeout, .completed, some trigger⟩

/-- The run after some events, in order. -/
def observeAll (p : Progress) (events : List Event) : Progress := events.foldl observe p

theorem observeAll_of_terminal {p : Progress} (h : p.phase.isTerminal = true)
    (events : List Event) : p.observeAll events = p := by
  induction events with
  | nil => rfl
  | cons event events ih =>
    rw [observeAll, List.foldl_cons, observe_of_terminal h]
    exact ih

/-- The first trigger that is observed stays. -/
theorem observeAll_after (timeout : TimeSpan) (first : Option Trigger) (events : List Event) :
    (after timeout first).observeAll events
      = after timeout (first.or (events.findSome? Event.trigger?)) := by
  cases first with
  | some trigger => exact observeAll_of_terminal rfl events
  | none =>
    rw [Option.none_or]
    induction events with
    | nil => rfl
    | cons event events ih =>
      rw [observeAll, List.foldl_cons, List.findSome?_cons]
      cases h : event.trigger? with
      | none =>
        have hkeep : (after timeout none).observe event = after timeout none := by
          simp [observe, fires?, after, start, Phase.isTerminal, h]
        rw [hkeep]
        exact ih
      | some trigger =>
        have hmove : (after timeout none).observe event = after timeout (some trigger) := by
          simp [observe, fires?, after, start, Phase.isTerminal, h]
        rw [hmove]
        exact observeAll_of_terminal rfl events

/-- A run without a trigger times out once its time is over. -/
theorem checkClock_after_none {timeout elapsed : TimeSpan} (h : timeout.nanos ≤ elapsed.nanos) :
    (after timeout none).checkClock elapsed = ⟨timeout, .timedOut, none⟩ := by
  simp [checkClock, expires, after, start, Phase.isTerminal, h]

theorem phase_after_eq_completed_iff (timeout : TimeSpan) (first : Option Trigger) :
    (after timeout first).phase = .completed ↔ first.isSome = true := by
  cases first <;> simp [after, start]

end Progress

/-! ## The echo -/

namespace Echo

/-- A piece after which the echo goes on has been taken by the sink. -/
theorem taken_pass {echo : Echo} {piece : Octets} (h : (echo.pass piece).1.failed = false) :
    echo.failed = false ∧ (echo.pass piece).1.sink.taken = echo.sink.taken ++ piece := by
  unfold pass at h ⊢
  cases hfailed : echo.failed with
  | true => simp [hfailed] at h
  | false =>
    refine ⟨rfl, ?_⟩
    simp only [hfailed, Bool.false_eq_true, if_false] at h ⊢
    unfold Sink.put at h ⊢
    cases hfault : echo.sink.faultAt .write with
    | some fault => simp [hfault] at h
    | none => rfl

/-- A sink that refuses nothing is not given up. -/
theorem kept_pass {echo : Echo} (hfailed : echo.failed = false) (hrefusal : echo.sink.refusal = none)
    (piece : Octets) :
    (echo.pass piece).1.failed = false ∧ (echo.pass piece).1.sink.refusal = none := by
  simp only [pass, hfailed, Sink.put, Sink.faultAt, hrefusal]
  exact ⟨rfl, rfl⟩

end Echo

namespace Session

/-! ## Echo and lines -/

@[simp] theorem passOn_lines (s : Session) (octets : Octets) : (s.passOn octets).lines = s.lines := by
  unfold passOn; dsimp only; split <;> rfl

@[simp] theorem passOn_tally (s : Session) (octets : Octets) : (s.passOn octets).tally = s.tally := by
  unfold passOn; dsimp only; split <;> rfl

@[simp] theorem passOn_progress (s : Session) (octets : Octets) :
    (s.passOn octets).progress = s.progress := by
  unfold passOn; dsimp only; split <;> rfl

@[simp] theorem passOn_echo (s : Session) (octets : Octets) :
    (s.passOn octets).echo = (s.echo.pass octets).1 := by
  unfold passOn; dsimp only; split <;> rfl

@[simp] theorem takeLine_lines (s : Session) (line : Text) : (s.takeLine line).lines = s.lines := by
  unfold takeLine takeEvent; dsimp only; split <;> rfl

@[simp] theorem takeLine_echo (s : Session) (line : Text) : (s.takeLine line).echo = s.echo := by
  unfold takeLine takeEvent; dsimp only; split <;> rfl

@[simp] theorem takeLine_tally (s : Session) (line : Text) :
    (s.takeLine line).tally = s.tally.apply (Event.ofLine line) := by
  unfold takeLine takeEvent; dsimp only; split <;> rfl

@[simp] theorem takeLine_progress (s : Session) (line : Text) :
    (s.takeLine line).progress = s.progress.observe (Event.ofLine line) := by
  unfold takeLine takeEvent; dsimp only; split <;> rfl

/-- Takes some lines into account, in order. -/
def takeLines (s : Session) (lines : List Text) : Session := lines.foldl takeLine s

@[simp] theorem takeLines_lines (s : Session) (lines : List Text) :
    (s.takeLines lines).lines = s.lines := by
  induction lines generalizing s with
  | nil => rfl
  | cons line lines ih => exact (ih (s.takeLine line)).trans (takeLine_lines s line)

@[simp] theorem takeLines_echo (s : Session) (lines : List Text) :
    (s.takeLines lines).echo = s.echo := by
  induction lines generalizing s with
  | nil => rfl
  | cons line lines ih => exact (ih (s.takeLine line)).trans (takeLine_echo s line)

@[simp] theorem takeLines_tally (s : Session) (lines : List Text) :
    (s.takeLines lines).tally = s.tally.applyAll (eventsOf lines) := by
  induction lines generalizing s with
  | nil => rfl
  | cons line lines ih =>
    refine (ih (s.takeLine line)).trans ?_
    rw [takeLine_tally]
    rfl

@[simp] theorem takeLines_progress (s : Session) (lines : List Text) :
    (s.takeLines lines).progress = s.progress.observeAll (eventsOf lines) := by
  induction lines generalizing s with
  | nil => rfl
  | cons line lines ih =>
    refine (ih (s.takeLine line)).trans ?_
    rw [takeLine_progress]
    rfl

/-! ## Pieces -/

theorem receive_eq (s : Session) (octets : Octets) :
    s.receive octets
      = ({ s.passOn octets with lines := (s.lines.push octets).2 } : Session).takeLines
          (s.lines.push octets).1 := by
  rw [receive, passOn_lines]
  rfl

theorem receive_lines (s : Session) (octets : Octets) :
    (s.receive octets).lines = (s.lines.push octets).2 := by
  rw [receive_eq, takeLines_lines]

theorem receive_tally (s : Session) (octets : Octets) :
    (s.receive octets).tally = s.tally.applyAll (eventsOf (s.lines.push octets).1) := by
  simp only [receive_eq, takeLines_tally, passOn_tally]

theorem receive_progress (s : Session) (octets : Octets) :
    (s.receive octets).progress = s.progress.observeAll (eventsOf (s.lines.push octets).1) := by
  simp only [receive_eq, takeLines_progress, passOn_progress]

theorem receive_echo (s : Session) (octets : Octets) :
    (s.receive octets).echo = (s.echo.pass octets).1 := by
  rw [receive_eq, takeLines_echo]
  exact passOn_echo s octets

/-- Receives some pieces, in order. -/
def receiveAll (s : Session) (pieces : List Octets) : Session := pieces.foldl receive s

theorem receiveAll_append (s : Session) (a b : List Octets) :
    s.receiveAll (a ++ b) = (s.receiveAll a).receiveAll b := List.foldl_append

/-- What a session that has received some octets knows of them: the octets after the last newline
wait, the lines before it are counted, and the first of them that is a trigger has completed the
run.  All of them were echoed, unless the sink was given up. -/
structure Knows (s : Session) (timeout : TimeSpan) (sink : Sink) (bytes : Octets) : Prop where
  /-- What waits for its newline. -/
  lines : s.lines = ⟨lastSegment bytes⟩
  /-- What is counted. -/
  tally : s.tally = Tally.empty.applyAll (eventsOf (terminatedLines bytes))
  /-- Where the run stands. -/
  progress : s.progress = .after timeout (findTrigger (terminatedLines bytes))
  /-- What was echoed. -/
  taken : s.echo.failed = false → s.echo.sink.taken = sink.taken ++ bytes
  /-- A sink that refuses nothing is not given up. -/
  kept : sink.refusal = none → s.echo.failed = false ∧ s.echo.sink.refusal = none

variable {timeout : TimeSpan} {sink : Sink} {bytes : Octets}

theorem knows_opening (timing : Timing) (sink : Sink) (feed : Feed) :
    (opening timing sink feed).Knows timing.timeout sink [] :=
  ⟨rfl, rfl, rfl, fun _ => (List.append_nil _).symm, fun h => ⟨rfl, h⟩⟩

/-- Nothing that a session knows of the octets gets lost with the next piece. -/
theorem Knows.receive {s : Session} (h : s.Knows timeout sink bytes) (piece : Octets) :
    (s.receive piece).Knows timeout sink (bytes ++ piece) := by
  have hpush : s.lines.push piece = (terminatedLines (lastSegment bytes ++ piece),
      ⟨lastSegment (bytes ++ piece)⟩) := by
    rw [h.lines]
    exact push_lastSegment bytes piece
  have hevents : eventsOf (terminatedLines (bytes ++ piece)) = eventsOf (terminatedLines bytes)
      ++ eventsOf (terminatedLines (lastSegment bytes ++ piece)) := by
    rw [terminatedLines_append, eventsOf_append]
  have hfind : findTrigger (terminatedLines (bytes ++ piece))
      = (findTrigger (terminatedLines bytes)).or
        (findTrigger (terminatedLines (lastSegment bytes ++ piece))) := by
    rw [terminatedLines_append, findTrigger_append]
  constructor
  · rw [receive_lines, hpush]
  · rw [receive_tally, hpush, h.tally, hevents, Tally.applyAll_append]
  · rw [receive_progress, hpush, h.progress, hfind]
    exact Progress.observeAll_after timeout _ _
  · rw [receive_echo]
    intro hfailed
    obtain ⟨hgoing, htaken⟩ := Echo.taken_pass hfailed
    rw [htaken, h.taken hgoing, List.append_assoc]
  · rw [receive_echo]
    intro hrefusal
    obtain ⟨hgoing, hsink⟩ := h.kept hrefusal
    exact Echo.kept_pass hgoing hsink piece

theorem Knows.receiveAll {s : Session} (h : s.Knows timeout sink bytes) (pieces : List Octets) :
    (s.receiveAll pieces).Knows timeout sink (bytes ++ pieces.flatten) := by
  induction pieces generalizing s bytes with
  | nil => simpa [Session.receiveAll] using h
  | cons piece pieces ih =>
    rw [List.flatten_cons, ← List.append_assoc]
    exact ih (h.receive piece)

/-- The run has completed exactly if some line that a newline ended is a trigger. -/
theorem Knows.completed_iff {s : Session} (h : s.Knows timeout sink bytes) :
    s.progress.phase = .completed ↔ (findTrigger (terminatedLines bytes)).isSome = true := by
  rw [h.progress]
  exact Progress.phase_after_eq_completed_iff timeout _

/-! ## The end -/

@[simp] theorem leave_lines (timing : Timing) (now : Nat) (s : Session) (stop : Stop) :
    (s.leave timing now stop).lines = s.lines := by
  cases stop <;> rfl

@[simp] theorem leave_tally (timing : Timing) (now : Nat) (s : Session) (stop : Stop) :
    (s.leave timing now stop).tally = s.tally := by
  cases stop <;> rfl

theorem leave_progress (timing : Timing) (now : Nat) (s : Session) (stop : Stop) :
    (s.leave timing now stop).progress
      = if stop = .deadline then s.progress.checkClock ⟨now⟩ else s.progress := by
  cases stop <;> rfl

@[simp] theorem leave_echo (timing : Timing) (now : Nat) (s : Session) (stop : Stop) :
    (s.leave timing now stop).echo = s.echo := by
  cases stop <;> rfl

theorem flush_tally (s : Session) :
    s.flush.tally = s.tally.applyAll (eventsOf s.lines.lastLine.toList) := by
  unfold flush LineBuffer.flush
  cases s.lines.lastLine with
  | none => rfl
  | some line => exact takeLine_tally _ line

theorem flush_progress (s : Session) :
    s.flush.progress = s.progress.observeAll (eventsOf s.lines.lastLine.toList) := by
  unfold flush LineBuffer.flush
  cases s.lines.lastLine with
  | none => rfl
  | some line => exact takeLine_progress _ line

@[simp] theorem flush_echo (s : Session) : s.flush.echo = s.echo := by
  unfold flush LineBuffer.flush
  cases s.lines.lastLine with
  | none => rfl
  | some line => exact takeLine_echo _ line

/-- Once the run has ended, the flush does not move its progress. -/
theorem progress_flush_of_terminal {s : Session} (h : s.progress.phase.isTerminal = true) :
    s.flush.progress = s.progress := by
  rw [flush_progress, Progress.observeAll_of_terminal h]

/-- At the end every line is counted, and the one that no newline ended comes last; the octets were
echoed, unless the sink was given up. -/
theorem Knows.account {s : Session} (h : s.Knows timeout sink bytes) (timing : Timing) (now : Nat)
    (stop : Stop) :
    (s.leave timing now stop).flush.tally = Tally.empty.applyAll (eventsOf (textLines bytes))
      ∧ ((s.leave timing now stop).flush.echo.failed = false →
        (s.leave timing now stop).flush.echo.sink.taken = sink.taken ++ bytes)
      ∧ (sink.refusal = none → (s.leave timing now stop).flush.echo.failed = false) := by
  refine ⟨?_, ?_, ?_⟩
  · rw [flush_tally, leave_tally, leave_lines, h.tally, h.lines, lastLine_toList, textLines,
      eventsOf_append, Tally.applyAll_append]
  · rw [flush_echo, leave_echo]
    exact h.taken
  · rw [flush_echo, leave_echo]
    intro hrefusal
    exact (h.kept hrefusal).1

end Session

end TestWatch
