import TestWatch.Proofs.Session.Ending

/-!
# What a session tells

At its usual level of detail a session tells four things: which trigger it detected, that the time
was over before, which signal stops it, and that its echo failed.  `NoticeKind` has one constructor
for each, and `Notice.entry_opens` says that their headings tell them apart.

`Session.Tells` is what is kept from step to step: the session has told its trigger, if it has one,
and some other notices.  One step each says which notices come to the others; `log_run` puts
them together: a whole session tells its trigger, why it left its loop, and the faults of its echo,
and nothing else.
-/

namespace TestWatch

open Text

/-! ## Notices -/

/-- The kinds of notices that a session gives at its usual level of detail. -/
inductive NoticeKind where
  /-- A trigger was detected. -/
  | detected
  /-- The time was over before the run had completed. -/
  | overdue
  /-- A signal stops the session. -/
  | stopping
  /-- The echo failed and is given up. -/
  | unechoed
  deriving DecidableEq, Repr

/-- The words that a notice of a kind opens with. -/
def NoticeKind.heading : NoticeKind → Text
  | detected => "detected ".toList
  | overdue => "no completion detected within ".toList
  | stopping => "received ".toList
  | unechoed => "failed to echo device output, continuing without it: ".toList

/-- How much a notice of a kind matters. -/
def NoticeKind.level : NoticeKind → Level
  | detected => .info
  | overdue | stopping | unechoed => .warn

/-- A notice: its kind, and the words that follow its heading. -/
structure Notice where
  /-- The kind. -/
  kind : NoticeKind
  /-- The words. -/
  words : Text
  deriving DecidableEq, Repr

/-- Whether an entry opens with a heading. -/
def Entry.opens (entry : Entry) (heading : Text) : Bool := heading.isPrefixOf entry.text

/-- The entries that the usual level of detail shows. -/
def Journal.log (journal : Journal) : Journal := journal.upTo .info

theorem Journal.log_append (a b : Journal) : Journal.log (a ++ b) = a.log ++ b.log :=
  List.filter_append _ _

namespace Notice

/-- A trigger was detected. -/
def detected (trigger : Trigger) : Notice := ⟨.detected, trigger.wording⟩

/-- The time was over. -/
def overdue (timeout : TimeSpan) : Notice := ⟨.overdue, timeout.written⟩

/-- A signal stops the session. -/
def stopping (signal : StopSignal) : Notice := ⟨.stopping, signal.wording ++ ", stopping".toList⟩

/-- The echo failed. -/
def unechoed (fault : Fault) : Notice := ⟨.unechoed, fault.text⟩

/-- The entry of a notice. -/
def entry (notice : Notice) : Entry :=
  ⟨notice.kind.level, .monitoring, notice.kind.heading ++ notice.words⟩

/-- A notice opens with the heading of its own kind and with no other. -/
theorem entry_opens (notice : Notice) (kind : NoticeKind) :
    notice.entry.opens kind.heading = (notice.kind == kind) := by
  obtain ⟨own, words⟩ := notice
  cases own <;> cases kind <;> rfl

/-- The usual level of detail shows every notice. -/
theorem log_entry (notice : Notice) : Journal.log [notice.entry] = [notice.entry] := by
  obtain ⟨kind, words⟩ := notice
  cases kind <;> rfl

/-- The entries under a heading are those of the notices of its kind. -/
theorem filter_opens (notices : List Notice) (kind : NoticeKind) :
    (notices.map entry).filter (·.opens kind.heading)
      = (notices.filter (·.kind == kind)).map entry := by
  rw [List.filter_map]
  congr 1
  exact List.filter_congr fun notice _ => entry_opens notice kind

/-- Of notices that are all of one kind, those of a kind are all or none. -/
theorem filter_kind {α : Type} (make : α → Notice) (own : NoticeKind)
    (h : ∀ a, (make a).kind = own) (kind : NoticeKind) (as : List α) :
    (as.map make).filter (·.kind == kind) = if own = kind then as.map make else [] := by
  split
  · rename_i hkind
    refine List.filter_eq_self.2 fun notice hmem => ?_
    obtain ⟨a, -, rfl⟩ := List.mem_map.1 hmem
    rw [h a, hkind, beq_self_eq_true]
  · rename_i hkind
    refine List.filter_eq_nil_iff.2 fun notice hmem => ?_
    obtain ⟨a, -, rfl⟩ := List.mem_map.1 hmem
    rw [h a, beq_iff_eq]
    exact hkind

theorem filter_unechoed (kind : NoticeKind) (faults : List Fault) :
    (faults.map unechoed).filter (·.kind == kind)
      = if .unechoed = kind then faults.map unechoed else [] :=
  filter_kind unechoed .unechoed (fun _ => rfl) kind faults

theorem filter_detected (kind : NoticeKind) (triggers : List Trigger) :
    (triggers.map detected).filter (·.kind == kind)
      = if .detected = kind then triggers.map detected else [] :=
  filter_kind detected .detected (fun _ => rfl) kind triggers

end Notice

/-! ## The faults of an echo -/

/-- The faults that come up while some pieces are passed on. -/
def Echo.faults (echo : Echo) : List Octets → List Fault
  | [] => []
  | piece :: pieces => (echo.pass piece).2.toList ++ (echo.pass piece).1.faults pieces

namespace Session

variable {s : Session} {others : List Notice}

/-! ## What each step tells -/

/-- A session has told its trigger, if it has one, and some other notices, in whatever order. -/
structure Tells (s : Session) (others : List Notice) : Prop where
  /-- These are the entries of its journal. -/
  log : s.journal.log.Perm
    ((others ++ s.progress.trigger.toList.map Notice.detected).map Notice.entry)
  /-- While the run goes on there is no trigger. -/
  running : s.progress.phase.isTerminal = false → s.progress.trigger = none

theorem tells_opening (timing : Timing) (sink : Sink) (feed : Feed) :
    (opening timing sink feed).Tells [] :=
  ⟨.refl [], fun _ => rfl⟩

/-- A detail is not shown. -/
theorem Tells.note_debug (h : s.Tells others) (text : Text) : (s.note .debug text).Tells others := by
  refine ⟨?_, h.running⟩
  have hlog : (s.note .debug text).journal.log = s.journal.log := by
    rw [note, Journal.log_append]
    exact List.append_nil _
  rw [hlog]
  exact h.log

/-- Another notice comes to the others. -/
theorem Tells.note_notice (h : s.Tells others) (notice : Notice) :
    ({ s with journal := s.journal ++ [notice.entry] } : Session).Tells (others ++ [notice]) := by
  refine ⟨?_, h.running⟩
  show (Journal.log (s.journal ++ [notice.entry])).Perm _
  rw [Journal.log_append, notice.log_entry, List.append_assoc, List.map_append, List.map_append]
  have hlog := h.log
  rw [List.map_append] at hlog
  -- the new entry is the last one of the journal, and stands before the trigger in the account
  refine (hlog.append_right _).trans ?_
  rw [List.append_assoc]
  exact List.perm_append_comm.append_left _

theorem Tells.takeEvent (h : s.Tells others) (event : Event) : (s.takeEvent event).Tells others := by
  cases hfires : s.progress.fires? event with
  | none =>
    have hprogress : s.progress.observe event = s.progress := by rw [Progress.observe, hfires]
    have htaken : s.takeEvent event = { s with tally := s.tally.apply event } := by
      rw [Session.takeEvent, hfires, hprogress]
    rw [htaken]
    exact ⟨h.log, h.running⟩
  | some trigger =>
    have hrunning : s.progress.phase.isTerminal = false := by
      by_contra hended
      rw [Progress.fires?, if_pos (by simpa using hended)] at hfires
      cases hfires
    have hlog := h.log
    rw [h.running hrunning] at hlog
    have hprogress : s.progress.observe event
        = { s.progress with phase := .completed, trigger := some trigger } := by
      rw [Progress.observe, hfires]
    have htaken : s.takeEvent event = ({ s with
        tally := s.tally.apply event
        progress := { s.progress with phase := .completed, trigger := some trigger }
        journal := s.journal ++ [(Notice.detected trigger).entry] } : Session) := by
      rw [Session.takeEvent, hfires, hprogress]
      rfl
    rw [htaken]
    refine ⟨?_, fun hgoing => by cases hgoing⟩
    show (Journal.log (s.journal ++ [(Notice.detected trigger).entry])).Perm _
    rw [Journal.log_append, Notice.log_entry, List.map_append]
    simpa using hlog.append_right _

theorem Tells.takeLine (h : s.Tells others) (line : Text) : (s.takeLine line).Tells others :=
  (h.note_debug _).takeEvent _

theorem Tells.takeLines (h : s.Tells others) (lines : List Text) :
    (s.takeLines lines).Tells others := by
  induction lines generalizing s with
  | nil => exact h
  | cons line lines ih => exact ih (h.takeLine line)

theorem Tells.passOn (h : s.Tells others) (octets : Octets) :
    (s.passOn octets).Tells (others ++ (s.echo.pass octets).2.toList.map Notice.unechoed) := by
  unfold Session.passOn
  dsimp only
  cases (s.echo.pass octets).2 with
  | none =>
    rw [Option.toList_none, List.map_nil, List.append_nil]
    exact ⟨h.log, h.running⟩
  | some fault =>
    have hnote := h.note_notice (.unechoed fault)
    exact ⟨hnote.log, hnote.running⟩

theorem Tells.receive (h : s.Tells others) (octets : Octets) :
    (s.receive octets).Tells (others ++ (s.echo.pass octets).2.toList.map Notice.unechoed) := by
  have hechoed := h.passOn octets
  have hready : ({ s.passOn octets with lines := (s.lines.push octets).2 } : Session).Tells
      (others ++ (s.echo.pass octets).2.toList.map Notice.unechoed) :=
    ⟨hechoed.log, hechoed.running⟩
  rw [receive_eq]
  exact hready.takeLines _

theorem Tells.receiveAll (h : s.Tells others) (pieces : List Octets) :
    (s.receiveAll pieces).Tells (others ++ (s.echo.faults pieces).map Notice.unechoed) := by
  induction pieces generalizing s others with
  | nil =>
    rw [Echo.faults, List.map_nil, List.append_nil]
    exact h
  | cons piece pieces ih =>
    have hrest := ih (h.receive piece)
    rw [receive_echo] at hrest
    rw [Echo.faults, List.map_append, ← List.append_assoc]
    exact hrest

/-- What a session tells as it leaves its loop. -/
def Stop.notices (timing : Timing) : Stop → List Notice
  | .deadline => [.overdue timing.timeout]
  | .signal request => [.stopping request]
  | .completed | .fault _ => []

theorem Tells.leave (h : s.Tells others) (timing : Timing) (now : Nat) (stop : Stop) :
    (s.leave timing now stop).Tells (others ++ stop.notices timing) := by
  cases stop with
  | completed =>
    rw [Stop.notices, List.append_nil]
    exact h
  | fault cause =>
    rw [Stop.notices, List.append_nil]
    exact h
  | signal request =>
    have hentry : (Notice.stopping request).entry = ⟨.warn, .monitoring,
        "received ".toList ++ request.wording ++ ", stopping".toList⟩ := by
      rw [List.append_assoc]
      rfl
    have hnote := h.note_notice (.stopping request)
    rw [hentry] at hnote
    exact hnote
  | deadline =>
    have hentry : (Notice.overdue timing.timeout).entry = ⟨.warn, .monitoring,
        "no completion detected within ".toList ++ timing.timeout.written⟩ := rfl
    have hlate : ({ s with progress := s.progress.checkClock ⟨now⟩ } : Session).Tells others := by
      unfold Progress.checkClock
      split
      · exact ⟨h.log, fun hgoing => by cases hgoing⟩
      · exact h
    have hnote := hlate.note_notice (.overdue timing.timeout)
    rw [hentry] at hnote
    exact hnote

theorem Tells.flush (h : s.Tells others) : s.flush.Tells others := by
  unfold Session.flush LineBuffer.flush
  dsimp only
  cases s.lines.lastLine with
  | none => exact ⟨h.log, h.running⟩
  | some line =>
    have hready : ({ s with lines := .empty } : Session).Tells others := ⟨h.log, h.running⟩
    exact (hready.note_debug _).takeLine line

/-! ## The whole session -/

/-- A session tells the trigger that completed the run, if one did, why it left its loop, and the
faults of its echo. -/
theorem log_run {timing : Timing} {feed : Feed} {i : Nat} {stop : Stop}
    (hpoll : 0 < timing.pollInterval.nanos) (sink : Sink) (h : FirstStop timing feed i stop) :
    (run timing sink feed).journal.log.Perm
      (((Echo.faults ⟨sink, false⟩ (feed.pieces (run timing sink feed).reads)).map Notice.unechoed
        ++ stop.notices timing
        ++ (run timing sink feed).trigger.toList.map Notice.detected).map Notice.entry) := by
  obtain ⟨reads, elapsed, interruption, hrun⟩ := exists_run_eq hpoll h
  have hreceived := (tells_opening timing sink feed).receiveAll (feed.pieces reads)
  have hflushed := (hreceived.leave timing (clockAt timing feed i) stop).flush
  rw [hrun sink]
  exact hflushed.log

/-- The entries of the log under a heading: for each kind of notices one part of the account stays. -/
theorem filter_log_run {timing : Timing} {feed : Feed} {i : Nat} {stop : Stop}
    (hpoll : 0 < timing.pollInterval.nanos) (sink : Sink) (h : FirstStop timing feed i stop)
    (kind : NoticeKind) :
    ((run timing sink feed).journal.log.filter (·.opens kind.heading)).Perm
      (((if .unechoed = kind then
          (Echo.faults ⟨sink, false⟩ (feed.pieces (run timing sink feed).reads)).map Notice.unechoed
          else [])
        ++ (stop.notices timing).filter (·.kind == kind)
        ++ (if .detected = kind then (run timing sink feed).trigger.toList.map Notice.detected
          else [])).map Notice.entry) := by
  have hlog := (log_run hpoll sink h).filter (·.opens kind.heading)
  rw [Notice.filter_opens, List.filter_append, List.filter_append, Notice.filter_unechoed,
    Notice.filter_detected] at hlog
  exact hlog

end Session

end TestWatch
