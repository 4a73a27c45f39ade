import TestWatch.Feed.Replay
import TestWatch.Proofs.Session.Course

/-!
# Sessions do not depend on how octets are cut

Two feeds that differ only in how the octets of some reads are cut lead to sessions that end alike.
A finer cut can move the moment at which the run completes: what follows the trigger in the same
piece is then read by the drain.  So two sessions are compared that stand side by side
(`Session.Alike`): one piece keeps them so however it is cut (`Alike.receive_append`), and what the
loop does with several pieces is to receive all of them, be it in the loop or in the drain
(`conclude_watch_pieces`).

`conclude_watch_alike` is the induction over the feeds.  Its two main cases are feeds in which a read
is cut further, and replays of one log with different limits on a read (`ends_alike`).
-/

namespace TestWatch

open Text

/-! ## Feeds that differ in their cuts -/

/-- Reads that bring some pieces, with no signal raised. -/
def quietSteps (pieces : List Octets) : List FeedStep :=
  pieces.map fun piece => (Read.data piece).quietly

/-- The steps of two feeds are the same but for the cuts in octets that are read without a signal. -/
inductive Recut : List FeedStep → List FeedStep → Prop
  | nil : Recut [] []
  | keep (step : FeedStep) {xs ys : List FeedStep} : Recut xs ys → Recut (step :: xs) (step :: ys)
  | cut {a b : List Octets} {xs ys : List FeedStep} (ha : [] ∉ a) (hb : [] ∉ b)
      (h : a.flatten = b.flatten) : Recut xs ys → Recut (quietSteps a ++ xs) (quietSteps b ++ ys)

theorem flatten_ne_nil {pieces : List Octets} (hne : pieces ≠ []) (hpieces : [] ∉ pieces) :
    pieces.flatten ≠ [] := by
  obtain ⟨piece, hmem⟩ := List.exists_mem_of_ne_nil pieces hne
  intro hflat
  have hempty := List.flatten_eq_nil_iff.1 hflat piece hmem
  exact hpieces (hempty ▸ hmem)

theorem Recut.refl (steps : List FeedStep) : Recut steps steps := by
  induction steps with
  | nil => exact .nil
  | cons step steps ih => exact .keep step ih

theorem Recut.append_left (steps : List FeedStep) {xs ys : List FeedStep} (h : Recut xs ys) :
    Recut (steps ++ xs) (steps ++ ys) := by
  induction steps with
  | nil => exact h
  | cons step steps ih => exact .keep step ih

namespace Replay

theorem flatten_pieces (limit : Nat) (octets : Octets) : (pieces limit octets).flatten = octets := by
  fun_induction pieces limit octets with
  | case1 octets h => rw [List.isEmpty_iff.1 h]; rfl
  | case2 octets h ih => rw [List.flatten_cons, ih, List.take_append_drop]

theorem nil_notMem_pieces (limit : Nat) (octets : Octets) : [] ∉ pieces limit octets := by
  fun_induction pieces limit octets with
  | case1 octets h => exact List.not_mem_nil
  | case2 octets h ih =>
    simp only [List.mem_cons, not_or]
    refine ⟨fun hempty => h ?_, ih⟩
    rw [eq_comm, List.take_eq_nil_iff] at hempty
    rcases hempty with hlimit | hnil
    · omega
    · rw [hnil]; rfl

/-- What two limits on a read make of one log differs in the cuts only. -/
theorem recut_readsOf (limit limit' : Nat) (items : List Read) :
    Recut ((readsOf limit items).map Read.quietly) ((readsOf limit' items).map Read.quietly) := by
  induction items with
  | nil => exact .nil
  | cons item items ih =>
    cases item with
    | data octets =>
      simp only [readsOf]
      split
      · exact .nil
      · simp only [List.map_append, List.map_map]
        exact .cut (nil_notMem_pieces _ _) (nil_notMem_pieces _ _)
          (by rw [flatten_pieces, flatten_pieces]) ih
    | fault fault =>
      simp only [readsOf]
      split
      · exact ih
      · exact .keep _ ih

theorem recut_feed (name : Text) (reader : LogReader) (chunk chunk' : Nat) :
    Recut ((start name reader).withChunk chunk).feed.steps
      ((start name reader).withChunk chunk').feed.steps := by
  cases reader with
  | items items => exact recut_readsOf (max chunk 1) (max chunk' 1) items
  | broken fault => exact Recut.refl _

end Replay

/-! ## Outcomes side by side -/

/-- Two sessions over one sink that ended alike. -/
structure Outcome.Alike (sink : Sink) (o o' : Outcome) : Prop where
  /-- The runs stand at the same point. -/
  phase : o.phase = o'.phase
  /-- The same trigger was seen. -/
  trigger : o.trigger = o'.trigger
  /-- The same was counted. -/
  tally : o.tally = o'.tally
  /-- The same cut the sessions short. -/
  interruption : o.interruption = o'.interruption
  /-- They took the same time. -/
  elapsed : o.elapsed = o'.elapsed
  /-- The same was echoed, unless the sink was given up. -/
  taken : o.echo.failed = false → o'.echo.failed = false → o.echo.sink.taken = o'.echo.sink.taken
  /-- A sink that refuses nothing was not given up. -/
  kept : sink.refusal = none → o.echo.failed = false ∧ o'.echo.failed = false

namespace Session

variable {timing : Timing} {sink : Sink} {bytes : Octets} {s s' : Session} {source : Text}

/-- Sessions that know the same octets and leave the loop in the same way end alike. -/
theorem Knows.finish_alike (h : s.Knows timing.timeout sink bytes)
    (h' : s'.Knows timing.timeout sink bytes) (now : Nat) (stop : Stop)
    (interruption : Option Interruption) (elapsed reads reads' : Nat) (rest rest' : List FeedStep) :
    Outcome.Alike sink ((s.leave timing now stop).finish interruption elapsed reads rest)
      ((s'.leave timing now stop).finish interruption elapsed reads' rest') := by
  obtain ⟨htally, htaken, hkept⟩ := h.account timing now stop
  obtain ⟨htally', htaken', hkept'⟩ := h'.account timing now stop
  have hprogress : (s.leave timing now stop).flush.progress
      = (s'.leave timing now stop).flush.progress := by
    simp only [flush_progress, leave_progress, leave_lines, h.progress, h'.progress, h.lines, h'.lines]
  exact {
    phase := congrArg Progress.phase hprogress
    trigger := congrArg Progress.trigger hprogress
    tally := htally.trans htally'.symm
    interruption := rfl
    elapsed := rfl
    taken := fun hgoing hgoing' => (htaken hgoing).trans (htaken' hgoing').symm
    kept := fun hrefusal => ⟨hkept hrefusal, hkept' hrefusal⟩ }

/-! ## The drain -/

/-- The drain takes in all pieces that stand before the rest of a feed. -/
theorem drain_pieces {pieces : List Octets} (hpieces : [] ∉ pieces) (rest : List FeedStep)
    (reads : Nat) (s : Session) : drain reads s (quietSteps pieces ++ rest)
      = drain (reads + pieces.length) (s.receiveAll pieces) rest := by
  induction pieces generalizing reads s with
  | nil => rfl
  | cons piece pieces ih =>
    simp only [List.mem_cons, not_or] at hpieces
    obtain ⟨hpiece, hpieces⟩ := hpieces
    have hdata : piece.isEmpty = false := by simpa using Ne.symm hpiece
    have hstep : drain reads s (quietSteps (piece :: pieces) ++ rest)
        = drain (reads + 1) (s.receive piece) (quietSteps pieces ++ rest) := by
      simp [quietSteps, drain, Read.quietly, hdata]
    rw [hstep, ih hpieces, List.length_cons, Nat.add_assoc, Nat.add_comm 1]
    rfl

/-- Two drains over the same octets meet the same fault and know the same afterwards. -/
theorem drain_alike {xs ys : List FeedStep} (h : Recut xs ys) (reads reads' : Nat)
    (hs : s.Knows timing.timeout sink bytes) (hs' : s'.Knows timing.timeout sink bytes) :
    (drain reads s xs).fault = (drain reads' s' ys).fault
      ∧ ∃ all, (drain reads s xs).session.Knows timing.timeout sink all
        ∧ (drain reads' s' ys).session.Knows timing.timeout sink all := by
  induction h generalizing reads reads' s s' bytes with
  | nil => exact ⟨rfl, bytes, hs, hs'⟩
  | keep step _ ih =>
    rw [drain, drain]
    cases step.read with
    | fault fault => exact ⟨rfl, bytes, hs, hs'⟩
    | data octets =>
      dsimp only
      split
      · exact ⟨rfl, bytes, hs, hs'⟩
      · exact ih _ _ (hs.receive octets) (hs'.receive octets)
  | @cut a b _ _ ha hb hab _ ih =>
    rw [drain_pieces ha, drain_pieces hb]
    have hnext := hs'.receiveAll b
    rw [← hab] at hnext
    exact ih _ _ (hs.receiveAll a) hnext

theorem conclude_completed_alike {xs ys : List FeedStep} (h : Recut xs ys) (now reads reads' : Nat)
    (hs : s.Knows timing.timeout sink bytes) (hs' : s'.Knows timing.timeout sink bytes) :
    Outcome.Alike sink (conclude timing source ⟨.completed, now, reads, s, xs⟩)
      (conclude timing source ⟨.completed, now, reads', s', ys⟩) := by
  obtain ⟨hfault, all, hknows, hknows'⟩ := drain_alike h reads reads' hs hs'
  simp only [conclude, hfault]
  exact hknows.finish_alike hknows' now .completed _ _ _ _ _ _

/-! ## The loop -/

theorem lt_nextPoll {now : Nat} (hnow : now < timing.timeout.nanos) : now < nextPoll timing now := by
  unfold nextPoll
  split
  · exact hnow
  · rename_i hzero
    have hpoll : timing.pollInterval.nanos ≠ 0 := by simpa [TimeSpan.isZero] using hzero
    omega

theorem receiveAll_completed (h : s.progress.phase = .completed) (pieces : List Octets) :
    (s.receiveAll pieces).progress.phase = .completed := by
  induction pieces generalizing s with
  | nil => exact h
  | cons piece pieces ih =>
    refine ih (s := s.receive piece) ?_
    rw [receive_progress, Progress.observeAll_of_terminal (by rw [h]; rfl), h]

/-- The outcome of a session that has taken in a piece in time: it leaves the loop if this completed
the run, and goes on otherwise. -/
def resume (timing : Timing) (source : Text) (now reads : Nat) (s : Session)
    (steps : List FeedStep) : Outcome :=
  if s.progress.phase = .completed then conclude timing source ⟨.completed, now, reads, s, steps⟩
  else conclude timing source (watch timing now reads s steps)

theorem conclude_watch_piece {now : Nat} (hnow : now < timing.timeout.nanos) (source : Text)
    {piece : Octets} (hpiece : piece ≠ []) (reads : Nat) (s : Session) (steps : List FeedStep) :
    conclude timing source (watch timing now reads s ((Read.data piece).quietly :: steps))
      = resume timing source now (reads + 1) (s.receive piece) steps := by
  rw [watch.eq_def, if_neg (Nat.not_le.2 hnow)]
  by_cases hphase : (s.receive piece).progress.phase = .completed
  · simp [resume, Read.quietly, hpiece, hphase, leave]
  · simp [resume, Read.quietly, hpiece, hphase]

/-- Of the pieces that stand before the rest of a feed all are taken in: those after the one that
completes the run are left to the drain. -/
theorem resume_pieces {now : Nat} (hnow : now < timing.timeout.nanos) (source : Text)
    {pieces : List Octets} (hpieces : [] ∉ pieces) (rest : List FeedStep) (reads : Nat)
    (s : Session) : resume timing source now reads s (quietSteps pieces ++ rest)
      = resume timing source now (reads + pieces.length) (s.receiveAll pieces) rest := by
  induction pieces generalizing reads s with
  | nil => rfl
  | cons piece pieces ih =>
    by_cases hphase : s.progress.phase = .completed
    · rw [resume, resume, if_pos hphase, if_pos (receiveAll_completed hphase _), conclude, conclude]
      dsimp only
      rw [drain_pieces hpieces]
    · obtain ⟨hpiece, hpieces⟩ := not_or.1 (mt List.mem_cons.2 hpieces)
      calc resume timing source now reads s (quietSteps (piece :: pieces) ++ rest)
          = conclude timing source (watch timing now reads s
              ((Read.data piece).quietly :: (quietSteps pieces ++ rest))) := if_neg hphase
        _ = resume timing source now (reads + 1) (s.receive piece) (quietSteps pieces ++ rest) :=
            conclude_watch_piece hnow source (Ne.symm hpiece) reads s _
        _ = resume timing source now (reads + 1 + pieces.length) (s.receiveAll (piece :: pieces))
              rest := ih hpieces (reads + 1) (s.receive piece)
        _ = _ := by rw [List.length_cons, Nat.add_assoc, Nat.add_comm 1]

theorem conclude_watch_pieces {now : Nat} (hnow : now < timing.timeout.nanos) (source : Text)
    {piece : Octets} {pieces : List Octets} (hpieces : [] ∉ piece :: pieces)
    (rest : List FeedStep) (reads : Nat) (s : Session) :
    conclude timing source (watch timing now reads s (quietSteps (piece :: pieces) ++ rest))
      = resume timing source now (reads + 1 + pieces.length) (s.receiveAll (piece :: pieces)) rest := by
  obtain ⟨hpiece, hpieces⟩ := not_or.1 (mt List.mem_cons.2 hpieces)
  exact (conclude_watch_piece hnow source (Ne.symm hpiece) reads s _).trans
    (resume_pieces hnow source hpieces rest (reads + 1) (s.receive piece))

/-! ## Two sessions -/

/-- Without anything to read, two sessions wait for the end of the time. -/
theorem conclude_watch_nil_alike (now reads reads' : Nat)
    (hs : s.Knows timing.timeout sink bytes) (hs' : s'.Knows timing.timeout sink bytes) :
    Outcome.Alike sink (conclude timing source (watch timing now reads s []))
      (conclude timing source (watch timing now reads' s' [])) := by
  induction hleft : timing.timeout.nanos - now using Nat.strongRecOn
    generalizing now reads reads' with
  | _ left ih =>
    by_cases hnow : timing.timeout.nanos ≤ now
    · rw [watch_late hnow, watch_late hnow]
      exact hs.finish_alike hs' now .deadline _ _ _ _ _ _
    · have hnow : now < timing.timeout.nanos := Nat.lt_of_not_le hnow
      have hnext := lt_nextPoll hnow
      rw [watch_nil hnow, watch_nil hnow]
      exact ih (timing.timeout.nanos - nextPoll timing now) (by omega) _ _ _ rfl

/-- Sessions that know the same octets and watch feeds that differ in their cuts end alike. -/
theorem conclude_watch_alike {xs ys : List FeedStep} (h : Recut xs ys) (now reads reads' : Nat)
    (hs : s.Knows timing.timeout sink bytes) (hs' : s'.Knows timing.timeout sink bytes) :
    Outcome.Alike sink (conclude timing source (watch timing now reads s xs))
      (conclude timing source (watch timing now reads' s' ys)) := by
  -- on the feeds: the sessions may have made different numbers of reads, but know the same octets
  induction h generalizing now reads reads' s s' bytes with
  | nil => exact conclude_watch_nil_alike now reads reads' hs hs'
  | @keep step xs ys hrest ih =>
    by_cases hnow : timing.timeout.nanos ≤ now
    · rw [watch_late hnow, watch_late hnow]
      exact hs.finish_alike hs' now .deadline _ _ _ _ _ _
    · rw [watch.eq_def, if_neg hnow, watch.eq_def timing now reads' s', if_neg hnow]
      dsimp only
      cases step.read with
      | fault fault => exact hs.finish_alike hs' now (.fault fault) _ _ _ _ _ _
      | data octets =>
        dsimp only
        obtain ⟨all, hknows, hknows'⟩ : ∃ all,
            (if octets.isEmpty then s else s.receive octets).Knows timing.timeout sink all
              ∧ (if octets.isEmpty then s' else s'.receive octets).Knows timing.timeout sink all := by
          split
          · exact ⟨bytes, hs, hs'⟩
          · exact ⟨_, hs.receive octets, hs'.receive octets⟩
        generalize (if octets.isEmpty then s else s.receive octets) = next at hknows ⊢
        generalize (if octets.isEmpty then s' else s'.receive octets) = next' at hknows' ⊢
        rw [hknows.progress, hknows'.progress]
        split
        · exact conclude_completed_alike hrest now _ _ hknows hknows'
        · cases step.signal with
          | some signal => exact hknows.finish_alike hknows' now (.signal signal) _ _ _ _ _ _
          | none => exact ih _ _ _ hknows hknows'
  | @cut a b xs ys ha hb hab hrest ih =>
    by_cases hnow : timing.timeout.nanos ≤ now
    · rw [watch_late hnow, watch_late hnow]
      exact hs.finish_alike hs' now .deadline _ _ _ _ _ _
    · have hnow : now < timing.timeout.nanos := Nat.lt_of_not_le hnow
      have hknows := hs.receiveAll a
      have hknows' := hs'.receiveAll b
      rw [← hab] at hknows'
      -- without a piece nothing is read at all, so either both feeds have one here or neither has
      cases a with
      | nil =>
        cases b with
        | nil => exact ih now reads reads' hs hs'
        | cons piece pieces => exact absurd hab.symm (flatten_ne_nil (List.cons_ne_nil _ _) hb)
      | cons piece pieces =>
        cases b with
        | nil => exact absurd hab (flatten_ne_nil (List.cons_ne_nil _ _) ha)
        | cons piece' pieces' =>
          rw [conclude_watch_pieces hnow source ha, conclude_watch_pieces hnow source hb, resume,
            resume, hknows.progress, hknows'.progress]
          split
          · exact conclude_completed_alike hrest now _ _ hknows hknows'
          · exact ih now _ _ hknows hknows'

/-- Two sessions whose feeds differ in their cuts end alike. -/
theorem run_alike (timing : Timing) (sink : Sink) {feed feed' : Feed} (hname : feed.name = feed'.name)
    (h : Recut feed.steps feed'.steps) :
    Outcome.Alike sink (run timing sink feed) (run timing sink feed') := by
  rw [run, run, hname]
  exact conclude_watch_alike h 0 0 0 (knows_opening timing sink feed) (knows_opening timing sink feed')

/-- **A session does not depend on where its octets are cut.**  Neither one read of a feed that comes
in several pieces instead, nor the limit on the reads of a log changes how it ends; and a sink that
was not given up has taken the same octets. -/
theorem ends_alike (timing : Timing) (sink : Sink) (name : Text) :
    (∀ (before after : List FeedStep) (pieces : List Octets), pieces ≠ [] → [] ∉ pieces →
      Outcome.Alike sink
        (run timing sink ⟨name, before ++ (Read.data pieces.flatten).quietly :: after⟩)
        (run timing sink ⟨name, before ++ quietSteps pieces ++ after⟩))
      ∧ ∀ (reader : LogReader) (chunk chunk' : Nat),
        Outcome.Alike sink (run timing sink ((Replay.start name reader).withChunk chunk).feed)
          (run timing sink ((Replay.start name reader).withChunk chunk').feed) := by
  constructor
  · intro before after pieces hne hpieces
    have hflat : [] ∉ [pieces.flatten] := by
      rw [List.mem_singleton]
      exact Ne.symm (flatten_ne_nil hne hpieces)
    have hcut : Recut (quietSteps [pieces.flatten] ++ after) (quietSteps pieces ++ after) :=
      .cut hflat hpieces (by simp) (Recut.refl after)
    refine run_alike timing sink rfl ?_
    rw [List.append_assoc]
    exact hcut.append_left before
  · intro reader chunk chunk'
    exact run_alike timing sink rfl (Replay.recut_feed name reader chunk chunk')

/-- A read may be cut inside a character, and between the two octets that end a line. -/
theorem ends_alike_character :
    Outcome.Alike (.fresh none)
      (run brisk (.fresh none)
        ⟨"wire".toList, [(Read.data (encode "t.c:1:é:PASS\r\nOK\n".toList)).quietly]⟩)
      (run brisk (.fresh none)
        ⟨"wire".toList, quietSteps [encode "t.c:1:".toList ++ [0xC3],
          0xA9 :: encode ":PASS\r".toList, encode "\nOK\n".toList]⟩) := by
  have hcut := (ends_alike brisk (.fresh none)
    "wire".toList).1 [] [] [encode "t.c:1:".toList ++ [0xC3], 0xA9 :: encode ":PASS\r".toList,
      encode "\nOK\n".toList] (by decide) (by decide)
  have hflatten : List.flatten [encode "t.c:1:".toList ++ [0xC3],
      0xA9 :: encode ":PASS\r".toList, encode "\nOK\n".toList]
      = encode "t.c:1:é:PASS\r\nOK\n".toList := by decide
  rw [hflatten] at hcut
  exact hcut

end Session

end TestWatch
