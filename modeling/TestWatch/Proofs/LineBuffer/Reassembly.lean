import TestWatch.Proofs.LineBuffer.Segments
import TestWatch.Proofs.Text.Decoding

/-!
# Cutting and then reading is reading and then cutting

A line buffer cuts octets at newlines and reads each line on its own.  No character that is given up
half way can hide a newline, and none can pretend one, so that the same lines come of the text of all
octets, cut at its newlines (`splitOn_decode`).

What waits in the buffer after any calls is what follows the last newline since it was flushed
(`pending_run`), and the pieces of which the octets came do not matter (`run_push`).
`push_flush` is the account of a buffer that is filled and then flushed.
-/

namespace TestWatch

open Text

/-! ## Newlines in octets and in texts -/

/-- The lines of a text that a newline ends, without their newlines. -/
def endedLines (s : Text) : List Text := (s.splitOn '\n').dropLast

/-- The text after the last newline. -/
def openLine (s : Text) : Text := (s.splitOn '\n').getLastD []

/-- The text of some octets holds no newline that is not among the octets. -/
theorem newline_notMem_decode {bytes : Octets} (h : newline ∉ bytes) : '\n' ∉ decode bytes := by
  intro hmem
  have hascii : '\n' ∈ (decode bytes).filter isAscii := List.mem_filter.2 ⟨hmem, by decide⟩
  rw [filter_isAscii_decode, List.mem_map] at hascii
  obtain ⟨b, hb, hchar⟩ := hascii
  have hnat : b.toNat = newline.toNat := by
    rw [← toNat_ofNat_octet, hchar]
    rfl
  exact h (UInt8.toNat_inj.1 hnat ▸ (List.mem_filter.1 hb).1)

/-- A newline is read as such, whatever was begun before it. -/
theorem decode_newline (a b : Octets) :
    decode (a ++ newline :: b) = decode a ++ '\n' :: decode b := by
  have hhead : ∀ x ∈ (newline :: b).head?, isTail x = false := by
    intro x hx
    cases hx
    decide
  rw [decode_append a hhead]
  rfl

/-- **The segments between the newlines of some octets are read as those of their text.** -/
theorem splitOn_decode (bytes : Octets) :
    (decode bytes).splitOn '\n' = (bytes.splitOn newline).map decode := by
  induction hlength : bytes.length using Nat.strongRecOn generalizing bytes with
  | _ n ih =>
    by_cases hmem : newline ∈ bytes
    -- the first newline cuts the octets and their text alike
    · obtain ⟨a, b, rfl, ha⟩ := List.eq_append_cons_of_mem hmem
      have hrest := ih b.length (by simp at hlength; omega) b rfl
      rw [decode_newline, List.splitOn_append_cons_self, List.splitOn_append_cons_self, hrest,
        List.splitOn_eq_singleton ha, List.splitOn_eq_singleton (newline_notMem_decode ha)]
      rfl
    · rw [List.splitOn_eq_singleton hmem, List.splitOn_eq_singleton (newline_notMem_decode hmem)]
      rfl

theorem terminatedLines_eq_endedLines (bytes : Octets) :
    terminatedLines bytes = endedLines (decode bytes) := by
  rw [endedLines, splitOn_decode, ← List.map_dropLast, terminatedLines]

theorem decode_lastSegment (bytes : Octets) : decode (lastSegment bytes) = openLine (decode bytes) := by
  rw [openLine, splitOn_decode, lastSegment]
  exact List.getLastD_map.symm

/-- The lines of a text, their newlines and what follows the last of them are the text. -/
theorem flatMap_endedLines (s : Text) :
    (endedLines s).flatMap (fun line => line ++ ['\n']) ++ openLine s = s := by
  have hfields : ∀ fields : List Text, fields ≠ [] →
      fields.dropLast.flatMap (fun line => line ++ ['\n']) ++ fields.getLastD []
        = ['\n'].intercalate fields := by
    intro fields
    induction fields with
    | nil => intro h; exact absurd rfl h
    | cons field fields ih =>
      intro _
      cases fields with
      | nil => simp
      | cons next fields => simpa [List.intercalate_cons_cons] using ih (by simp)
  exact (hfields _ (List.splitOn_ne_nil '\n' s)).trans (List.intercalate_splitOn '\n')

namespace LineBuffer

/-! ## Calls -/

/-- What a line buffer is asked to do. -/
inductive Call where
  /-- To take a piece. -/
  | push (piece : Octets)
  /-- To hand out what waits. -/
  | flush
  deriving DecidableEq, Repr

/-- The lines that a call hands out, and the buffer after it. -/
def answer (buffer : LineBuffer) : Call → List Text × LineBuffer
  | .push piece => buffer.push piece
  | .flush => (buffer.flush.1.toList, buffer.flush.2)

/-- The lines that some calls hand out one after the other, and the buffer after them. -/
def run (buffer : LineBuffer) : List Call → List Text × LineBuffer
  | [] => ([], buffer)
  | call :: calls =>
    let first := buffer.answer call
    let rest := first.2.run calls
    (first.1 ++ rest.1, rest.2)

/-- The octets that were pushed since the last flush, with those before the calls. -/
def sinceFlush (before : Octets) (calls : List Call) : Octets :=
  calls.foldl (fun bytes call => match call with
    | .push piece => bytes ++ piece
    | .flush => []) before

/-- What waits after some calls is what follows the last newline since the last flush. -/
theorem pending_run (before : Octets) (calls : List Call) :
    (run ⟨lastSegment before⟩ calls).2 = ⟨lastSegment (sinceFlush before calls)⟩ := by
  induction calls generalizing before with
  | nil => rfl
  | cons call calls ih =>
    cases call with
    | push piece =>
      rw [run, answer, push_lastSegment]
      exact ih (before ++ piece)
    | flush => exact ih []

/-- The lines that come of several pieces are those of the pieces joined. -/
theorem run_push (before : Octets) (pieces : List Octets) :
    (run ⟨lastSegment before⟩ (pieces.map .push)).1
      = terminatedLines (lastSegment before ++ pieces.flatten) := by
  induction pieces generalizing before with
  | nil =>
    have hnone := terminatedLines_append before []
    rw [List.append_nil, List.self_eq_append_right] at hnone
    exact hnone.symm
  | cons piece pieces ih =>
    -- of what came before a piece only the last segment matters
    have hsegment : lastSegment (lastSegment before ++ piece) = lastSegment (before ++ piece) := by
      have hpush := push_lastSegment before piece
      rw [push, ← lastSegment_eq] at hpush
      exact congrArg LineBuffer.pending (congrArg Prod.snd hpush)
    have hrun : (run ⟨lastSegment before⟩ ((piece :: pieces).map .push)).1
        = terminatedLines (lastSegment before ++ piece)
          ++ (run ⟨lastSegment (before ++ piece)⟩ (pieces.map .push)).1 := by
      rw [List.map_cons, run, answer, push_lastSegment]
    rw [hrun, ih (before ++ piece), List.flatten_cons, ← List.append_assoc,
      terminatedLines_append (lastSegment before ++ piece), hsegment]

theorem sinceFlush_push (pieces : List Octets) (before : Octets) :
    sinceFlush before (pieces.map .push) = before ++ pieces.flatten := by
  induction pieces generalizing before with
  | nil => simp [sinceFlush]
  | cons piece pieces ih =>
    rw [List.flatten_cons, ← List.append_assoc]
    exact ih (before ++ piece)

theorem sinceFlush_flush (before : Octets) (calls : List Call) :
    sinceFlush before (calls ++ [.flush]) = [] := by
  rw [sinceFlush, List.foldl_append]
  rfl

/-- What a flush hands out of a buffer that knows some octets. -/
theorem lastLine_lastSegment (bytes : Octets) : lastLine ⟨lastSegment bytes⟩
    = if openLine (decode bytes) = [] then none else some (openLine (decode bytes)) := by
  rw [lastLine, decode_lastSegment]
  cases openLine (decode bytes) <;> rfl

/-- **A line buffer that is filled and then flushed hands out the lines of the text of all octets.**
The pushes hand out those that a newline ends and the flush the rest, if there is any.  Octets that
spell a text are put together again from these.  After any calls what waits is what follows the last
newline pushed since the last flush, and after a flush nothing does. -/
theorem push_flush (pieces : List Octets) :
    let bytes := pieces.flatten
    let filled := empty.run (pieces.map .push)
    filled.1 = endedLines (decode bytes)
      ∧ filled.2.flush.1
        = (if openLine (decode bytes) = [] then none else some (openLine (decode bytes)))
      ∧ (bytes.splitOn newline).map decode = (decode bytes).splitOn '\n'
      ∧ (∀ s, bytes = encode s →
        encode (filled.1.flatMap (fun line => line ++ ['\n']) ++ filled.2.flush.1.getD []) = bytes)
      ∧ ∀ calls, (empty.run calls).2.pending = lastSegment (sinceFlush [] calls)
        ∧ newline ∉ (empty.run calls).2.pending
        ∧ (empty.run (calls ++ [.flush])).2.pending = [] := by
  intro bytes filled
  have hlines : filled.1 = endedLines (decode bytes) := by
    rw [← terminatedLines_eq_endedLines]
    exact run_push [] pieces
  have hbuffer : filled.2 = ⟨lastSegment bytes⟩ := by
    have hpending := pending_run [] (pieces.map .push)
    rw [sinceFlush_push] at hpending
    exact hpending
  have hflush : filled.2.flush.1
      = if openLine (decode bytes) = [] then none else some (openLine (decode bytes)) := by
    rw [hbuffer]
    exact lastLine_lastSegment bytes
  refine ⟨hlines, hflush, (splitOn_decode bytes).symm, ?_, ?_⟩
  · intro s hs
    have hrest : filled.2.flush.1.getD [] = openLine (decode bytes) := by
      rw [hflush]
      split
      · rename_i hempty
        exact hempty.symm
      · rfl
    rw [hrest, hlines, flatMap_endedLines, hs, decode_encode]
  · intro calls
    have hwaits : ∀ calls, (empty.run calls).2.pending = lastSegment (sinceFlush [] calls) :=
      fun calls => congrArg LineBuffer.pending (pending_run [] calls)
    refine ⟨hwaits calls, ?_, ?_⟩
    · rw [hwaits, lastSegment_eq]
      exact newline_not_mem_rest _
    · rw [hwaits, sinceFlush_flush]
      rfl

/-- A character whose octets come in two pieces is read, and the lines, the newline and the rest are
the octets again. -/
theorem push_flush_character :
    let pieces := [encode "a:".toList ++ [0xC3], 0xA9 :: encode "\r\nré".toList]
    let filled := empty.run (pieces.map .push)
    pieces.flatten = encode "a:é\r\nré".toList
      ∧ filled.1 = ["a:é\r".toList] ∧ filled.2.flush.1 = some "ré".toList
      ∧ encode (filled.1.flatMap (fun line => line ++ ['\n']) ++ filled.2.flush.1.getD [])
        = encode "a:é\r\nré".toList := by
  intro pieces filled
  have hspelled : pieces.flatten = encode "a:é\r\nré".toList := by decide
  obtain ⟨hlines, hflush, -, hagain, -⟩ := push_flush pieces
  refine ⟨hspelled, hlines.trans (by decide), hflush.trans (by decide), ?_⟩
  rw [hagain _ hspelled, hspelled]

end LineBuffer

end TestWatch
