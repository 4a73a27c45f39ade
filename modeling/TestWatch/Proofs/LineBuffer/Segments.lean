import TestWatch.Line.Reading
import TestWatch.LineBuffer
import TestWatch.Progress
import TestWatch.Tally

/-!
# The lines of octets that are all there

A line buffer sees octets piece by piece.  Here the octets are all there, and their lines are read
off the segments between newlines: each segment that a newline ends is a line (`terminatedLines`),
and the last segment is one if it holds any text (`textLines`).

`push_lastSegment` says that the buffer hands out just these lines.  `terminatedLines_append` says
which lines come to an end in the second of two pieces, whatever the cut goes through, and
`findTrigger_append` what that means for the first line that completes a run.
-/

namespace TestWatch

open Text

/-- The lines that a newline ends, in order and without their newlines. -/
def terminatedLines (bytes : Octets) : List Text := (bytes.splitOn newline).dropLast.map decode

/-- The octets after the last newline. -/
def lastSegment (bytes : Octets) : Octets := (bytes.splitOn newline).getLastD []

/-- All lines: those that a newline ends, and the last segment if it holds any text. -/
def textLines (bytes : Octets) : List Text :=
  terminatedLines bytes ++ nonEmpty [decode (lastSegment bytes)]

/-- The lines that a piece brings to an end, after the octets that came before it. -/
def completedLines (before piece : Octets) : List Text :=
  (terminatedLines (before ++ piece)).drop (terminatedLines before).length

/-- What the lines say. -/
def eventsOf (lines : List Text) : List Event := lines.map Event.ofLine

/-- The trigger of the first line that is one. -/
def findTrigger (lines : List Text) : Option Trigger := (eventsOf lines).findSome? Event.trigger?

/-! ## Segments -/

/-- The segments between newlines are those that a newline ends and the rest. -/
theorem splitOn_newline (bytes : Octets) :
    bytes.splitOn newline = (cutLines bytes).1 ++ [(cutLines bytes).2] := by
  induction bytes with
  | nil => rfl
  | cons b bytes ih =>
    rw [List.splitOn_cons_eq_if_modifyHead, ih]
    by_cases hb : b = newline
    · simp [cutLines, hb]
    · cases hcut : (cutLines bytes).1 <;> simp [cutLines, hb, hcut]

theorem terminatedLines_eq (bytes : Octets) :
    terminatedLines bytes = (cutLines bytes).1.map decode := by
  rw [terminatedLines, splitOn_newline, List.dropLast_concat]

theorem lastSegment_eq (bytes : Octets) : lastSegment bytes = (cutLines bytes).2 := by
  rw [lastSegment, splitOn_newline, List.getLastD_concat]

/-- A buffer hands out the lines of what waits and the piece together. -/
theorem push_lastSegment (before piece : Octets) :
    LineBuffer.push ⟨lastSegment before⟩ piece
      = (terminatedLines (lastSegment before ++ piece), ⟨lastSegment (before ++ piece)⟩) := by
  simp only [terminatedLines_eq, lastSegment_eq, cutLines_append before piece]
  rfl

/-- Octets after others only add lines, and the first of those goes on where the last segment
stood. -/
theorem terminatedLines_append (a b : Octets) :
    terminatedLines (a ++ b) = terminatedLines a ++ terminatedLines (lastSegment a ++ b) := by
  simp only [terminatedLines_eq, lastSegment_eq, cutLines_append a b, List.map_append]

theorem completedLines_eq (before piece : Octets) :
    completedLines before piece = terminatedLines (lastSegment before ++ piece) := by
  rw [completedLines, terminatedLines_append, List.drop_left]

/-- The last line that a flush hands out, in a list. -/
theorem lastLine_toList (bytes : Octets) :
    (LineBuffer.lastLine ⟨lastSegment bytes⟩).toList = nonEmpty [decode (lastSegment bytes)] := by
  unfold LineBuffer.lastLine nonEmpty
  cases decode (lastSegment bytes) <;> rfl

/-! ## Triggers -/

theorem eventsOf_append (a b : List Text) : eventsOf (a ++ b) = eventsOf a ++ eventsOf b :=
  List.map_append

/-- The first trigger of some lines and of more lines after them. -/
theorem findTrigger_append (a b : List Text) :
    findTrigger (a ++ b) = (findTrigger a).or (findTrigger b) := by
  rw [findTrigger, eventsOf_append, List.findSome?_append]
  rfl

/-- Of some lines this is the first that is a trigger, and which one it is. -/
def IsFirstTrigger (lines : List Text) (line : Text) (trigger : Trigger) : Prop :=
  ∃ before after, lines = before ++ line :: after ∧ (Event.ofLine line).trigger? = some trigger
    ∧ ∀ earlier ∈ before, (Event.ofLine earlier).trigger? = none

/-- Whether an event completes a run: a summary, a bare verdict or a closing phrase does. -/
def Event.Completes (event : Event) : Prop :=
  (∃ run failed, event = .summary run failed) ∨ (∃ v, event = .verdict v) ∨ ∃ m, event = .marker m

theorem Event.isSome_trigger?_iff (event : Event) :
    event.trigger?.isSome = true ↔ event.Completes := by
  cases event <;> simp [trigger?, Completes]

theorem isSome_findTrigger_iff (lines : List Text) :
    (findTrigger lines).isSome = true ↔ ∃ line ∈ lines, (Event.ofLine line).Completes := by
  rw [findTrigger, eventsOf, List.findSome?_map, List.findSome?_isSome_iff]
  simp only [Function.comp_apply, Event.isSome_trigger?_iff]

theorem findTrigger_eq_some_iff {lines : List Text} {trigger : Trigger} :
    findTrigger lines = some trigger ↔ ∃ line, IsFirstTrigger lines line trigger := by
  rw [findTrigger, eventsOf, List.findSome?_map, List.findSome?_eq_some_iff]
  constructor
  · rintro ⟨before, line, after, hlines, htrigger, hbefore⟩
    exact ⟨line, before, after, hlines, htrigger, hbefore⟩
  · rintro ⟨line, before, after, hlines, htrigger, hbefore⟩
    exact ⟨before, line, after, hlines, htrigger, hbefore⟩

/-- Lines after the first trigger do not change which one it is. -/
theorem IsFirstTrigger.append {lines : List Text} {line : Text} {trigger : Trigger}
    (h : IsFirstTrigger lines line trigger) (more : List Text) :
    IsFirstTrigger (lines ++ more) line trigger := by
  obtain ⟨before, after, rfl, htrigger, hbefore⟩ := h
  refine ⟨before, after ++ more, ?_, htrigger, hbefore⟩
  rw [List.append_assoc, List.cons_append]

/-- As long as no line was a trigger, the first one comes with the lines of the next piece. -/
theorem findTrigger_terminatedLines {before : Octets}
    (h : findTrigger (terminatedLines before) = none) (piece : Octets) :
    findTrigger (terminatedLines (before ++ piece)) = findTrigger (completedLines before piece) := by
  rw [terminatedLines_append, findTrigger_append, h, completedLines_eq]
  rfl

end TestWatch
