import TestWatch.Text.Utf8

/-!
# Cutting octets into lines

Octets arrive in pieces that end anywhere, also inside a line or a character.  A line buffer keeps
what follows the last newline and hands out a line once its newline has come, so that the lines do
not depend on how the octets were cut.

Beside the buffer stands the direct account, `cutLines`, of the complete lines of octets that are all
there; `cutLines_append` says how octets in two pieces are cut.
-/

namespace TestWatch

open Text

/-- The newline that ends a line. -/
def newline : UInt8 := 0x0A

/-- The stretches of octets that a newline ends, and those after the last newline. -/
def cutLines : Octets → List Octets × Octets
  | [] => ([], [])
  | b :: bytes =>
    let cut := cutLines bytes
    if b = newline then ([] :: cut.1, cut.2)
    else match cut.1 with
      | [] => ([], b :: cut.2)
      | line :: lines => ((b :: line) :: lines, cut.2)

/-- The octets after the last newline, waiting for theirs. -/
structure LineBuffer where
  /-- The octets that wait. -/
  pending : Octets
  deriving DecidableEq, Repr

namespace LineBuffer

/-- A buffer in which nothing waits. -/
def empty : LineBuffer := ⟨[]⟩

/-- The lines that a piece completes, in order and without their newlines, and the buffer after
it.  Octets that belong to no character are dropped from a line. -/
def push (buffer : LineBuffer) (piece : Octets) : List Text × LineBuffer :=
  let cut := cutLines (buffer.pending ++ piece)
  (cut.1.map decode, ⟨cut.2⟩)

/-- The text of the octets that wait, if they hold any. -/
def lastLine (buffer : LineBuffer) : Option Text :=
  match decode buffer.pending with
  | [] => none
  | line => some line

/-- Hands out what waits as a last line and waits for nothing any more. -/
def flush (buffer : LineBuffer) : Option Text × LineBuffer := (buffer.lastLine, empty)

end LineBuffer

/-! ## Laws -/

theorem cutLines_append (a b : Octets) :
    cutLines (a ++ b) =
      ((cutLines a).1 ++ (cutLines ((cutLines a).2 ++ b)).1, (cutLines ((cutLines a).2 ++ b)).2) := by
  induction a with
  | nil => rfl
  | cons x a ih =>
    simp only [List.cons_append, cutLines, ih]
    split
    · rfl
    · rename_i hx
      cases h : (cutLines a).1 with
      | nil =>
        simp only [List.nil_append, List.cons_append, cutLines, if_neg hx]
      | cons line lines => rfl

/-- The octets after the last newline hold none. -/
theorem newline_not_mem_rest (a : Octets) : newline ∉ (cutLines a).2 := by
  induction a with
  | nil => simp [cutLines]
  | cons x a ih =>
    simp only [cutLines]
    split
    · exact ih
    · rename_i hx
      split
      · simp only [List.mem_cons, not_or]; exact ⟨Ne.symm hx, ih⟩
      · exact ih

/-- Octets without a newline complete no line. -/
theorem cutLines_of_not_mem {a : Octets} (h : newline ∉ a) : cutLines a = ([], a) := by
  induction a with
  | nil => rfl
  | cons x a ih =>
    simp only [List.mem_cons, not_or] at h
    simp only [cutLines, ih h.2, if_neg (Ne.symm h.1)]

end TestWatch
