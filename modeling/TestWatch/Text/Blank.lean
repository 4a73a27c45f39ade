import TestWatch.Text.Basic

/-!
# Blank characters

The characters with the Unicode property White_Space, and what is done with them: trimming a text
at both ends, and splitting it into words.
-/

namespace TestWatch

namespace Text

/-- A character with the property White_Space. -/
def isBlank (c : Char) : Bool :=
  let n := c.toNat
  (0x9 ≤ n && n ≤ 0xD) || n == 0x20 || n == 0x85 || n == 0xA0 || n == 0x1680
    || (0x2000 ≤ n && n ≤ 0x200A) || n == 0x2028 || n == 0x2029 || n == 0x202F || n == 0x205F
    || n == 0x3000

/-- The text without the blanks that it starts with. -/
def trimFront (s : Text) : Text := s.dropWhile isBlank

/-- The text without the blanks that it ends with. -/
def trimBack : Text → Text
  | [] => []
  | c :: s => match trimBack s with
    | [] => if isBlank c then [] else [c]
    | d :: r => c :: d :: r

/-- The text without the blanks at either end. -/
def trim (s : Text) : Text := trimBack (trimFront s)

/-- The pieces of a text between blanks. -/
def words (s : Text) : List Text := nonEmpty (splitWhere isBlank s)

theorem trim_cons_of_isBlank {c : Char} (h : isBlank c = true) (s : Text) :
    trim (c :: s) = trim s := by
  rw [trim, trimFront, List.dropWhile_cons_of_pos h]
  rfl

theorem trimBack_concat_of_isBlank {c : Char} (h : isBlank c = true) (s : Text) :
    trimBack (s ++ [c]) = trimBack s := by
  induction s with
  | nil => simp [trimBack, h]
  | cons d s ih => rw [List.cons_append, trimBack, ih, trimBack]

theorem trim_concat_of_isBlank {c : Char} (h : isBlank c = true) (s : Text) :
    trim (s ++ [c]) = trim s := by
  have hfront : trimFront [c] = [] := List.dropWhile_cons_of_pos h
  rw [trim, trimFront, List.dropWhile_append]
  split
  · rename_i hempty
    rw [trim, trimFront, List.isEmpty_iff.1 hempty]
    exact congrArg trimBack hfront
  · exact trimBack_concat_of_isBlank h _

end Text

end TestWatch
