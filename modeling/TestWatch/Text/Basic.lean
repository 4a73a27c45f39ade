/-!
# Text

A text is a list of characters.  This file holds the cutting and searching that the rest of the
library is written in: splitting at the characters of a class, looking for a piece, taking a known
start off.

No field of a split holds a separator (`splitWhere_avoids`), and a text falls into what stands before
its first separator and the fields behind it (`splitWhere_append`).
-/

namespace TestWatch

/-- A text, character by character. -/
abbrev Text := List Char

namespace Text

/-! ## Splitting -/

/-- The fields of a text between the characters for which `sep` holds; there is always one more
field than there are separators. -/
def splitWhere (sep : Char → Bool) : Text → List Text
  | [] => [[]]
  | c :: s =>
    if sep c then [] :: splitWhere sep s
    else match splitWhere sep s with
      | [] => [[c]]
      | field :: rest => (c :: field) :: rest

/-- The fields of a text between the occurrences of one character. -/
def split (sep : Char) (s : Text) : List Text := splitWhere (· == sep) s

/-- The fields that hold something. -/
def nonEmpty (fields : List Text) : List Text := fields.filter fun field => !field.isEmpty

/-- The fields put together again, with `sep` between neighbours. -/
def join (sep : Text) (fields : List Text) : Text := List.intercalate sep fields

/-- The text before the first `sep` and the text after it, if there is one. -/
def cutAt (sep : Char) : Text → Option (Text × Text)
  | [] => none
  | c :: s => if c = sep then some ([], s) else (cutAt sep s).map fun (a, b) => (c :: a, b)

theorem splitWhere_ne_nil (sep : Char → Bool) (s : Text) : splitWhere sep s ≠ [] := by
  cases s with
  | nil => simp [splitWhere]
  | cons c s =>
    unfold splitWhere
    split
    · simp
    · split <;> simp

/-- No field holds a separator. -/
theorem splitWhere_avoids {sep : Char → Bool} {s field : Text} (h : field ∈ splitWhere sep s) :
    ∀ c ∈ field, sep c = false := by
  induction s generalizing field with
  | nil => simp [splitWhere] at h; simp [h]
  | cons c s ih =>
    unfold splitWhere at h
    split at h
    · rcases List.mem_cons.1 h with rfl | h
      · simp
      · exact ih h
    · rename_i hc
      split at h
      · rename_i hs; exact absurd hs (splitWhere_ne_nil sep s)
      · rename_i f rest hs
        rcases List.mem_cons.1 h with rfl | h
        · intro d hd
          rcases List.mem_cons.1 hd with rfl | hd
          · simpa using hc
          · exact ih (by rw [hs]; exact List.mem_cons_self) d hd
        · exact ih (by rw [hs]; exact List.mem_cons_of_mem _ h)

/-- A text without separators is its own only field. -/
theorem splitWhere_of_avoids {sep : Char → Bool} {s : Text} (h : ∀ c ∈ s, sep c = false) :
    splitWhere sep s = [s] := by
  induction s with
  | nil => rfl
  | cons c s ih =>
    have hc : sep c = false := h c List.mem_cons_self
    have hs := ih fun d hd => h d (List.mem_cons_of_mem c hd)
    simp [splitWhere, hc, hs]

/-- A text without separators before the first one is the first field. -/
theorem splitWhere_append {sep : Char → Bool} {a : Text} (ha : ∀ c ∈ a, sep c = false) {c : Char}
    (hc : sep c = true) (b : Text) : splitWhere sep (a ++ c :: b) = a :: splitWhere sep b := by
  induction a with
  | nil => simp [splitWhere, hc]
  | cons d a ih =>
    have hd : sep d = false := ha d List.mem_cons_self
    have hs := ih fun e he => ha e (List.mem_cons_of_mem d he)
    simp [splitWhere, hd, hs]

/-- A text is cut at the first separator. -/
theorem cutAt_append {sep : Char} {a : Text} (ha : sep ∉ a) (b : Text) :
    cutAt sep (a ++ sep :: b) = some (a, b) := by
  induction a with
  | nil => simp [cutAt]
  | cons c a ih =>
    simp only [List.mem_cons, not_or] at ha
    simp [cutAt, Ne.symm ha.1, ih ha.2]

/-- A text without the separator is not cut. -/
theorem cutAt_of_not_mem {sep : Char} {s : Text} (h : sep ∉ s) : cutAt sep s = none := by
  induction s with
  | nil => rfl
  | cons c s ih =>
    simp only [List.mem_cons, not_or] at h
    simp [cutAt, Ne.symm h.1, ih h.2]

/-! ## Searching -/

/-- Whether `part` stands somewhere in the text. -/
def holds (part : Text) : Text → Bool
  | [] => part.isEmpty
  | c :: s => part.isPrefixOf (c :: s) || holds part s

/-- The text after `front`, if it starts with it. -/
def dropFront? : Text → Text → Option Text
  | [], s => some s
  | _ :: _, [] => none
  | p :: front, c :: s => if p = c then dropFront? front s else none

/-- A text holds a piece exactly when it is that piece with something before and after it. -/
theorem holds_iff {part s : Text} : holds part s = true ↔ ∃ a b, s = a ++ part ++ b := by
  induction s with
  | nil =>
    simp only [holds, List.isEmpty_iff]
    constructor
    · rintro rfl; exact ⟨[], [], rfl⟩
    · rintro ⟨a, b, h⟩; simp at h; exact h.2.1
  | cons c s ih =>
    simp only [holds, Bool.or_eq_true, ih, List.isPrefixOf_iff_prefix]
    constructor
    · rintro (⟨b, h⟩ | ⟨a, b, rfl⟩)
      · exact ⟨[], b, by simpa using h.symm⟩
      · exact ⟨c :: a, b, rfl⟩
    · rintro ⟨a, b, h⟩
      cases a with
      | nil => exact Or.inl ⟨b, by simpa using h.symm⟩
      | cons d a => simp at h; exact Or.inr ⟨a, b, by simpa using h.2⟩

end Text

end TestWatch
