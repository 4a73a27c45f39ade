import Mathlib.Data.List.Basic
import Mathlib.Data.List.TakeWhile
import TestWatch.Text.Blank

/-!
# Pieces, ends and fields of a text

How looking for a piece goes together with trimming a text and with cutting it.

* A piece that neither begins nor ends with a blank stands in the trimmed text exactly if it stands in
  the text (`infix_trim_iff`): trimming takes off only what stands outside it (`trim_append`).
* A separator with a word after it stands in a text exactly if some field but the first begins with
  the word (`cons_infix_iff`).

The cuts of this library are those of the standard library (`split_eq_splitOn`), so that its laws can
be used.
-/

namespace TestWatch

namespace Text

/-! ## Pieces -/

theorem holds_iff_isInfix {part s : Text} : holds part s = true ↔ part <:+: s := by
  rw [holds_iff]
  constructor
  · rintro ⟨a, b, rfl⟩
    exact List.infix_append a part b
  · rintro ⟨a, b, h⟩
    exact ⟨a, b, h.symm⟩

/-! ## Blanks at the ends -/

/-- A text that does not begin with a blank. -/
def SolidFront (s : Text) : Prop := ∀ c ∈ s.head?, isBlank c = false

/-- A text that does not end with a blank. -/
def SolidBack (s : Text) : Prop := ∀ c ∈ s.getLast?, isBlank c = false

/-- A text without blanks at its ends. -/
def Solid (s : Text) : Prop := SolidFront s ∧ SolidBack s

-- the instances are named: a search for them may find one that goes through all characters there are
instance (s : Text) : Decidable (SolidFront s) := Option.decidableForallMem s.head?

instance (s : Text) : Decidable (SolidBack s) := Option.decidableForallMem s.getLast?

instance (s : Text) : Decidable (Solid s) :=
  inferInstanceAs (Decidable (SolidFront s ∧ SolidBack s))

theorem trimFront_append {s : Text} (h : SolidFront s) (a : Text) :
    trimFront (a ++ s) = trimFront a ++ s := by
  have hs : s.dropWhile isBlank = s := by
    cases s with
    | nil => rfl
    | cons c s => exact List.dropWhile_cons_of_neg (by simp [h c rfl])
  rw [trimFront, trimFront, List.dropWhile_append]
  split
  · rename_i hempty
    rw [hs, List.isEmpty_iff.1 hempty, List.nil_append]
  · rfl

theorem trimBack_cons {c : Char} (h : isBlank c = false) (s : Text) :
    trimBack (c :: s) = c :: trimBack s := by
  rw [trimBack]
  cases trimBack s with
  | nil => exact if_neg (by simp [h])
  | cons d r => rfl

theorem trimBack_append {s : Text} (h : SolidBack s) (b : Text) :
    trimBack (s ++ b) = s ++ trimBack b := by
  induction s with
  | nil => rfl
  | cons c s ih =>
    cases s with
    | nil => exact trimBack_cons (h c rfl) b
    | cons d s =>
      have hrest := ih fun e he => h e (by rwa [List.getLast?_cons_cons])
      rw [List.cons_append, trimBack, hrest]
      rfl

/-- What stands around a piece is trimmed, and the piece stays. -/
theorem trim_append {part : Text} (hne : part ≠ []) (h : Solid part) (a b : Text) :
    trim (a ++ part ++ b) = trimFront a ++ part ++ trimBack b := by
  have hfront : SolidFront (part ++ b) := by
    intro c hc
    rw [List.head?_append_of_ne_nil _ hne] at hc
    exact h.1 c hc
  have hback : SolidBack (trimFront a ++ part) := by
    intro c hc
    rw [List.getLast?_append_of_ne_nil _ hne] at hc
    exact h.2 c hc
  rw [List.append_assoc, trim, trimFront_append hfront, ← List.append_assoc, trimBack_append hback]

/-- Without blanks at the ends there is nothing to trim. -/
theorem trim_eq_self {s : Text} (h : Solid s) : trim s = s := by
  by_cases hne : s = []
  · rw [hne]
    rfl
  · have hwhole := trim_append hne h [] []
    rwa [List.nil_append, List.append_nil, show trimFront [] = [] from rfl,
      show trimBack [] = [] from rfl, List.nil_append, List.append_nil] at hwhole

theorem exists_trimBack (s : Text) :
    ∃ back, s = trimBack s ++ back ∧ ∀ c ∈ back, isBlank c = true := by
  induction s with
  | nil => exact ⟨[], rfl, List.forall_mem_nil _⟩
  | cons c s ih =>
    obtain ⟨back, hs, hback⟩ := ih
    unfold trimBack
    cases htrim : trimBack s with
    | nil =>
      rw [htrim, List.nil_append] at hs
      by_cases hc : isBlank c = true
      · exact ⟨c :: back, by simp [hc, ← hs], List.forall_mem_cons.2 ⟨hc, hback⟩⟩
      · exact ⟨back, by simp [hc, ← hs], hback⟩
    | cons d r =>
      rw [htrim] at hs
      exact ⟨back, by rw [List.cons_append, ← hs], hback⟩

/-- A text is the trimmed text with blanks before and after it. -/
theorem exists_trim (s : Text) : ∃ front back, s = front ++ trim s ++ back
    ∧ (∀ c ∈ front, isBlank c = true) ∧ ∀ c ∈ back, isBlank c = true := by
  obtain ⟨back, hback, hblank⟩ := exists_trimBack (trimFront s)
  refine ⟨s.takeWhile isBlank, back, ?_, ?_, hblank⟩
  · rw [List.append_assoc, trim, ← hback]
    exact List.takeWhile_append_dropWhile.symm
  · exact fun c hc => List.mem_takeWhile_imp hc

theorem infix_trim_iff {part : Text} (hne : part ≠ []) (h : Solid part) (s : Text) :
    part <:+: trim s ↔ part <:+: s := by
  constructor
  · obtain ⟨front, back, hs, -, -⟩ := exists_trim s
    intro hpart
    exact hpart.trans ⟨front, back, hs.symm⟩
  · rintro ⟨a, b, rfl⟩
    rw [trim_append hne h]
    exact List.infix_append _ part _

/-- Trimming goes with every change of the characters that keeps blanks apart from the others. -/
theorem trim_map {f : Char → Char} (h : ∀ c, isBlank (f c) = isBlank c) (s : Text) :
    trim (s.map f) = (trim s).map f := by
  have back : ∀ t : Text, trimBack (t.map f) = (trimBack t).map f := by
    intro t
    induction t with
    | nil => rfl
    | cons c t ih =>
      rw [List.map_cons, trimBack, trimBack, ih, h c]
      cases trimBack t with
      | nil => cases isBlank c <;> rfl
      | cons d r => rfl
  have hclass : isBlank ∘ f = isBlank := funext h
  rw [trim, trim, trimFront, trimFront, List.dropWhile_map, hclass, back]

/-! ## Fields -/

theorem splitWhere_eq_splitOnP (sep : Char → Bool) (s : Text) : splitWhere sep s = s.splitOnP sep := by
  induction s with
  | nil => rfl
  | cons c s ih =>
    rw [splitWhere, List.splitOnP_cons_eq_if_modifyHead, ih]
    obtain ⟨field, fields, hfields⟩ := List.exists_cons_of_ne_nil (List.splitOnP_ne_nil sep s)
    rw [hfields]
    rfl

theorem split_eq_splitOn (sep : Char) (s : Text) : split sep s = s.splitOn sep := by
  rw [split, splitWhere_eq_splitOnP, List.splitOn_eq_splitOnP]

/-- What stands in a field stands in the fields joined. -/
theorem mem_intercalate_of_mem {α : Type} {sep field : List α} {fields : List (List α)}
    (hfield : field ∈ fields) {c : α} (hc : c ∈ field) : c ∈ sep.intercalate fields := by
  induction fields with
  | nil => exact absurd hfield List.not_mem_nil
  | cons first fields ih =>
    cases fields with
    | nil =>
      rw [List.mem_singleton.1 hfield] at hc
      simpa using hc
    | cons next fields =>
      rw [List.intercalate_cons_cons, List.mem_append, List.mem_append]
      rcases List.mem_cons.1 hfield with rfl | hfield
      · exact .inl (.inl hc)
      · exact .inr (ih hfield)

/-- What stands in fields that are joined stands between them or in one of them. -/
theorem mem_of_mem_intercalate {α : Type} {sep : List α} {fields : List (List α)} {c : α}
    (h : c ∈ sep.intercalate fields) : c ∈ sep ∨ ∃ field ∈ fields, c ∈ field := by
  induction fields with
  | nil => exact absurd h List.not_mem_nil
  | cons first fields ih =>
    cases fields with
    | nil => exact .inr ⟨first, List.mem_cons_self, by simpa using h⟩
    | cons next fields =>
      rw [List.intercalate_cons_cons, List.mem_append, List.mem_append] at h
      rcases h with (hfirst | hsep) | hrest
      · exact .inr ⟨first, List.mem_cons_self, hfirst⟩
      · exact .inl hsep
      · rcases ih hrest with hsep | ⟨field, hfield, hc⟩
        · exact .inl hsep
        · exact .inr ⟨field, List.mem_cons_of_mem _ hfield, hc⟩

/-- Fields that are joined behind a separator have one before each of them. -/
theorem cons_join (sep : Char) {fields : List Text} (h : fields ≠ []) :
    sep :: join [sep] fields = fields.flatMap (sep :: ·) := by
  induction fields with
  | nil => exact absurd rfl h
  | cons field fields ih =>
    cases fields with
    | nil => simp [join]
    | cons next fields =>
      rw [join, List.intercalate_cons_cons, List.flatMap_cons, ← ih (List.cons_ne_nil _ _)]
      simp [join]

/-- Whether a text begins with a word can be seen on its first field. -/
theorem prefix_iff_headD_splitOn {sep : Char} {word : Text} (h : sep ∉ word) (s : Text) :
    word <+: s ↔ word <+: (s.splitOn sep).headD [] := by
  induction s generalizing word with
  | nil => rfl
  | cons c s ih =>
    rw [List.splitOn_cons_eq_if_modifyHead]
    cases word with
    | nil => simp
    | cons d word =>
      simp only [List.mem_cons, not_or] at h
      by_cases hc : c = sep
      · have hd : d ≠ c := by
          rw [hc]
          exact Ne.symm h.1
        simp [hc, List.cons_prefix_cons, hc ▸ hd]
      · obtain ⟨field, fields, hfields⟩ :=
          List.exists_cons_of_ne_nil (List.splitOn_ne_nil sep s)
        have hrest := ih h.2
        rw [hfields] at hrest ⊢
        simpa [hc, List.cons_prefix_cons] using fun _ => hrest

theorem cons_infix_iff {sep : Char} {word : Text} (h : sep ∉ word) (s : Text) :
    (sep :: word) <:+: s ↔ ∃ field ∈ (s.splitOn sep).tail, word <+: field := by
  induction s with
  | nil => simp
  | cons c s ih =>
    obtain ⟨field, fields, hfields⟩ := List.exists_cons_of_ne_nil (List.splitOn_ne_nil sep s)
    rw [List.infix_cons_iff, ih, List.splitOn_cons_eq_if_modifyHead, hfields, List.cons_prefix_cons]
    by_cases hc : c = sep
    · have hfirst : word <+: s ↔ word <+: field := by
        rw [prefix_iff_headD_splitOn h, hfields]
        rfl
      simp [hc, hfirst]
    · simp [hc, Ne.symm hc]

end Text

end TestWatch
