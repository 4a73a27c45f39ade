import TestWatch.Text.Blank
import TestWatch.Text.Numeral

/-!
# Numerals

A numeral is a row of digits.  The readers of numbers take numerals and nothing else, up to their
bound (`readRow_eq_ok_iff`), those of 64 bits also with a plus sign before them
(`readWord64_eq_ok_iff`).
-/

namespace TestWatch

open Text

/-- A row of digits: not empty, and nothing but digits. -/
def IsNumeral (s : Text) : Prop := s ≠ [] ∧ ∀ c ∈ s, isDigit c = true

instance (s : Text) : Decidable (IsNumeral s) :=
  @instDecidableAnd (s ≠ []) (∀ c ∈ s, isDigit c = true) inferInstance
    (List.decidableBAll (fun c => isDigit c = true) s)

/-! ## Digits and blanks -/

/-- A blank is no digit. -/
theorem isDigit_of_isBlank {c : Char} (h : isBlank c = true) : isDigit c = false := by
  rw [← Bool.not_eq_true]
  intro hdigit
  simp only [isDigit, Bool.and_eq_true, decide_eq_true_eq, Char.le_def, UInt32.le_iff_toNat_le]
    at hdigit
  simp only [isBlank, Bool.or_eq_true, Bool.and_eq_true, decide_eq_true_eq, beq_iff_eq] at h
  have hzero : '0'.val.toNat = 48 := rfl
  have hnine : '9'.val.toNat = 57 := rfl
  have hval : c.val.toNat = c.toNat := rfl
  omega

theorem isBlank_of_isDigit {c : Char} (h : isDigit c = true) : isBlank c = false := by
  rw [← Bool.not_eq_true]
  intro hblank
  exact Bool.false_ne_true ((isDigit_of_isBlank hblank).symm.trans h)

namespace Text

/-! ## Reading numerals -/

theorem readDigits_eq_ok {bound : Nat} {beyond : NumeralError} {s : Text} {n m : Nat} (hn : n ≤ bound)
    (h : readDigits bound beyond n s = .ok m) : (∀ c ∈ s, isDigit c = true)
      ∧ s.foldl (fun n c => 10 * n + digitValue c) n = m ∧ m ≤ bound := by
  induction s generalizing n with
  | nil =>
    obtain rfl := Except.ok.inj h
    exact ⟨by simp, rfl, hn⟩
  | cons c s ih =>
    unfold readDigits at h
    split at h
    · rename_i hc
      dsimp only at h
      split at h
      · rename_i hle
        obtain ⟨hs, hvalue⟩ := ih hle h
        exact ⟨List.forall_mem_cons.2 ⟨hc, hs⟩, hvalue⟩
      · cases h
    · cases h

theorem readRow_eq_ok_iff {bound : Nat} {beyond : NumeralError} {s : Text} {n : Nat} :
    readRow bound beyond s = .ok n ↔ IsNumeral s ∧ value s = n ∧ n ≤ bound := by
  constructor
  · intro h
    unfold readRow at h
    split at h
    · cases h
    · rename_i hne
      obtain ⟨hs, hvalue⟩ := readDigits_eq_ok (Nat.zero_le bound) h
      exact ⟨⟨by simpa using hne, hs⟩, hvalue⟩
  · rintro ⟨⟨hne, hs⟩, rfl, hle⟩
    exact readRow_of_le hne hs hle

/-- A numeral, before which a plus sign may stand, with its digits. -/
def IsSigned (s digits : Text) : Prop := IsNumeral digits ∧ (s = digits ∨ s = '+' :: digits)

/-- Numbers of 64 bits are read from numerals, and from nothing else. -/
theorem readWord64_eq_ok_iff {s : Text} {n : Nat} :
    readWord64 s = .ok n ↔ ∃ digits, IsSigned s digits ∧ value digits = n ∧ n ≤ word64 - 1 := by
  constructor
  · intro h
    unfold readWord64 at h
    split at h
    · cases h
    · rename_i digits
      obtain ⟨hdigits, hvalue⟩ := readRow_eq_ok_iff.1 h
      exact ⟨digits, ⟨hdigits, .inr rfl⟩, hvalue⟩
    · obtain ⟨hdigits, hvalue⟩ := readRow_eq_ok_iff.1 h
      exact ⟨s, ⟨hdigits, .inl rfl⟩, hvalue⟩
  · rintro ⟨digits, ⟨hdigits, rfl | rfl⟩, hvalue⟩
    · rw [readWord64_of_digits hdigits.1 hdigits.2]
      exact readRow_eq_ok_iff.2 ⟨hdigits, hvalue⟩
    · exact readRow_eq_ok_iff.2 ⟨hdigits, hvalue⟩

/-- What is read as a number of 64 bits is one. -/
theorem lt_of_word64? {s : Text} {n : Nat} (h : word64? s = some n) : n < word64 := by
  have hpos : 0 < word64 := by decide
  have hread : readWord64 s = .ok n := by
    unfold word64? at h
    cases hs : readWord64 s with
    | error e => rw [hs] at h; cases h
    | ok m => rw [hs] at h; cases h; rfl
  obtain ⟨digits, -, -, hle⟩ := readWord64_eq_ok_iff.1 hread
  omega

end Text

end TestWatch
