import Mathlib.Data.List.TakeWhile
import TestWatch.CommandLine.Argument
import TestWatch.Proofs.Text.Numerals

/-!
# Numerals and spans of time

A timeout on the command line is a number of seconds or a span of time.  The two do not get into each
other's way: a numeral has no unit and a sign is no number, so that the only numeral that is a span as
well is a lone zero (`read_of_readWord64`), which is no time at all.  `readTimeout_eq_ok_iff` therefore
says what is read without an order of the two readings.
-/

namespace TestWatch

open Text

namespace TimeSpan

/-! ## No numeral is a span -/

/-- A numeral has no unit. -/
theorem read_of_numeral {digits : Text} (h : IsNumeral digits) (hne : digits ≠ ['0'])
    (hfit : value digits < word64) : read digits = .error (.unitMissing (value digits)) := by
  obtain ⟨hnil, hdigits⟩ := h
  have hpart : ∀ c ∈ digits, isNumberPart c = true := fun c hc => by simp [isNumberPart, hdigits c hc]
  have htake : digits.takeWhile isNumberPart = digits := List.takeWhile_eq_self_iff.2 hpart
  have hdrop : digits.dropWhile isNumberPart = [] := List.dropWhile_eq_nil_iff.2 hpart
  have hfilter : digits.filter isDigit = digits := List.filter_eq_self.2 hdigits
  have hitem : ∀ total, readItem total digits = .ok (⟨value digits, none, []⟩, []) := by
    intro total
    rw [readItem, htake, hdrop, readNumber, hfilter, fit, if_pos hfit]
    rfl
  match digits, hnil with
  | c :: rest, _ =>
    have hc : isDigit c = true := hdigits c List.mem_cons_self
    have htrim : trimFront (c :: rest) = c :: rest :=
      List.dropWhile_cons_of_neg (by simp [isBlank_of_isDigit hc])
    rw [read, if_neg hne, htrim, List.isEmpty_cons, if_neg Bool.false_ne_true, List.length_cons,
      readItems, htrim]
    simp only [hc, if_true, hitem]
    rfl

/-- A sign is no number. -/
theorem read_of_plus (s : Text) : ∃ e, read ('+' :: s) = .error e := by
  have htrim : trimFront ('+' :: s) = '+' :: s := List.dropWhile_cons_of_neg (by decide)
  rw [read, if_neg (by simp), htrim, List.isEmpty_cons, if_neg Bool.false_ne_true, List.length_cons,
    readItems, htrim]
  exact ⟨_, rfl⟩

/-- What is a numeral as well as a span is no time at all. -/
theorem read_of_readWord64 {s : Text} {n : Nat} (h : readWord64 s = .ok n) {span : TimeSpan}
    (hspan : read s = .ok span) : n = 0 ∧ span = zero := by
  obtain ⟨digits, ⟨hdigits, rfl | rfl⟩, rfl, hle⟩ := readWord64_eq_ok_iff.1 h
  · by_cases hzero : s = ['0']
    · subst hzero
      exact ⟨rfl, (Except.ok.inj hspan).symm⟩
    · have hpos : 0 < word64 := by decide
      rw [read_of_numeral hdigits hzero (by omega)] at hspan
      cases hspan
  · obtain ⟨e, he⟩ := read_of_plus digits
    rw [he] at hspan
    cases hspan

end TimeSpan

theorem isZero_ofSeconds {n : Nat} : (TimeSpan.ofSeconds n).isZero = false ↔ 0 < n := by
  simp only [TimeSpan.isZero, beq_eq_false_iff_ne, TimeSpan.ofSeconds, TimeSpan.perSecond]
  omega

/-- A timeout is a number of seconds or a span of time, and more than nothing. -/
theorem readTimeout_eq_ok_iff {s : Text} {d : TimeSpan} : readTimeout s = .ok d ↔
    ((∃ n, readWord64 s = .ok n ∧ d = .ofSeconds n) ∨ TimeSpan.read s = .ok d)
      ∧ d.isZero = false := by
  constructor
  · intro h
    refine ⟨?_, readTimeout_pos h⟩
    unfold readTimeout at h
    dsimp only at h
    split at h
    · cases h
    · rename_i span hspan
      split at h
      · cases h
      · obtain rfl := Except.ok.inj h
        split at hspan
        · rename_i n hn
          exact .inl ⟨n, hn, (Except.ok.inj hspan).symm⟩
        · exact .inr hspan
  · rintro ⟨⟨n, hn, rfl⟩ | hspan, hzero⟩
    · simp only [readTimeout, hn, hzero, Bool.false_eq_true, if_false]
    · cases hn : readWord64 s with
      | ok n =>
        -- a span that is a numeral as well is no time at all
        rw [(TimeSpan.read_of_readWord64 hn hspan).2] at hzero
        exact absurd hzero (by decide)
      | error e => simp only [readTimeout, hn, hspan, hzero, Bool.false_eq_true, if_false]

end TestWatch
