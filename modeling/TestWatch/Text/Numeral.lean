import TestWatch.Text.Basic

/-!
# Decimal numerals

Writing natural numbers in decimal digits, and reading them back with a bound.  A numeral is read
from the left, and the first digit that takes the value over the bound ends the reading.

`value_decimal` says that a written number has its own value, `readWord64_decimal` that it is read
back.
-/

namespace TestWatch

namespace Text

/-- The number of values of a 64-bit word. -/
def word64 : Nat := Nat.pow 2 64

/-- The number of values of a 32-bit word. -/
def word32 : Nat := Nat.pow 2 32

/-- An ASCII digit. -/
def isDigit (c : Char) : Bool := '0' ≤ c && c ≤ '9'

/-- The value of an ASCII digit. -/
def digitValue (c : Char) : Nat := c.toNat - '0'.toNat

/-- The value of a row of digits. -/
def value (digits : Text) : Nat := digits.foldl (fun n c => 10 * n + digitValue c) 0

/-- A number in decimal digits, without leading zeros. -/
def decimal (n : Nat) : Text :=
  if n < 10 then [Char.ofNat ('0'.toNat + n)]
  else decimal (n / 10) ++ [Char.ofNat ('0'.toNat + n % 10)]

/-- An integer in decimal digits, with a sign if it is negative. -/
def decimalInt : Int → Text
  | .ofNat n => decimal n
  | .negSucc n => '-' :: decimal (n + 1)

/-- The digits of a number, with zeros in front up to a width. -/
def padded (width n : Nat) : Text :=
  let digits := decimal n
  List.replicate (width - digits.length) '0' ++ digits

theorem value_append (a b : Text) : value (a ++ b) = value a * Nat.pow 10 b.length + value b := by
  have from_ : ∀ (b : Text) (n : Nat), b.foldl (fun n c => 10 * n + digitValue c) n
      = n * Nat.pow 10 b.length + b.foldl (fun n c => 10 * n + digitValue c) 0 := by
    intro b
    induction b with
    | nil => simp
    | cons c b ih =>
      intro n
      have hpow : Nat.pow 10 (b.length + 1) = Nat.pow 10 b.length * 10 := rfl
      rw [List.foldl_cons, List.foldl_cons, ih (10 * n + digitValue c), ih (10 * 0 + digitValue c),
        List.length_cons, hpow]
      simp only [Nat.add_mul, Nat.mul_zero, Nat.zero_add]
      rw [Nat.mul_comm 10 n, Nat.mul_assoc n, Nat.mul_comm 10 (Nat.pow 10 b.length)]
      omega
  rw [value, List.foldl_append, from_]; rfl

/-- The digit written for a value below ten has that value. -/
theorem digitValue_ofNat {n : Nat} (h : n < 10) : digitValue (Char.ofNat ('0'.toNat + n)) = n := by
  revert n; decide

/-- A written number has its own value. -/
theorem value_decimal (n : Nat) : value (decimal n) = n := by
  induction n using Nat.strongRecOn with
  | ind n ih =>
    unfold decimal
    split
    · rename_i h; simpa [value] using digitValue_ofNat h
    · rename_i h
      rw [value_append, ih (n / 10) (Nat.div_lt_self (by omega) (by omega))]
      have : value [Char.ofNat ('0'.toNat + n % 10)] = n % 10 := by
        simpa [value] using digitValue_ofNat (Nat.mod_lt n (by omega))
      rw [this]; simp; omega

theorem decimal_ne_nil (n : Nat) : decimal n ≠ [] := by
  unfold decimal
  split <;> simp

/-- A digit that is written is a digit. -/
theorem isDigit_ofNat {n : Nat} (h : n < 10) : isDigit (Char.ofNat ('0'.toNat + n)) = true := by
  revert n; decide

/-- A written number has digits only. -/
theorem isDigit_of_mem_decimal {n : Nat} {c : Char} (h : c ∈ decimal n) : isDigit c = true := by
  induction n using Nat.strongRecOn with
  | ind n ih =>
    unfold decimal at h
    split at h
    · rename_i hn
      obtain rfl := List.mem_singleton.1 h
      exact isDigit_ofNat hn
    · rename_i hn
      rcases List.mem_append.1 h with h | h
      · exact ih (n / 10) (Nat.div_lt_self (by omega) (by omega)) h
      · obtain rfl := List.mem_singleton.1 h
        exact isDigit_ofNat (Nat.mod_lt n (by omega))

/-- A written number holds nothing but digits. -/
theorem notMem_decimal {c : Char} (h : isDigit c = false) (n : Nat) : c ∉ decimal n :=
  fun hc => Bool.false_ne_true (h.symm.trans (isDigit_of_mem_decimal hc))

/-- A written number has no leading zeros. -/
theorem head_decimal {n : Nat} (h : n ≠ 0) : (decimal n).head? ≠ some '0' := by
  induction n using Nat.strongRecOn with
  | ind n ih =>
    unfold decimal
    split
    · rename_i hn
      have digit : ∀ m, m < 10 → m ≠ 0 → Char.ofNat ('0'.toNat + m) ≠ '0' := by decide
      simpa using digit n hn h
    · rename_i hn
      have := ih (n / 10) (Nat.div_lt_self (by omega) (by omega)) (by omega)
      cases hd : decimal (n / 10) with
      | nil => exact absurd hd (decimal_ne_nil _)
      | cons c s => rw [hd] at this; simpa using this

/-! ## Reading with a bound -/

/-- Why a numeral was refused. -/
inductive NumeralError where
  /-- There is nothing to read. -/
  | empty
  /-- A character is no digit. -/
  | invalidDigit
  /-- The value is above the bound. -/
  | tooLarge
  /-- The value is below the bound. -/
  | tooSmall
  deriving DecidableEq, Repr

/-- The wording of a refusal. -/
def NumeralError.message : NumeralError → Text
  | .empty => "cannot parse integer from empty string".toList
  | .invalidDigit => "invalid digit found in string".toList
  | .tooLarge => "number too large to fit in target type".toList
  | .tooSmall => "number too small to fit in target type".toList

/-- Reads digits on top of a value, which may not exceed `bound`; `beyond` is the refusal of a
value that does. -/
def readDigits (bound : Nat) (beyond : NumeralError) : Nat → Text → Except NumeralError Nat
  | n, [] => .ok n
  | n, c :: s =>
    if isDigit c then
      let n := 10 * n + digitValue c
      if n ≤ bound then readDigits bound beyond n s else .error beyond
    else .error .invalidDigit

/-- Reads a row of digits that is not empty. -/
def readRow (bound : Nat) (beyond : NumeralError) (s : Text) : Except NumeralError Nat :=
  if s.isEmpty then .error .invalidDigit else readDigits bound beyond 0 s

/-- Reads a number below `2 ^ 64`; a plus sign may stand before it. -/
def readWord64 : Text → Except NumeralError Nat
  | [] => .error .empty
  | '+' :: s => readRow (word64 - 1) .tooLarge s
  | s => readRow (word64 - 1) .tooLarge s

/-- Reads an integer from `-2 ^ 63` up to `2 ^ 63 - 1`; a sign may stand before it. -/
def readInt64 : Text → Except NumeralError Int
  | [] => .error .empty
  | '+' :: s => (readRow (Nat.pow 2 63 - 1) .tooLarge s).map Int.ofNat
  | '-' :: s => (readRow (Nat.pow 2 63) .tooSmall s).map fun n => -Int.ofNat n
  | s => (readRow (Nat.pow 2 63 - 1) .tooLarge s).map Int.ofNat

/-- The value of a row of digits, if it is below `2 ^ 64`. -/
def word64? (digits : Text) : Option Nat := (readWord64 digits).toOption

/-- Digits after others only make the value larger. -/
theorem le_foldl_digits (s : Text) (n : Nat) : n ≤ s.foldl (fun n c => 10 * n + digitValue c) n := by
  induction s generalizing n with
  | nil => exact Nat.le_refl n
  | cons c s ih =>
    have := ih (10 * n + digitValue c)
    rw [List.foldl_cons]
    omega

/-- Digits are read to their value as long as that stays within the bound. -/
theorem readDigits_of_le {bound : Nat} {beyond : NumeralError} {s : Text}
    (hs : ∀ c ∈ s, isDigit c = true) {n : Nat}
    (h : s.foldl (fun n c => 10 * n + digitValue c) n ≤ bound) :
    readDigits bound beyond n s = .ok (s.foldl (fun n c => 10 * n + digitValue c) n) := by
  induction s generalizing n with
  | nil => rfl
  | cons c s ih =>
    have hc : isDigit c = true := hs c List.mem_cons_self
    rw [List.foldl_cons] at h ⊢
    have hle : 10 * n + digitValue c ≤ bound := Nat.le_trans (le_foldl_digits s _) h
    rw [readDigits, if_pos hc]
    dsimp only
    rw [if_pos hle]
    exact ih (fun d hd => hs d (List.mem_cons_of_mem c hd)) h

/-- Digits whose value is above the bound are refused. -/
theorem readDigits_of_lt {bound : Nat} {beyond : NumeralError} {s : Text}
    (hs : ∀ c ∈ s, isDigit c = true) {n : Nat} (hn : n ≤ bound)
    (h : bound < s.foldl (fun n c => 10 * n + digitValue c) n) :
    readDigits bound beyond n s = .error beyond := by
  induction s generalizing n with
  | nil => exact absurd h (Nat.not_lt.2 hn)
  | cons c s ih =>
    have hc : isDigit c = true := hs c List.mem_cons_self
    rw [List.foldl_cons] at h
    rw [readDigits, if_pos hc]
    dsimp only
    split
    · rename_i hle
      exact ih (fun d hd => hs d (List.mem_cons_of_mem c hd)) hle h
    · rfl

/-- A row of digits is read to its value if that is within the bound. -/
theorem readRow_of_le {bound : Nat} {beyond : NumeralError} {s : Text} (hne : s ≠ [])
    (hs : ∀ c ∈ s, isDigit c = true) (h : value s ≤ bound) :
    readRow bound beyond s = .ok (value s) := by
  unfold readRow
  rw [if_neg (by simpa using hne)]
  exact readDigits_of_le hs h

/-- A row of digits whose value is above the bound is refused. -/
theorem readRow_of_lt {bound : Nat} {beyond : NumeralError} {s : Text} (hne : s ≠ [])
    (hs : ∀ c ∈ s, isDigit c = true) (h : bound < value s) :
    readRow bound beyond s = .error beyond := by
  unfold readRow
  rw [if_neg (by simpa using hne)]
  exact readDigits_of_lt hs (Nat.zero_le bound) h

/-- Digits have no sign before them. -/
theorem readWord64_of_digits {s : Text} (hne : s ≠ []) (hs : ∀ c ∈ s, isDigit c = true) :
    readWord64 s = readRow (word64 - 1) .tooLarge s := by
  unfold readWord64
  split
  · exact absurd rfl hne
  · exact absurd (hs '+' List.mem_cons_self) (by decide)
  · rfl

/-- A row of digits has a value of 64 bits exactly if its value is below `2 ^ 64`. -/
theorem word64?_eq_some_iff {s : Text} (hne : s ≠ []) (hs : ∀ c ∈ s, isDigit c = true) {n : Nat} :
    word64? s = some n ↔ value s = n ∧ n ≤ word64 - 1 := by
  rw [word64?, readWord64_of_digits hne hs]
  by_cases h : value s ≤ word64 - 1
  · rw [readRow_of_le hne hs h]
    constructor
    · rintro ⟨⟩
      exact ⟨rfl, h⟩
    · rintro ⟨rfl, -⟩
      rfl
  · rw [readRow_of_lt hne hs (Nat.lt_of_not_le h)]
    constructor
    · rintro ⟨⟩
    · rintro ⟨rfl, hle⟩
      exact absurd hle h

/-- A written number that fits 64 bits is read back. -/
theorem readWord64_decimal {n : Nat} (h : n < word64) : readWord64 (decimal n) = .ok n := by
  have hdigits : ∀ c ∈ decimal n, isDigit c = true := fun c hc => isDigit_of_mem_decimal hc
  rw [readWord64_of_digits (decimal_ne_nil n) hdigits, readRow_of_le (decimal_ne_nil n) hdigits,
    value_decimal]
  rw [value_decimal]
  omega

example : readWord64 "+007".toList = .ok 7 := by rfl

example : readWord64 "99999999999999999999x".toList = .error .tooLarge := by rfl

example : readInt64 "-9223372036854775809".toList = .error .tooSmall := by rfl

end Text

end TestWatch
