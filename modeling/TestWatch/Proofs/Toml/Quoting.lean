import TestWatch.Proofs.Text.Decoding
import TestWatch.Toml.Reading

/-!
# Strings of a document

Every text is some string of a TOML document: what can stand in a string as it is stands for itself,
every other character is given by its number (`quote`).  `readQuoted_quote` says that a string is read
back, whatever follows it, and `readValue_quote` that it is as a value of a document.
-/

namespace TestWatch

open Text

namespace Toml

/-! ## Numbers of characters -/

/-- A digit of base sixteen. -/
def hexDigit (n : Nat) : Char :=
  if n < 10 then Char.ofNat ('0'.toNat + n) else Char.ofNat ('a'.toNat + (n - 10))

/-- The last digits of a number in base sixteen, as many as are wanted. -/
def hexDigits (n : Nat) : Nat → Text
  | 0 => []
  | k + 1 => hexDigit (n / Nat.pow 16 k % 16) :: hexDigits n k

theorem baseDigit?_hexDigit {n : Nat} (h : n < 16) : baseDigit? (hexDigit n) = some n := by
  revert n
  decide

theorem isPrintable_hexDigit {n : Nat} (h : n < 16) : isPrintable (hexDigit n) = true := by
  revert n
  decide

/-- The digits that have been read are the upper part of the number, so that the next one makes it
longer by one. -/
theorem upper_digits (n k : Nat) : 16 * (n / Nat.pow 16 (k + 1)) + n / Nat.pow 16 k % 16
    = n / Nat.pow 16 k := by
  have hpow : Nat.pow 16 (k + 1) = Nat.pow 16 k * 16 := rfl
  rw [hpow, ← Nat.div_div_eq_div_mul]
  exact Nat.div_add_mod _ 16

theorem escapeStep_hexDigit (rest : Text) (owed n k : Nat) :
    escapeStep false rest (.number owed (n / Nat.pow 16 (k + 1))) (hexDigit (n / Nat.pow 16 k % 16))
      = if owed ≤ 1 then (scalar? (n / Nat.pow 16 k)).map fun made => ([made], none)
        else some ([], some (.number (owed - 1) (n / Nat.pow 16 k))) := by
  have hdigit : baseDigit? (hexDigit (n / Nat.pow 16 k % 16)) = some (n / Nat.pow 16 k % 16) :=
    baseDigit?_hexDigit (Nat.mod_lt _ (by decide))
  simp only [escapeStep, hdigit, Option.bind_eq_bind, Option.bind_some, upper_digits]
  split
  · cases scalar? (n / Nat.pow 16 k) <;> rfl
  · rfl

/-- The rest of a character's number is read, and then what stands after it. -/
theorem readQuoted_hexDigits {n : Nat} (hvalid : n.isValidChar) (k : Nat) (rest : Text) :
    readQuoted (some (.number (k + 1) (n / Nat.pow 16 (k + 1)))) (hexDigits n (k + 1) ++ rest)
      = (readQuoted none rest).map fun found => (Char.ofNat n :: found.1, found.2) := by
  induction k with
  | zero =>
    have hmade : scalar? (n / Nat.pow 16 0) = some (Char.ofNat n) := by
      rw [show n / Nat.pow 16 0 = n from Nat.div_one n]
      exact if_pos hvalid
    rw [hexDigits, List.cons_append, readQuoted, escapeStep_hexDigit, if_pos (Nat.le_refl 1), hmade,
      hexDigits, List.nil_append]
    simp only [Option.bind_eq_bind, Option.map_some, Option.bind_some]
    cases readQuoted none rest <;> rfl
  | succ k ih =>
    rw [hexDigits, List.cons_append, readQuoted, escapeStep_hexDigit, if_neg (by omega),
      Nat.add_sub_cancel]
    simp only [Option.bind_eq_bind, Option.bind_some, ih]
    cases readQuoted none rest <;> rfl

/-! ## Strings -/

/-- A character in a string. -/
def quoteChar (c : Char) : Text :=
  if isPrintable c && c != '"' && c != '\\' then [c] else '\\' :: 'U' :: hexDigits c.toNat 8

/-- A text as a string. -/
def quote (s : Text) : Text := '"' :: (s.flatMap quoteChar ++ ['"'])

theorem readQuoted_begun (s : Text) :
    readQuoted none ('\\' :: 'U' :: s) = readQuoted (some (.number 8 0)) s := by
  show ((readQuoted (some (.number 8 0)) s).bind fun found => some ([] ++ found.1, found.2)) = _
  cases readQuoted (some (.number 8 0)) s <;> rfl

theorem readQuoted_quoteChar (c : Char) (rest : Text) : readQuoted none (quoteChar c ++ rest)
    = (readQuoted none rest).map fun found => (c :: found.1, found.2) := by
  unfold quoteChar
  split
  · rename_i h
    simp only [Bool.and_eq_true, bne_iff_ne, ne_eq] at h
    rw [List.cons_append, List.nil_append, readQuoted, if_neg h.1.2, if_neg h.2, if_pos h.1.1]
  · have hvalid : c.toNat.isValidChar := c.valid
    have hstart : c.toNat / Nat.pow 16 8 = 0 := by
      refine Nat.div_eq_of_lt (Nat.lt_of_lt_of_le ?_ (show 0x110000 ≤ Nat.pow 16 8 by decide))
      rcases hvalid with h | ⟨-, h⟩ <;> omega
    have hread := readQuoted_hexDigits hvalid 7 rest
    rw [hstart, Char.ofNat_toNat] at hread
    rw [← hread, List.cons_append, List.cons_append, readQuoted_begun]

/-- A string is read back. -/
theorem readQuoted_quote (s rest : Text) :
    readQuoted none (s.flatMap quoteChar ++ '"' :: rest) = some (s, rest) := by
  induction s with
  | nil => rfl
  | cons c s ih =>
    rw [List.flatMap_cons, List.append_assoc, readQuoted_quoteChar, ih]
    rfl

theorem mem_hexDigits {n k : Nat} {c : Char} (h : c ∈ hexDigits n k) : ∃ d < 16, c = hexDigit d := by
  induction k with
  | zero => cases h
  | succ k ih =>
    rcases List.mem_cons.1 h with rfl | h
    · exact ⟨_, Nat.mod_lt _ (by decide), rfl⟩
    · exact ih h

/-- A string has nothing but characters that can stand in a line. -/
theorem isPrintable_of_mem_quote {s : Text} {c : Char} (h : c ∈ quote s) : isPrintable c = true := by
  rw [quote, List.mem_cons, List.mem_append, List.mem_flatMap, List.mem_singleton] at h
  rcases h with rfl | ⟨d, -, hc⟩ | rfl
  · rfl
  · unfold quoteChar at hc
    split at hc
    · rename_i hd
      obtain rfl := List.mem_singleton.1 hc
      simp only [Bool.and_eq_true] at hd
      exact hd.1.1
    · rcases List.mem_cons.1 hc with rfl | hc
      · rfl
      · rcases List.mem_cons.1 hc with rfl | hc
        · rfl
        · obtain ⟨digit, hdigit, rfl⟩ := mem_hexDigits hc
          exact isPrintable_hexDigit hdigit
  · rfl

/-! ## A document -/

theorem pairedReturns_of_notMem {s : Text} (h : '\r' ∉ s) : pairedReturns s = true := by
  induction s with
  | nil => rfl
  | cons c s ih =>
    rw [List.mem_cons, not_or] at h
    have hcons : pairedReturns (c :: s) = pairedReturns s := by
      rw [pairedReturns]
      exact fun hc => h.1 hc.symm
    rw [hcons, ih h.2]

theorem quote_eq_cons (s : Text) :
    ∃ c rest, s.flatMap quoteChar ++ ['"'] = c :: rest ∧ (c = '"' → rest = []) := by
  cases s with
  | nil => exact ⟨'"', [], rfl, fun _ => rfl⟩
  | cons c s =>
    rw [List.flatMap_cons, List.append_assoc, quoteChar]
    split
    · rename_i h
      simp only [Bool.and_eq_true, bne_iff_ne] at h
      exact ⟨c, _, rfl, fun heq => absurd heq h.1.2⟩
    · exact ⟨'\\', _, rfl, fun heq => absurd heq (by decide)⟩

theorem readValue_quote (s : Text) : readValue depthLimit (quote s) = some (.text s, []) := by
  have hread := readQuoted_quote s []
  obtain ⟨c, rest, heq, hend⟩ := quote_eq_cons s
  have hlong : dropFront? ['"', '"', '"'] ('"' :: c :: rest) = none := by
    by_cases hc : c = '"'
    · rw [hend hc, hc]
      rfl
    · simp [dropFront?, Ne.symm hc]
  have hstring : readString (quote s) = some (s, []) := by
    rw [quote, heq, readString, hlong, ← heq]
    exact hread
  show (readString (quote s)).map _ = _
  rw [hstring]
  rfl

end Toml

end TestWatch
