import Mathlib.Algebra.Group.Nat.Defs
import TestWatch.Text.Utf8

/-!
# Laws of reading octets leniently

A character is spelled by an octet of ASCII, or by a first octet and those that carry it on
(`encodeChar_cases`).  The reader owes at most one begun character.  What it can still come to is bounded
(`Begun.Sound`), so that only octets beyond ASCII carry it on and only characters beyond ASCII come of it
(`octetStep_cases`).  From that follow

* `filter_isAscii_decode`: the ASCII characters of a text are the ASCII octets that it was read from;
* `decode_append`: octets that do not begin with one that carries a character on are read as if
  nothing came before them.

Octets that spell a text are read as that text, whatever follows (`decode_encode_append`).
-/

namespace TestWatch

namespace Text

/-! ## Classes -/

/-- Whether a character is one of ASCII. -/
def isAscii (c : Char) : Bool := c.toNat < 0x80

/-- Whether an octet stands for a character of ASCII. -/
def isAsciiOctet (b : UInt8) : Bool := b.toNat < 0x80

/-- Whether an octet can carry a begun character on. -/
def isTail (b : UInt8) : Bool := 0x80 ≤ b.toNat && b.toNat ≤ 0xBF

theorem toNat_ofNat_of_isValidChar {n : Nat} (h : n.isValidChar) : (Char.ofNat n).toNat = n := by
  rw [Char.ofNat, dif_pos h]
  rfl

theorem toNat_ofNat_octet (b : UInt8) : (Char.ofNat b.toNat).toNat = b.toNat := by
  have hlt := b.toNat_lt
  exact toNat_ofNat_of_isValidChar (.inl (by omega))

/-! ## Spellings of characters -/

/-- The last octets of the spelling of a character with a number. -/
def tails (n : Nat) : Nat → Octets
  | 0 => []
  | k + 1 => UInt8.ofNat (n / 64 ^ k % 64 + 0x80) :: tails n k

theorem toNat_tail (n k : Nat) : (UInt8.ofNat (n / 64 ^ k % 64 + 0x80)).toNat
    = n / 64 ^ k % 64 + 0x80 := by
  simp
  omega

/-- The first octet of the spelling of a number that takes `k + 1` octets more. -/
def IsLead (n k : Nat) (b : UInt8) : Prop :=
  (k = 0 ∧ 0x80 ≤ n ∧ n ≤ 0x7FF ∧ b.toNat = n / 64 + 0xC0)
    ∨ (k = 1 ∧ 0x800 ≤ n ∧ n ≤ 0xFFFF ∧ b.toNat = n / 4096 + 0xE0)
    ∨ (k = 2 ∧ 0x10000 ≤ n ∧ n < 0x110000 ∧ b.toNat = n / 262144 + 0xF0)

theorem IsLead.le {n k : Nat} {b : UInt8} (h : IsLead n k b) : 0x80 ≤ n := by
  unfold IsLead at h
  omega

/-- Every number of a character beyond ASCII has a first octet. -/
theorem exists_isLead {n : Nat} (h : 0x80 ≤ n) (h' : n < 0x110000) : ∃ k b, IsLead n k b := by
  by_cases htwo : n ≤ 0x7FF
  · exact ⟨0, UInt8.ofNat (n / 64 + 0xC0), .inl ⟨rfl, h, htwo, by simp; omega⟩⟩
  by_cases hthree : n ≤ 0xFFFF
  · exact ⟨1, UInt8.ofNat (n / 4096 + 0xE0), .inr (.inl ⟨rfl, by omega, hthree, by simp; omega⟩)⟩
  · exact ⟨2, UInt8.ofNat (n / 262144 + 0xF0), .inr (.inr ⟨rfl, by omega, h', by simp; omega⟩)⟩

theorem encodeChar_of_isLead {c : Char} {k : Nat} {b : UInt8} (h : IsLead c.toNat k b) :
    String.utf8EncodeChar c = b :: tails c.toNat (k + 1) := by
  have hval : c.val.toNat = c.toNat := rfl
  rw [← UInt8.ofNat_toNat (x := b)]
  simp only [String.utf8EncodeChar, hval]
  rcases h with ⟨rfl, hlow, hhigh, hb⟩ | ⟨rfl, hlow, hhigh, hb⟩ | ⟨rfl, hlow, hhigh, hb⟩
  · have hlead : c.toNat / 64 % 32 = c.toNat / 64 := Nat.mod_eq_of_lt (by omega)
    rw [if_neg (by omega), if_pos hhigh, hb, hlead]
    simp [tails]
  · have hlead : c.toNat / 4096 % 16 = c.toNat / 4096 := Nat.mod_eq_of_lt (by omega)
    rw [if_neg (by omega), if_neg (by omega), if_pos hhigh, hb, hlead]
    simp [tails]
  · have hlead : c.toNat / 262144 % 8 = c.toNat / 262144 := Nat.mod_eq_of_lt (by omega)
    rw [if_neg (by omega), if_neg (by omega), if_neg (by omega), hb, hlead]
    simp [tails]

theorem encodeChar_of_ascii {c : Char} (h : c.toNat < 0x80) :
    String.utf8EncodeChar c = [UInt8.ofNat c.toNat] := by
  have hval : c.val.toNat = c.toNat := rfl
  simp only [String.utf8EncodeChar, hval]
  rw [if_pos (by omega)]

/-- A character is spelled by an octet of ASCII, or by a first octet and those that carry it on. -/
theorem encodeChar_cases (c : Char) :
    (c.toNat < 0x80 ∧ String.utf8EncodeChar c = [UInt8.ofNat c.toNat])
      ∨ ∃ k b, IsLead c.toNat k b ∧ String.utf8EncodeChar c = b :: tails c.toNat (k + 1) := by
  have hvalid : c.toNat.isValidChar := c.valid
  unfold Nat.isValidChar at hvalid
  by_cases hascii : c.toNat < 0x80
  · exact .inl ⟨hascii, encodeChar_of_ascii hascii⟩
  · obtain ⟨k, b, hlead⟩ := exists_isLead (n := c.toNat) (by omega) (by omega)
    exact .inr ⟨k, b, hlead, encodeChar_of_isLead hlead⟩

/-! ## Begun characters -/

namespace Begun

/-- The least number that a begun character can come to. -/
def least (g : Begun) : Nat := (g.bits * 64 + (g.low.toNat - 0x80)) * 64 ^ g.owed

/-- The bound on the numbers that a begun character can come to. -/
def bound (g : Begun) : Nat := (g.bits * 64 + (g.high.toNat - 0x80) + 1) * 64 ^ g.owed

/-- Whether a begun character can come to a number. -/
def Reaches (g : Begun) (n : Nat) : Prop := g.least ≤ n ∧ n < g.bound

/-- A number is within reach if its leading bits are those read and some that the next octet can
bring. -/
theorem reaches_iff {g : Begun} {n : Nat} : g.Reaches n
    ↔ g.bits * 64 + (g.low.toNat - 0x80) ≤ n / 64 ^ g.owed
      ∧ n / 64 ^ g.owed ≤ g.bits * 64 + (g.high.toNat - 0x80) := by
  have hpos : 0 < 64 ^ g.owed := Nat.pow_pos (by decide)
  rw [Reaches, least, bound, ← Nat.le_div_iff_mul_le hpos, ← Nat.div_lt_iff_lt_mul hpos,
    Nat.lt_succ_iff]

/-- Where any octet can come next, the numbers within reach are those with the bits read. -/
theorem reaches_iff_of_any {bits owed n : Nat} :
    Reaches ⟨bits, owed, 0x80, 0xBF⟩ n ↔ n / 64 ^ (owed + 1) = bits := by
  rw [reaches_iff, Nat.pow_succ, ← Nat.div_div_eq_div_mul]
  simp only [UInt8.reduceToNat]
  omega

/-- A begun character is carried on by octets beyond ASCII only, and all that it can come to are
characters beyond ASCII. -/
structure Sound (g : Begun) : Prop where
  /-- The next octet is beyond ASCII. -/
  low : 0x80 ≤ g.low.toNat
  /-- The next octet begins no character. -/
  high : g.high.toNat ≤ 0xBF
  /-- Every number within reach is that of a character beyond ASCII. -/
  reach : ∀ n, g.least ≤ n → n < g.bound → 0x80 ≤ n ∧ n.isValidChar

/-- A sound character of which one octet has been read. -/
structure LedBy (g : Begun) (b : UInt8) : Prop extends Sound g where
  /-- Some octet can come next. -/
  low_le_high : g.low.toNat ≤ g.high.toNat
  /-- The octet begins the spelling of every number within reach. -/
  isLead : ∀ n, g.Reaches n → IsLead n g.owed b

variable {g : Begun} {b : UInt8}

/-- An octet that carries a sound character on ends it with a character beyond ASCII, or leaves one
begun that is sound. -/
theorem Sound.carryOn (h : g.Sound) (hlow : g.low.toNat ≤ b.toNat) (hhigh : b.toNat ≤ g.high.toNat) :
    (∃ c, isAscii c = false ∧ g.carryOn b = ([c], none))
      ∨ ∃ next : Begun, next.Sound ∧ g.carryOn b = ([], some next) := by
  unfold Begun.carryOn
  cases howed : g.owed with
  | zero =>
    obtain ⟨hleast, hbound⟩ : g.Reaches (g.bits * 64 + (b.toNat - 0x80)) := by
      rw [reaches_iff, howed, Nat.pow_zero, Nat.div_one]
      omega
    obtain ⟨hlarge, hvalid⟩ := h.reach _ hleast hbound
    refine .inl ⟨Char.ofNat (g.bits * 64 + (b.toNat - 0x80)), ?_, rfl⟩
    rw [isAscii, toNat_ofNat_of_isValidChar hvalid]
    simp [hlarge]
  | succ owed =>
    refine .inr ⟨_, ⟨by simp, by simp, fun n hleast hbound => ?_⟩, rfl⟩
    -- with one more octet fixed, fewer numbers are within reach
    have hbits := reaches_iff_of_any.1 ⟨hleast, hbound⟩
    obtain ⟨hleast', hbound'⟩ : g.Reaches n := by
      rw [reaches_iff, howed, hbits]
      omega
    exact h.reach n hleast' hbound'

end Begun

/-! ## One octet -/

section Steps

variable (filler : Text)

theorem octetStep_of_mem {g : Begun} {b : UInt8} (hlow : g.low.toNat ≤ b.toNat)
    (hhigh : b.toNat ≤ g.high.toNat) : octetStep filler (some g) b = g.carryOn b := by
  have hin : (g.low ≤ b && b ≤ g.high) = true := by
    simp [UInt8.le_iff_toNat_le, hlow, hhigh]
  rw [octetStep, if_pos hin]

theorem octetStep_of_notMem {g : Begun} {b : UInt8}
    (h : ¬(g.low.toNat ≤ b.toNat ∧ b.toNat ≤ g.high.toNat)) : octetStep filler (some g) b
      = (filler ++ (firstOctet filler b).1, (firstOctet filler b).2) := by
  have hout : ¬(g.low ≤ b && b ≤ g.high) = true := by
    simpa [UInt8.le_iff_toNat_le] using h
  rw [octetStep, if_neg hout]

/-- A first octet is a character of ASCII, belongs to no character, or begins one that is sound. -/
theorem firstOctet_cases (b : UInt8) :
    (b.toNat < 0x80 ∧ firstOctet filler b = ([Char.ofNat b.toNat], none))
      ∨ (0x80 ≤ b.toNat ∧ firstOctet filler b = (filler, none))
      ∨ (0x80 ≤ b.toNat ∧ ∃ g : Begun, g.LedBy b ∧ firstOctet filler b = ([], some g)) := by
  have hbegins : ∀ {bits owed : Nat} {low high : UInt8},
      0x80 ≤ low.toNat → high.toNat ≤ 0xBF → low.toNat ≤ high.toNat →
      (∀ n, Begun.least ⟨bits, owed, low, high⟩ ≤ n → n < Begun.bound ⟨bits, owed, low, high⟩ →
        IsLead n owed b ∧ n.isValidChar) →
      ∃ g : Begun, g.LedBy b ∧ (([], some ⟨bits, owed, low, high⟩) : Step) = ([], some g) := by
    intro bits owed low high hlow hhigh hrange hreach
    refine ⟨_, ⟨⟨hlow, hhigh, fun n hleast hbound => ?_⟩, hrange, fun n hn => ?_⟩, rfl⟩
    · obtain ⟨hlead, hvalid⟩ := hreach n hleast hbound
      exact ⟨hlead.le, hvalid⟩
    · exact (hreach n hn.1 hn.2).1
  -- with the step named, the ranges of the octet are told apart in one place
  generalize hstep : firstOctet filler b = step
  simp only [firstOctet, beq_iff_eq, UInt8.lt_iff_toNat_lt, ← UInt8.toNat_inj, UInt8.reduceToNat]
    at hstep
  repeat' split at hstep
  all_goals subst hstep
  · exact .inl ⟨by assumption, rfl⟩
  · exact .inr (.inl ⟨by omega, rfl⟩)
  -- the first octets of characters of two, three and four octets, and one that begins none
  all_goals first
    | exact .inr (.inl ⟨by omega, rfl⟩)
    | refine .inr (.inr ⟨by omega, hbegins (by decide) (by decide) (by decide) ?_⟩)
      intro n hleast hbound
      simp only [Begun.least, Begun.bound, UInt8.reduceToNat] at hleast hbound
      unfold IsLead Nat.isValidChar
      omega

end Steps

/-- What an octet leads to if the character begun before it is sound: an octet of ASCII is read as its
character, and any other completes no such character; what is begun then is sound again. -/
theorem octetStep_cases {state : Option Begun} (h : ∀ g ∈ state, g.Sound) (b : UInt8) :
    (isAsciiOctet b = true ∧ octetStep [] state b = ([Char.ofNat b.toNat], none))
      ∨ (isAsciiOctet b = false ∧ (∀ c ∈ (octetStep [] state b).1, isAscii c = false)
        ∧ ∀ g ∈ (octetStep [] state b).2, g.Sound) := by
  have hfirst : (isAsciiOctet b = true ∧ firstOctet [] b = ([Char.ofNat b.toNat], none))
      ∨ (isAsciiOctet b = false ∧ (∀ c ∈ (firstOctet [] b).1, isAscii c = false)
        ∧ ∀ g ∈ (firstOctet [] b).2, g.Sound) := by
    rcases firstOctet_cases [] b with ⟨hb, heq⟩ | ⟨hb, heq⟩ | ⟨hb, g, hg, heq⟩
    · exact .inl ⟨by simpa [isAsciiOctet] using hb, heq⟩
    · exact .inr ⟨by simpa [isAsciiOctet] using hb, by simp [heq], by simp [heq]⟩
    · exact .inr ⟨by simpa [isAsciiOctet] using hb, by simp [heq], by simpa [heq] using hg.toSound⟩
  cases state with
  | none => exact hfirst
  | some g =>
    have hg : g.Sound := h g rfl
    by_cases hin : g.low.toNat ≤ b.toNat ∧ b.toNat ≤ g.high.toNat
    · have hb : isAsciiOctet b = false := by
        have hlow := hg.low
        simp [isAsciiOctet]
        omega
      rw [octetStep_of_mem [] hin.1 hin.2]
      rcases hg.carryOn hin.1 hin.2 with ⟨c, hc, heq⟩ | ⟨next, hnext, heq⟩
      · exact .inr ⟨hb, by simpa [heq] using hc, by simp [heq]⟩
      · exact .inr ⟨hb, by simp [heq], by simpa [heq] using hnext⟩
    · rw [octetStep_of_notMem [] hin]
      exact hfirst

/-- Whatever has been read, the character left begun is sound. -/
theorem decodeRun_sound {state : Option Begun} (h : ∀ g ∈ state, g.Sound) (bytes : Octets) :
    ∀ g ∈ (decodeRun [] state bytes).2, g.Sound := by
  induction bytes generalizing state with
  | nil => exact h
  | cons b bytes ih =>
    have hnext : ∀ g ∈ (octetStep [] state b).2, g.Sound := by
      rcases octetStep_cases h b with ⟨-, heq⟩ | ⟨-, -, hsound⟩
      · rw [heq]
        exact fun g hg => by cases hg
      · exact hsound
    exact ih hnext

/-! ## ASCII -/

/-- The ASCII characters of a text are the ASCII octets that it was read from, in order. -/
theorem filter_isAscii_decode (bytes : Octets) : (decode bytes).filter isAscii
    = (bytes.filter isAsciiOctet).map fun b => Char.ofNat b.toNat := by
  suffices hfrom : ∀ state : Option Begun, (∀ g ∈ state, g.Sound) →
      (decodeFrom [] state bytes).filter isAscii
        = (bytes.filter isAsciiOctet).map fun b => Char.ofNat b.toNat by
    exact hfrom none (by simp)
  induction bytes with
  | nil => intro state _; cases state <;> rfl
  | cons b bytes ih =>
    intro state h
    rw [decodeFrom, List.filter_append]
    rcases octetStep_cases h b with ⟨hb, heq⟩ | ⟨hb, htext, hsound⟩
    · have hc : isAscii (Char.ofNat b.toNat) = true := by
        have hlt : b.toNat < 0x80 := by simpa [isAsciiOctet] using hb
        rw [isAscii, toNat_ofNat_octet]
        simpa using hlt
      rw [heq, ih none (by simp), List.filter_cons_of_pos hb]
      simp [hc]
    · rw [ih _ hsound, List.filter_cons_of_neg (by simp [hb]), List.filter_eq_nil_iff.2,
        List.nil_append]
      intro c hc
      simp [htext c hc]

/-! ## Pieces -/

/-- The text that is complete while some octets are read is all of their text. -/
theorem decodeRun_fst (bytes : Octets) : (decodeRun [] none bytes).1 = decode bytes := by
  have hall := decodeFrom_append [] none bytes []
  rw [List.append_nil] at hall
  rw [decode, hall]
  cases (decodeRun [] none bytes).2 <;> simp [decodeFrom]

/-- A sound character is given up as soon as an octet comes that cannot carry one on. -/
theorem decodeFrom_of_head {state : Option Begun} (h : ∀ g ∈ state, g.Sound) {bytes : Octets}
    (hhead : ∀ b ∈ bytes.head?, isTail b = false) :
    decodeFrom [] state bytes = decodeFrom [] none bytes := by
  cases state with
  | none => rfl
  | some g =>
    cases bytes with
    | nil => rfl
    | cons b bytes =>
      have hg : g.Sound := h g rfl
      have htail : isTail b = false := hhead b rfl
      have hout : ¬(g.low.toNat ≤ b.toNat ∧ b.toNat ≤ g.high.toNat) := by
        have hlow := hg.low
        have hhigh := hg.high
        simp only [isTail, Bool.and_eq_false_iff, decide_eq_false_iff_not] at htail
        omega
      rw [decodeFrom, octetStep_of_notMem [] hout]
      rfl

/-- Octets that do not begin with one that carries a character on are read on their own. -/
theorem decode_append (a : Octets) {b : Octets} (hhead : ∀ x ∈ b.head?, isTail x = false) :
    decode (a ++ b) = decode a ++ decode b := by
  have hsound : ∀ g ∈ (decodeRun [] none a).2, g.Sound := decodeRun_sound (by simp) a
  rw [decode, decodeFrom_append, decodeRun_fst, decodeFrom_of_head hsound hhead]
  rfl

theorem decodeRun_append (filler : Text) (state : Option Begun) (a b : Octets) :
    decodeRun filler state (a ++ b)
      = ((decodeRun filler state a).1 ++ (decodeRun filler (decodeRun filler state a).2 b).1,
        (decodeRun filler (decodeRun filler state a).2 b).2) := by
  induction a generalizing state with
  | nil => rfl
  | cons x a ih => simp only [List.cons_append, decodeRun, ih, List.append_assoc]

/-! ## Spelled texts -/

section Spelling

variable (filler : Text)

/-- A begun character is carried on to its end by the last octets of its spelling. -/
theorem decodeRun_tails (n k : Nat) {low high : UInt8} (hlow : low.toNat ≤ n / 64 ^ k % 64 + 0x80)
    (hhigh : n / 64 ^ k % 64 + 0x80 ≤ high.toNat) :
    decodeRun filler (some ⟨n / 64 ^ (k + 1), k, low, high⟩) (tails n (k + 1))
      = ([Char.ofNat n], none) := by
  induction k generalizing low high with
  | zero =>
    have hstep := octetStep_of_mem filler (g := ⟨n / 64 ^ 1, 0, low, high⟩)
      (b := UInt8.ofNat (n / 64 ^ 0 % 64 + 0x80)) (by rwa [toNat_tail]) (by rwa [toNat_tail])
    have hn : n / 64 ^ 1 * 64 + (n / 64 ^ 0 % 64 + 0x80 - 0x80) = n := by omega
    rw [Begun.carryOn, toNat_tail] at hstep
    dsimp only at hstep
    rw [hn] at hstep
    simp only [tails, decodeRun, Nat.zero_add, hstep, List.append_nil]
  | succ k ih =>
    have hstep := octetStep_of_mem filler (g := ⟨n / 64 ^ (k + 2), k + 1, low, high⟩)
      (b := UInt8.ofNat (n / 64 ^ (k + 1) % 64 + 0x80)) (by rwa [toNat_tail]) (by rwa [toNat_tail])
    have hn : n / 64 ^ (k + 2) * 64 + (n / 64 ^ (k + 1) % 64 + 0x80 - 0x80) = n / 64 ^ (k + 1) := by
      rw [Nat.pow_succ 64 (k + 1), ← Nat.div_div_eq_div_mul]
      omega
    rw [Begun.carryOn, toNat_tail] at hstep
    dsimp only at hstep
    rw [hn] at hstep
    have hrest := @ih 0x80 0xBF (by simp) (by simp; omega)
    rw [tails, decodeRun]
    simp only [hstep, hrest, List.nil_append]

theorem firstOctet_of_two {b : UInt8} {n : Nat} (hb : b.toNat = n / 64 + 0xC0) (hn : 0x80 ≤ n)
    (hn' : n ≤ 0x7FF) :
    ∃ low high : UInt8, firstOctet filler b = ([], some ⟨n / 64 ^ 1, 0, low, high⟩)
      ∧ low.toNat ≤ n / 64 ^ 0 % 64 + 0x80 ∧ n / 64 ^ 0 % 64 + 0x80 ≤ high.toNat := by
  simp only [firstOctet, UInt8.lt_iff_toNat_lt, UInt8.reduceToNat, hb]
  rw [if_neg (by omega), if_neg (by omega), if_pos (by omega), Nat.add_sub_cancel]
  exact ⟨0x80, 0xBF, rfl, by simp, by simp; omega⟩

theorem firstOctet_of_three {b : UInt8} {n : Nat} (hvalid : n.isValidChar)
    (hb : b.toNat = n / 4096 + 0xE0) (hn : 0x800 ≤ n) (hn' : n ≤ 0xFFFF) :
    ∃ low high : UInt8, firstOctet filler b = ([], some ⟨n / 64 ^ 2, 1, low, high⟩)
      ∧ low.toNat ≤ n / 64 ^ 1 % 64 + 0x80 ∧ n / 64 ^ 1 % 64 + 0x80 ≤ high.toNat := by
  unfold Nat.isValidChar at hvalid
  simp only [firstOctet, beq_iff_eq, UInt8.lt_iff_toNat_lt, ← UInt8.toNat_inj, UInt8.reduceToNat, hb]
  rw [if_neg (by omega), if_neg (by omega), if_neg (by omega)]
  by_cases hleast : n / 64 ^ 2 = 0
  · rw [if_pos (by omega), hleast]
    exact ⟨0xA0, 0xBF, rfl, by simp; omega, by simp; omega⟩
  rw [if_neg (by omega)]
  by_cases hsurrogate : n / 64 ^ 2 = 0xD
  · rw [if_pos (by omega), hsurrogate]
    exact ⟨0x80, 0x9F, rfl, by simp, by simp; omega⟩
  rw [if_neg (by omega), if_pos (by omega), Nat.add_sub_cancel]
  exact ⟨0x80, 0xBF, rfl, by simp, by simp; omega⟩

theorem firstOctet_of_four {b : UInt8} {n : Nat} (hvalid : n.isValidChar)
    (hb : b.toNat = n / 262144 + 0xF0) (hn : 0x10000 ≤ n) :
    ∃ low high : UInt8, firstOctet filler b = ([], some ⟨n / 64 ^ 3, 2, low, high⟩)
      ∧ low.toNat ≤ n / 64 ^ 2 % 64 + 0x80 ∧ n / 64 ^ 2 % 64 + 0x80 ≤ high.toNat := by
  unfold Nat.isValidChar at hvalid
  simp only [firstOctet, beq_iff_eq, UInt8.lt_iff_toNat_lt, ← UInt8.toNat_inj, UInt8.reduceToNat, hb]
  rw [if_neg (by omega), if_neg (by omega), if_neg (by omega), if_neg (by omega), if_neg (by omega),
    if_neg (by omega)]
  by_cases hleast : n / 64 ^ 3 = 0
  · rw [if_pos (by omega), hleast]
    exact ⟨0x90, 0xBF, rfl, by simp; omega, by simp; omega⟩
  rw [if_neg (by omega)]
  by_cases hgreatest : n / 64 ^ 3 = 4
  · rw [if_neg (by omega), if_pos (by omega), hgreatest]
    exact ⟨0x80, 0x8F, rfl, by simp, by simp; omega⟩
  rw [if_pos (by omega), Nat.add_sub_cancel]
  exact ⟨0x80, 0xBF, rfl, by simp, by simp; omega⟩

/-- The first octet of a spelling of several octets begins its character. -/
theorem firstOctet_of_isLead {n k : Nat} {b : UInt8} (hvalid : n.isValidChar) (h : IsLead n k b) :
    ∃ low high : UInt8, firstOctet filler b = ([], some ⟨n / 64 ^ (k + 1), k, low, high⟩)
      ∧ low.toNat ≤ n / 64 ^ k % 64 + 0x80 ∧ n / 64 ^ k % 64 + 0x80 ≤ high.toNat := by
  rcases h with ⟨rfl, hlow, hhigh, hb⟩ | ⟨rfl, hlow, hhigh, hb⟩ | ⟨rfl, hlow, -, hb⟩
  · exact firstOctet_of_two filler hb hlow hhigh
  · exact firstOctet_of_three filler hvalid hb hlow hhigh
  · exact firstOctet_of_four filler hvalid hb hlow

/-- A character is read back from its spelling, and nothing is left begun. -/
theorem decodeRun_encodeChar (c : Char) :
    decodeRun filler none (String.utf8EncodeChar c) = ([c], none) := by
  have hvalid : c.toNat.isValidChar := c.valid
  have hc : Char.ofNat c.toNat = c := Char.ofNat_toNat c
  rcases encodeChar_cases c with ⟨hascii, heq⟩ | ⟨k, b, hlead, heq⟩
  · have hb : (UInt8.ofNat c.toNat).toNat = c.toNat := by simp; omega
    have hlt : UInt8.ofNat c.toNat < 0x80 := by rwa [UInt8.lt_iff_toNat_lt, hb]
    rw [heq]
    simp only [decodeRun, octetStep, firstOctet, if_pos hlt, hb, hc, List.append_nil]
  · obtain ⟨low, high, hfirst, hlow, hhigh⟩ := firstOctet_of_isLead filler hvalid hlead
    rw [heq]
    simp only [decodeRun, octetStep, hfirst, decodeRun_tails filler c.toNat k hlow hhigh, hc,
      List.nil_append]

/-- No spelling begins with an octet that carries a character on. -/
theorem isTail_head_encodeChar (c : Char) :
    ∀ b ∈ (String.utf8EncodeChar c).head?, isTail b = false := by
  intro b hb
  rcases encodeChar_cases c with ⟨hascii, heq⟩ | ⟨k, lead, hlead, heq⟩
  · rw [heq] at hb
    cases hb
    simp [isTail]
    omega
  · rw [heq] at hb
    cases hb
    unfold IsLead at hlead
    simp [isTail]
    omega

/-- A text is read back from its spelling, and nothing is left begun. -/
theorem decodeRun_encode (s : Text) : decodeRun filler none (encode s) = (s, none) := by
  induction s with
  | nil => rfl
  | cons c s ih =>
    rw [encode, List.flatMap_cons, decodeRun_append, decodeRun_encodeChar]
    show ([c] ++ (decodeRun filler none (encode s)).1, (decodeRun filler none (encode s)).2) = _
    rw [ih]
    rfl

end Spelling

/-- Octets that spell a text are read as that text, whatever follows. -/
theorem decode_encode_append (s : Text) (bytes : Octets) :
    decode (encode s ++ bytes) = s ++ decode bytes := by
  rw [decode, decodeFrom_append, decodeRun_encode]
  rfl

theorem decode_encode (s : Text) : decode (encode s) = s := by
  have h := decode_encode_append s []
  rw [List.append_nil] at h
  rw [h]
  exact List.append_nil s

theorem decodeMarking_encode (s : Text) : decodeMarking (encode s) = s := by
  have h := decodeFrom_append ['\uFFFD'] none (encode s) []
  rw [List.append_nil, decodeRun_encode] at h
  exact h.trans (List.append_nil s)

end Text

end TestWatch
