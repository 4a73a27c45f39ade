import Mathlib.Tactic.ByContra
import TestWatch.Proofs.Text.Decoding

/-!
# What reading leaves out

Which octets belong to no character is said here without the reader.  Where no character is spelled,
the longest beginning of a spelling goes, or a single octet if no spelling begins there (`Stray`).
Octets are read stretch by stretch: a spelling as its character, a stray as nothing (`ReadAs`).

The reader does the same (`readAs_iff`), because a begun character is all that the octets read of it
can still come to: the numbers within its reach are those whose spelling begins with these octets
(`Begun.ReadFrom`).  One more octet keeps it so (`Begun.ReadFrom.carryOn`), and where the next octet is
out of range no longer beginning of a spelling stands there (`Begun.ReadFrom.stray`).

What is kept is a subsequence of the octets (`encode_decode_sublist`) with all of ASCII
(`filter_encode_decode`).
-/

namespace TestWatch

namespace Text

/-! ## Spellings -/

/-- Octets that spell a text. -/
def IsUtf8 (bytes : Octets) : Prop := bytes.toByteArray.IsValidUTF8

theorem isUtf8_iff_exists {bytes : Octets} : IsUtf8 bytes ↔ ∃ s, encode s = bytes := by
  constructor
  · rintro ⟨s, hs⟩
    exact ⟨s, (List.toByteArray_inj.1 hs).symm⟩
  · rintro ⟨s, rfl⟩
    exact ⟨s, rfl⟩

/-- Octets spell a text if they spell what they are read as. -/
theorem isUtf8_iff {bytes : Octets} : IsUtf8 bytes ↔ encode (decode bytes) = bytes := by
  rw [isUtf8_iff_exists]
  constructor
  · rintro ⟨s, rfl⟩
    rw [decode_encode]
  · intro h
    exact ⟨decode bytes, h⟩

instance (bytes : Octets) : Decidable (IsUtf8 bytes) := decidable_of_iff _ isUtf8_iff.symm

/-- Octets with which the spelling of a character begins. -/
def IsBeginning (q : Octets) : Prop := ∃ c, q <+: String.utf8EncodeChar c

/-- The octets in front belong to no character where the others follow.  No character is spelled there,
and they are the longest beginning of one, or a single octet. -/
structure Stray (front rest : Octets) : Prop where
  /-- There are such octets. -/
  ne_nil : front ≠ []
  /-- No character is spelled where they stand. -/
  unspelled : ∀ c, ¬ String.utf8EncodeChar c <+: front ++ rest
  /-- A spelling begins with them, unless they are a single octet. -/
  beginning : front.length = 1 ∨ IsBeginning front
  /-- With no more octets than these a spelling begins. -/
  longest : ∀ q, q <+: front ++ rest → IsBeginning q → q.length ≤ front.length

/-- What some octets are read as up to where the others begin: either they are the spelling of a
character, or they belong to none. -/
inductive Stretch : Octets → Text → Octets → Prop
  /-- A spelling is read as its character. -/
  | spelling (c : Char) (rest : Octets) : Stretch (String.utf8EncodeChar c ++ rest) [c] rest
  /-- Octets that belong to no character are left out. -/
  | stray {front rest : Octets} (h : Stray front rest) : Stretch (front ++ rest) [] rest

/-- What octets are read as, stretch by stretch. -/
inductive ReadAs : Octets → Text → Prop
  /-- Nothing is read as nothing. -/
  | nil : ReadAs [] []
  /-- One stretch is read, then the rest. -/
  | stretch {bytes rest : Octets} {text s : Text} (hfirst : Stretch bytes text rest)
      (hrest : ReadAs rest s) : ReadAs bytes (text ++ s)

theorem decode_encodeChar_append (c : Char) (rest : Octets) :
    decode (String.utf8EncodeChar c ++ rest) = c :: decode rest := by
  have h := decode_encode_append [c] rest
  rwa [encode, List.flatMap_singleton] at h

/-! ## One stretch -/

theorem Stray.length_le {front rest front' rest' : Octets} (h : Stray front rest)
    (h' : Stray front' rest') (heq : front ++ rest = front' ++ rest') :
    front.length ≤ front'.length := by
  rcases h.beginning with hone | hbeginning
  · rw [hone]
    exact List.length_pos_iff.2 h'.ne_nil
  · exact h'.longest front ⟨rest, heq⟩ hbeginning

namespace Stretch

variable {bytes rest rest' : Octets} {text text' : Text}

/-- Octets begin with one stretch only. -/
theorem unique (h : Stretch bytes text rest) (h' : Stretch bytes text' rest') :
    text = text' ∧ rest = rest' := by
  cases h with
  | spelling c =>
    generalize hbytes : String.utf8EncodeChar c ++ rest = bytes at h'
    cases h' with
    | spelling d =>
      have hread := congrArg decode hbytes
      rw [decode_encodeChar_append, decode_encodeChar_append] at hread
      obtain ⟨rfl, -⟩ := List.cons.inj hread
      exact ⟨rfl, List.append_cancel_left hbytes⟩
    | stray hstray => exact absurd ⟨rest, hbytes⟩ (hstray.unspelled c)
  | @stray front _ hstray =>
    generalize hbytes : front ++ rest = bytes at h'
    cases h' with
    | spelling d => exact absurd ⟨rest', hbytes.symm⟩ (hstray.unspelled d)
    | stray hstray' =>
      have hlength := Nat.le_antisymm (hstray.length_le hstray' hbytes)
        (hstray'.length_le hstray hbytes.symm)
      exact ⟨rfl, (List.append_inj hbytes hlength).2⟩

theorem length_lt (h : Stretch bytes text rest) : rest.length < bytes.length := by
  cases h with
  | spelling c =>
    have hpos := List.length_pos_iff.2 (@String.utf8EncodeChar_ne_nil c)
    rw [List.length_append]
    omega
  | stray hstray =>
    have hpos := List.length_pos_iff.2 hstray.ne_nil
    rw [List.length_append]
    omega

/-- What a stretch is read as is spelled by some of its octets. -/
theorem encode_sublist (h : Stretch bytes text rest) {kept : Octets} (hkept : kept.Sublist rest) :
    (encode text ++ kept).Sublist bytes := by
  cases h with
  | spelling c =>
    rw [encode, List.flatMap_singleton]
    exact hkept.append_left _
  | stray => exact List.sublist_append_of_sublist_right hkept

end Stretch

/-! ## Begun characters -/

/-- No spelling is a beginning of another one. -/
theorem eq_of_encodeChar_prefix {c d : Char}
    (h : String.utf8EncodeChar c <+: String.utf8EncodeChar d) : c = d := by
  obtain ⟨more, hmore⟩ := h
  have hread := congrArg decode hmore
  rw [decode_encodeChar_append, ← List.append_nil (String.utf8EncodeChar d),
    decode_encodeChar_append] at hread
  exact (List.cons.inj hread).1

theorem tails_succ {n k : Nat} {b : UInt8} (h : b.toNat = n / 64 ^ k % 64 + 0x80) :
    tails n (k + 1) = b :: tails n k := by
  rw [tails, ← h, UInt8.ofNat_toNat]

namespace Begun

/-- A sound character of which some octets have been read.  The numbers within reach are those whose
spelling begins with these. -/
structure ReadFrom (g : Begun) (front : Octets) : Prop extends Sound g where
  /-- Some octet can come next. -/
  low_le_high : g.low.toNat ≤ g.high.toNat
  /-- A number within reach is spelled by the octets read and those still to come. -/
  spelled : ∀ n, g.Reaches n → String.utf8EncodeChar (Char.ofNat n) = front ++ tails n (g.owed + 1)
  /-- A character whose spelling begins with the octets read is within reach. -/
  reached : ∀ c, front <+: String.utf8EncodeChar c → g.Reaches c.toNat

theorem exists_reaches {g : Begun} (h : g.low.toNat ≤ g.high.toNat) : ∃ n, g.Reaches n := by
  refine ⟨g.least, reaches_iff.2 ?_⟩
  rw [least, Nat.mul_div_cancel _ (Nat.pow_pos (by decide))]
  omega

/-- The first octet of a spelling begins a character that can come to the one that is spelled. -/
theorem exists_reaches_of_prefix {b : UInt8} (hb : 0x80 ≤ b.toNat) {c : Char}
    (hc : [b] <+: String.utf8EncodeChar c) :
    ∃ g : Begun, firstOctet [] b = ([], some g) ∧ g.Reaches c.toNat := by
  have hvalid : c.toNat.isValidChar := c.valid
  rcases encodeChar_cases c with ⟨hascii, heq⟩ | ⟨k, lead, hlead, heq⟩
  · rw [heq, List.cons_prefix_cons] at hc
    rw [hc.1, UInt8.toNat_ofNat'] at hb
    omega
  · rw [heq, List.cons_prefix_cons] at hc
    obtain ⟨low, high, hfirst, hlow, hhigh⟩ := firstOctet_of_isLead [] hvalid hlead
    refine ⟨_, hc.1 ▸ hfirst, ?_⟩
    have hbits : c.toNat / 64 ^ (k + 1) = c.toNat / 64 ^ k / 64 := by
      rw [Nat.pow_succ, Nat.div_div_eq_div_mul]
    rw [reaches_iff, hbits]
    dsimp only
    omega

theorem LedBy.readFrom {g : Begun} {b : UInt8} (h : g.LedBy b) (hb : 0x80 ≤ b.toNat)
    (hfirst : firstOctet [] b = ([], some g)) : g.ReadFrom [b] := by
  refine ⟨h.toSound, h.low_le_high, fun n hn => ?_, fun c hc => ?_⟩
  · obtain ⟨-, hvalid⟩ := h.reach n hn.1 hn.2
    have hlead := h.isLead n hn
    rw [← toNat_ofNat_of_isValidChar hvalid] at hlead
    rw [encodeChar_of_isLead hlead, toNat_ofNat_of_isValidChar hvalid]
    rfl
  · obtain ⟨g', hfirst', hreaches⟩ := exists_reaches_of_prefix hb hc
    rw [hfirst, Prod.mk.injEq, Option.some.injEq] at hfirst'
    rwa [hfirst'.2]

namespace ReadFrom

variable {g : Begun} {front : Octets} {b : UInt8}

/-- The octets read are a beginning of a spelling that goes on. -/
theorem exists_spelling (h : g.ReadFrom front) :
    ∃ c b more, String.utf8EncodeChar c = front ++ b :: more := by
  obtain ⟨n, hn⟩ := exists_reaches h.low_le_high
  exact ⟨Char.ofNat n, _, tails n g.owed, h.spelled n hn⟩

/-- Characters of ASCII are never within reach, so something has been read. -/
theorem ne_nil (h : g.ReadFrom front) : front ≠ [] := by
  rintro rfl
  obtain ⟨hleast, hbound⟩ := h.reached 'a' List.nil_prefix
  exact absurd (h.reach _ hleast hbound).1 (by decide)

/-- One more octet of a spelling is the next one of those that are owed. -/
theorem div_eq_of_prefix (h : g.ReadFrom front) {c : Char}
    (hc : front ++ [b] <+: String.utf8EncodeChar c) :
    g.low.toNat ≤ b.toNat ∧ b.toNat ≤ g.high.toNat
      ∧ c.toNat / 64 ^ g.owed = g.bits * 64 + (b.toNat - 0x80) := by
  have hreaches : g.Reaches c.toNat := h.reached c (.trans (List.prefix_append front [b]) hc)
  have hspelled := h.spelled _ hreaches
  rw [Char.ofNat_toNat] at hspelled
  rw [hspelled, List.prefix_append_right_inj, tails, List.cons_prefix_cons] at hc
  have hb : b.toNat = c.toNat / 64 ^ g.owed % 64 + 0x80 := by rw [hc.1, toNat_tail]
  have hreach := reaches_iff.1 hreaches
  have hlow := h.low
  have hhigh := h.high
  have hrange := h.low_le_high
  omega

/-- An octet that carries a character on is the last of its spelling, or one more of it. -/
theorem carryOn (h : g.ReadFrom front) (hlow : g.low.toNat ≤ b.toNat)
    (hhigh : b.toNat ≤ g.high.toNat) :
    (∃ c, g.carryOn b = ([c], none) ∧ String.utf8EncodeChar c = front ++ [b])
      ∨ ∃ next : Begun, g.carryOn b = ([], some next) ∧ next.ReadFrom (front ++ [b]) := by
  have hreaches : ∀ {n}, n / 64 ^ g.owed = g.bits * 64 + (b.toNat - 0x80) → g.Reaches n := by
    intro n hn
    rw [reaches_iff, hn]
    omega
  have hspelled : ∀ {n}, n / 64 ^ g.owed = g.bits * 64 + (b.toNat - 0x80) →
      String.utf8EncodeChar (Char.ofNat n) = front ++ [b] ++ tails n g.owed := by
    intro n hn
    have hlow' := h.low
    have hhigh' := h.high
    have hb : b.toNat = n / 64 ^ g.owed % 64 + 0x80 := by omega
    rw [h.spelled n (hreaches hn), tails_succ hb, List.append_assoc]
    rfl
  unfold Begun.carryOn
  cases howed : g.owed with
  | zero =>
    rw [howed] at hspelled
    exact .inl ⟨_, rfl, (hspelled (by rw [Nat.pow_zero, Nat.div_one])).trans (List.append_nil _)⟩
  | succ owed =>
    rw [howed] at hreaches hspelled
    refine .inr ⟨_, rfl, ⟨by simp, by simp, fun n hleast hbound => ?_⟩, by simp, fun n hn => ?_,
      fun c hc => ?_⟩
    · obtain ⟨hleast', hbound'⟩ := hreaches (reaches_iff_of_any.1 ⟨hleast, hbound⟩)
      exact h.reach n hleast' hbound'
    · exact hspelled (reaches_iff_of_any.1 hn)
    · obtain ⟨-, -, hbits⟩ := h.div_eq_of_prefix hc
      rw [reaches_iff_of_any, ← hbits, howed]

/-- Where the next octet does not carry the character on, no longer beginning of a spelling stands. -/
theorem length_le (h : g.ReadFrom front) {rest : Octets}
    (hrest : ∀ b ∈ rest.head?, ¬(g.low.toNat ≤ b.toNat ∧ b.toNat ≤ g.high.toNat)) {q : Octets}
    (hq : q <+: front ++ rest) (hbegins : IsBeginning q) : q.length ≤ front.length := by
  by_contra hlong
  obtain ⟨c, hc⟩ := hbegins
  obtain ⟨more, rfl⟩ := List.prefix_of_prefix_length_le (List.prefix_append front rest) hq (by omega)
  cases more with
  | nil => simp at hlong
  | cons b more =>
    obtain ⟨tail, rfl⟩ := (List.prefix_append_right_inj front).1 hq
    have hnext : front ++ [b] <+: front ++ b :: more :=
      (List.prefix_append_right_inj front).2 ⟨more, rfl⟩
    obtain ⟨hlow, hhigh, -⟩ := h.div_eq_of_prefix (hnext.trans hc)
    exact hrest b rfl ⟨hlow, hhigh⟩

/-- The octets of a begun character that the next octet does not carry on belong to none. -/
theorem stray (h : g.ReadFrom front) {rest : Octets}
    (hrest : ∀ b ∈ rest.head?, ¬(g.low.toNat ≤ b.toNat ∧ b.toNat ≤ g.high.toNat)) :
    Stray front rest := by
  obtain ⟨d, b, more, hspelled⟩ := h.exists_spelling
  have hbegins : front <+: String.utf8EncodeChar d := ⟨b :: more, hspelled.symm⟩
  refine ⟨h.ne_nil, fun c hc => ?_, .inr ⟨d, hbegins⟩, fun q hq => h.length_le hrest hq⟩
  -- a spelling that ends among these octets would be a beginning of another one
  have hshort := h.length_le hrest hc ⟨c, List.prefix_rfl⟩
  have hwithin : String.utf8EncodeChar c <+: front :=
    List.prefix_of_prefix_length_le hc (List.prefix_append front rest) hshort
  obtain rfl : c = d := eq_of_encodeChar_prefix (hwithin.trans hbegins)
  rw [hspelled, List.length_append, List.length_cons] at hshort
  omega

/-- Whatever follows the octets read, they and what follows begin with one stretch, and it is read as
such. -/
theorem exists_stretch (h : g.ReadFrom front) (bytes : Octets) : ∃ text rest,
    Stretch (front ++ bytes) text rest ∧ decodeFrom [] (some g) bytes = text ++ decode rest := by
  induction bytes generalizing front g with
  | nil => exact ⟨[], [], .stray (h.stray (by simp)), rfl⟩
  | cons b bytes ih =>
    by_cases hin : g.low.toNat ≤ b.toNat ∧ b.toNat ≤ g.high.toNat
    · rw [decodeFrom, octetStep_of_mem [] hin.1 hin.2, List.append_cons]
      rcases h.carryOn hin.1 hin.2 with ⟨c, hcarry, hspelled⟩ | ⟨next, hcarry, hnext⟩
      · rw [hcarry, ← hspelled]
        exact ⟨[c], bytes, .spelling c bytes, rfl⟩
      · rw [hcarry]
        exact ih hnext
    · have hstray : Stray front (b :: bytes) := h.stray (by simpa using hin)
      refine ⟨[], b :: bytes, .stray hstray, ?_⟩
      rw [decodeFrom, octetStep_of_notMem [] hin]
      rfl

end ReadFrom

end Begun

/-! ## Reading -/

/-- An octet with which the reader does not begin a character belongs to none. -/
theorem stray_singleton {b : UInt8} (hb : 0x80 ≤ b.toNat) (hfirst : firstOctet [] b = ([], none))
    (rest : Octets) : Stray [b] rest := by
  have hnone : ∀ c, ¬ [b] <+: String.utf8EncodeChar c := by
    intro c hc
    obtain ⟨g, hbegun, -⟩ := Begun.exists_reaches_of_prefix hb hc
    simp [hfirst] at hbegun
  have hbegin : ∀ q c, q <+: [b] ++ rest → q <+: String.utf8EncodeChar c → q = [] := by
    intro q c hq hc
    cases q with
    | nil => rfl
    | cons d q =>
      obtain ⟨rfl, -⟩ := List.cons_prefix_cons.1 hq
      exact absurd (.trans ⟨q, rfl⟩ hc) (hnone c)
  refine ⟨by simp, fun c hc => ?_, .inl rfl, ?_⟩
  · exact String.utf8EncodeChar_ne_nil (hbegin _ c hc List.prefix_rfl)
  · rintro q hq ⟨c, hc⟩
    rw [hbegin q c hq hc]
    exact Nat.zero_le _

theorem encodeChar_ofNat_of_ascii {b : UInt8} (hb : b.toNat < 0x80) :
    String.utf8EncodeChar (Char.ofNat b.toNat) = [b] := by
  rw [encodeChar_of_ascii (by rwa [toNat_ofNat_octet]), toNat_ofNat_octet, UInt8.ofNat_toNat]

/-- Octets begin with a stretch, and it is read as such. -/
theorem exists_stretch {bytes : Octets} (hne : bytes ≠ []) :
    ∃ text rest, Stretch bytes text rest ∧ decode bytes = text ++ decode rest := by
  obtain ⟨b, bytes, rfl⟩ := List.exists_cons_of_ne_nil hne
  have hread : decode (b :: bytes)
      = (firstOctet [] b).1 ++ decodeFrom [] (firstOctet [] b).2 bytes := rfl
  rw [hread]
  rcases firstOctet_cases [] b with ⟨hb, hfirst⟩ | ⟨hb, hfirst⟩ | ⟨hb, g, hled, hfirst⟩
  · rw [hfirst]
    have hstretch := Stretch.spelling (Char.ofNat b.toNat) bytes
    rw [encodeChar_ofNat_of_ascii hb] at hstretch
    exact ⟨_, bytes, hstretch, rfl⟩
  · rw [hfirst]
    exact ⟨[], bytes, .stray (stray_singleton hb hfirst bytes), rfl⟩
  · rw [hfirst]
    exact (hled.readFrom hb hfirst).exists_stretch bytes

theorem Stretch.decode_eq {bytes rest : Octets} {text : Text} (h : Stretch bytes text rest) :
    decode bytes = text ++ decode rest := by
  have hne : bytes ≠ [] := List.ne_nil_of_length_pos (Nat.zero_lt_of_lt h.length_lt)
  obtain ⟨text', rest', h', hread⟩ := exists_stretch hne
  obtain ⟨rfl, rfl⟩ := h.unique h'
  exact hread

/-- What octets are read as by the rule is what the reader makes of them. -/
theorem readAs_iff {bytes : Octets} {s : Text} : ReadAs bytes s ↔ s = decode bytes := by
  constructor
  · intro h
    induction h with
    | nil => rfl
    | stretch hfirst _ ih => rw [hfirst.decode_eq, ih]
  · rintro rfl
    induction hn : bytes.length using Nat.strongRecOn generalizing bytes with
    | ind n ih =>
      by_cases hne : bytes = []
      · subst hne
        exact .nil
      · obtain ⟨text, rest, hfirst, hread⟩ := exists_stretch hne
        rw [hread]
        exact .stretch hfirst (ih rest.length (hn ▸ hfirst.length_lt) rfl)

/-! ## What is kept -/

/-- Reading keeps a subsequence of the octets. -/
theorem encode_decode_sublist (bytes : Octets) : (encode (decode bytes)).Sublist bytes := by
  have h := readAs_iff.2 (rfl : decode bytes = decode bytes)
  generalize decode bytes = s at h
  induction h with
  | nil => exact .slnil
  | stretch hfirst _ ih =>
    rw [encode, List.flatMap_append]
    exact hfirst.encode_sublist ih

/-- Reading keeps the octets of ASCII. -/
theorem filter_encode_decode (bytes : Octets) :
    (encode (decode bytes)).filter isAsciiOctet = bytes.filter isAsciiOctet := by
  have hkept := filter_isAscii_decode (encode (decode bytes))
  rw [decode_encode, filter_isAscii_decode] at hkept
  have hinjective : ∀ x y : UInt8, Char.ofNat x.toNat = Char.ofNat y.toNat → x = y := by
    intro x y hxy
    rw [← UInt8.toNat_inj, ← toNat_ofNat_octet x, hxy, toNat_ofNat_octet]
  exact ((List.map_inj_right hinjective).1 hkept).symm

/-- **Reading is lenient.**  Two pieces are read as they are read joined if the second does not begin
with an octet that carries a character on, or if the first spells a text.  Octets are kept as they are
if and only if they spell a text, so what has been read once is read as the same again.  What is kept of
any octets is a subsequence of them that holds all of ASCII, and what is left out are the strays, each
with the longest beginning of a spelling. -/
theorem decode_lenient (a b : Octets) :
    ((∀ x ∈ b.head?, isTail x = false) ∨ IsUtf8 a → decode (a ++ b) = decode a ++ decode b)
      ∧ (IsUtf8 a ↔ encode (decode a) = a)
      ∧ decode (encode (decode a)) = decode a
      ∧ (encode (decode a)).Sublist a
      ∧ (encode (decode a)).filter isAsciiOctet = a.filter isAsciiOctet
      ∧ ∀ s, ReadAs a s ↔ s = decode a := by
  refine ⟨?_, isUtf8_iff, decode_encode _, encode_decode_sublist a, filter_encode_decode a,
    fun s => readAs_iff⟩
  rintro (hhead | hspelled)
  · exact decode_append a hhead
  · obtain ⟨s, rfl⟩ := isUtf8_iff_exists.1 hspelled
    rw [decode_encode_append, decode_encode]

/-- A character is broken off before one that is none, and an octet that carries nothing on follows a
spelled text. -/
theorem decode_lenient_of_truncated :
    let spelled := encode "né".toList
    let broken : Octets := spelled ++ [0xE2, 0x9C]
    let surrogate : Octets := [0xED, 0xA0, 0x80, 0x61]
    let late : Octets := [0x93, 0x62]
    (∀ x ∈ surrogate.head?, isTail x = false)
      ∧ decode (broken ++ surrogate) = decode broken ++ decode surrogate
      ∧ IsUtf8 spelled ∧ decode (spelled ++ late) = decode spelled ++ decode late
      ∧ ReadAs (broken ++ surrogate) "néa".toList := by
  intro spelled broken surrogate late
  have hhead : ∀ x ∈ surrogate.head?, isTail x = false := by simp [surrogate, isTail]
  have hspelled : IsUtf8 spelled := by decide
  obtain ⟨hbroken, -⟩ := decode_lenient broken surrogate
  obtain ⟨hlate, -⟩ := decode_lenient spelled late
  obtain ⟨-, -, -, -, -, hread⟩ := decode_lenient (broken ++ surrogate) []
  exact ⟨hhead, hbroken (.inl hhead), hspelled, hlate (.inr hspelled), (hread _).2 (by decide)⟩

-- Octets that carry on what the first piece begins are read only where the pieces are joined.
example : decode ([0xE2] ++ [0x9C, 0x93]) ≠ decode [0xE2] ++ decode [0x9C, 0x93] := by decide

end Text

end TestWatch
