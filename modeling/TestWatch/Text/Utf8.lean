import TestWatch.Text.Basic

/-!
# UTF-8

Texts as octets and back.  Reading is lenient: octets that belong to no character are replaced by
a filler, once for each longest beginning of a character that is not carried on.  With the empty
filler this drops them, with U+FFFD it marks them.

The reader is a machine that takes one octet at a time and owes at most one character, so that a
text may arrive in pieces: `decodeFrom_append` says that reading two pieces one after the other is
reading them joined.
-/

namespace TestWatch

/-- Octets in the order in which they arrive. -/
abbrev Octets := List UInt8

namespace Text

/-- The UTF-8 octets of a text. -/
def encode (s : Text) : Octets := s.flatMap String.utf8EncodeChar

/-! ## The reader's machine -/

/-- A character of which some octets have been read. -/
structure Begun where
  /-- The bits read so far. -/
  bits : Nat
  /-- How many octets are owed after the next one. -/
  owed : Nat
  /-- The least octet that can come next. -/
  low : UInt8
  /-- The greatest octet that can come next. -/
  high : UInt8
  deriving DecidableEq, Repr

/-- What one octet leads to: the text that it completes, and the character left begun. -/
abbrev Step := Text × Option Begun

/-- The step for an octet between characters.  The bounds on a second octet leave out the long
spellings, the surrogates and everything above U+10FFFF. -/
def firstOctet (filler : Text) (b : UInt8) : Step :=
  if b < 0x80 then ([Char.ofNat b.toNat], none)
  else if b < 0xC2 then (filler, none)
  else if b < 0xE0 then ([], some ⟨b.toNat - 0xC0, 0, 0x80, 0xBF⟩)
  else if b == 0xE0 then ([], some ⟨0, 1, 0xA0, 0xBF⟩)
  else if b == 0xED then ([], some ⟨0xD, 1, 0x80, 0x9F⟩)
  else if b < 0xF0 then ([], some ⟨b.toNat - 0xE0, 1, 0x80, 0xBF⟩)
  else if b == 0xF0 then ([], some ⟨0, 2, 0x90, 0xBF⟩)
  else if b < 0xF4 then ([], some ⟨b.toNat - 0xF0, 2, 0x80, 0xBF⟩)
  else if b == 0xF4 then ([], some ⟨4, 2, 0x80, 0x8F⟩)
  else (filler, none)

/-- The step for an octet that carries a begun character on. -/
def Begun.carryOn (g : Begun) (b : UInt8) : Step :=
  let bits := g.bits * 64 + (b.toNat - 0x80)
  match g.owed with
  | 0 => ([Char.ofNat bits], none)
  | owed + 1 => ([], some ⟨bits, owed, 0x80, 0xBF⟩)

/-- One octet: it carries the begun character on, or else that one is given up and the octet is
read as a first one. -/
def octetStep (filler : Text) (state : Option Begun) (b : UInt8) : Step :=
  match state with
  | none => firstOctet filler b
  | some g =>
    if g.low ≤ b && b ≤ g.high then g.carryOn b
    else
      let (text, next) := firstOctet filler b
      (filler ++ text, next)

/-- Reads octets from a state of the machine; a character left begun at the end is given up. -/
def decodeFrom (filler : Text) : Option Begun → Octets → Text
  | none, [] => []
  | some _, [] => filler
  | state, b :: bytes =>
    (octetStep filler state b).1 ++ decodeFrom filler (octetStep filler state b).2 bytes

/-- The text that the machine completes while it reads, and the state that it is left in. -/
def decodeRun (filler : Text) (state : Option Begun) : Octets → Step
  | [] => ([], state)
  | b :: bytes =>
    let (text, next) := octetStep filler state b
    let (more, last) := decodeRun filler next bytes
    (text ++ more, last)

/-- Reading two pieces one after the other is reading them joined. -/
theorem decodeFrom_append (filler : Text) (state : Option Begun) (a b : Octets) :
    decodeFrom filler state (a ++ b)
      = (decodeRun filler state a).1 ++ decodeFrom filler (decodeRun filler state a).2 b := by
  induction a generalizing state with
  | nil => rfl
  | cons x a ih => simp only [List.cons_append, decodeFrom, decodeRun, ih, List.append_assoc]

/-! ## The two readings -/

/-- The text of some octets, without what belongs to no character. -/
def decode (bytes : Octets) : Text := decodeFrom [] none bytes

/-- The text of some octets, with U+FFFD for what belongs to no character. -/
def decodeMarking (bytes : Octets) : Text := decodeFrom ['\uFFFD'] none bytes

example : decode [0x61, 0xE2, 0x9C, 0x62, 0xFF, 0x63] = "abc".toList := by decide

example : decodeMarking [0x61, 0xE2, 0x9C, 0x62, 0xED, 0xA0] = "a\uFFFDb\uFFFD\uFFFD".toList := by
  decide

example : decode (encode "é✓😀".toList) = "é✓😀".toList := by decide

end Text

end TestWatch
