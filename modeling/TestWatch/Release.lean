import TestWatch.Text.Blank
import TestWatch.Text.Numeral

/-!
# Releases

The numbers by which releases are named: major, minor and patch, then perhaps what the release comes
before, after a hyphen, and how it was built, after a plus sign.  `Release.read` takes such a name
strictly; `Release.ofToken?` also takes the two-part names of earlier days and a `v` in front.
`Release.last?` finds the last release that a text names.

Releases are ordered by `Release.order`.  What comes before a release is ordered before it
(`order_core_of_isSome`), so that two releases are compared by their numbers alone only without it
(`Release.core`).
-/

namespace TestWatch

open Text

/-- The name of a release. -/
structure Release where
  /-- The first number. -/
  major : Nat
  /-- The second number. -/
  minor : Nat
  /-- The third number. -/
  patch : Nat
  /-- What the release comes before, if anything. -/
  before : Option Text
  /-- How it was built, if that is said. -/
  build : Option Text
  deriving DecidableEq, Repr

namespace Release

/-- A release with three numbers alone. -/
def plain (major minor patch : Nat) : Release := ⟨major, minor, patch, none, none⟩

/-- A part of a name behind the character that introduces it. -/
def suffix (mark : Char) : Option Text → Text
  | none => []
  | some part => mark :: part

/-- The name as it is written. -/
def shown (r : Release) : Text :=
  decimal r.major ++ '.' :: decimal r.minor ++ '.' :: decimal r.patch ++ suffix '-' r.before
    ++ suffix '+' r.build

/-! ## Reading -/

/-- A number without leading zeros that fits 64 bits. -/
def readNumber (s : Text) : Option Nat :=
  if s.isEmpty || !s.all isDigit || (1 < s.length && s.head? = some '0') then none
  else word64? s

/-- A character that can stand in the parts after the numbers, dots aside. -/
def isTagChar (c : Char) : Bool :=
  isDigit c || ('a' ≤ c && c ≤ 'z') || ('A' ≤ c && c ≤ 'Z') || c == '-'

/-- An identifier in the part that says how a release was built. -/
def isBuildTag (s : Text) : Bool := !s.isEmpty && s.all isTagChar

/-- An identifier in the part that says what a release comes before: a number in it has no leading
zeros. -/
def isBeforeTag (s : Text) : Bool :=
  isBuildTag s && !(s.all isDigit && 1 < s.length && s.head? = some '0')

/-- A part made of identifiers, if it is there at all. -/
def readTags (isTag : Text → Bool) : Option Text → Option (Option Text)
  | none => some none
  | some part => if (split '.' part).all isTag then some (some part) else none

/-- A text cut at the first `mark`, if there is one. -/
def cutOff (mark : Char) (s : Text) : Text × Option Text :=
  match cutAt mark s with
  | none => (s, none)
  | some (a, b) => (a, some b)

/-- The release with exactly this name. -/
def read (s : Text) : Option Release :=
  let built := cutOff '+' s
  let core := cutOff '-' built.1
  match split '.' core.1 with
  | [a, b, c] => do
    let major ← readNumber a
    let minor ← readNumber b
    let patch ← readNumber c
    let before ← readTags isBeforeTag core.2
    let build ← readTags isBuildTag built.2
    some ⟨major, minor, patch, before, build⟩
  | _ => none

/-- A release named by two numbers, which may have leading zeros and a plus sign. -/
def readPair (s : Text) : Option Release := do
  let (a, b) ← cutAt '.' s
  let major ← word64? a
  let minor ← word64? b
  some (plain major minor 0)

/-- The release that a word names, if it does. -/
def ofToken? (word : Text) : Option Release :=
  let name := (dropFront? ['v'] word).getD word
  (read name).or (readPair name)

/-- The last release that a text names. -/
def last? (s : Text) : Option Release := (words s).reverse.findSome? ofToken?

/-! ## The order of releases -/

/-- A release without what stands behind its numbers. -/
def core (r : Release) : Release := plain r.major r.minor r.patch

/-- The order of two identifiers: numbers by their values and before words, words character by
character. -/
def compareTags (a b : Text) : Ordering :=
  match a.all isDigit, b.all isDigit with
  | true, true => compare (value a) (value b)
  | true, false => .lt
  | false, true => .gt
  | false, false => compare a b

/-- The order of two releases with the same numbers: what comes before a release precedes it, and
otherwise the first identifier that differs decides. -/
def compareBefore : Option Text → Option Text → Ordering
  | none, none => .eq
  | none, some _ => .gt
  | some _, none => .lt
  | some a, some b => List.compareLex compareTags (split '.' a) (split '.' b)

/-- The order of two releases by precedence: the first number that differs decides, then what they
come before.  How they were built is left out, so that releases of one core can be equal here and yet
differ there; a core itself has nothing to leave out. -/
def order (a b : Release) : Ordering :=
  (compare a.major b.major).then ((compare a.minor b.minor).then
    ((compare a.patch b.patch).then (compareBefore a.before b.before)))

/-- What comes before a release is ordered before it. -/
theorem order_core_of_isSome {r : Release} (h : r.before.isSome = true) : order r r.core = .lt := by
  obtain ⟨before, hbefore⟩ := Option.isSome_iff_exists.1 h
  simp [order, core, plain, compareBefore, hbefore]

/-! ## Names read back -/

/-- A written number is read back if it fits 64 bits. -/
theorem readNumber_decimal {n : Nat} (h : n < word64) : readNumber (decimal n) = some n := by
  have hdigits : (decimal n).all isDigit = true :=
    List.all_eq_true.2 fun c hc => isDigit_of_mem_decimal hc
  have hzero : ¬ (1 < (decimal n).length ∧ (decimal n).head? = some '0') := by
    by_cases hn : n = 0
    · subst hn; unfold decimal; simp
    · exact fun hz => head_decimal hn hz.2
  unfold readNumber
  rw [if_neg]
  · simp only [word64?, readWord64_decimal h, Except.toOption]
  · simp only [Bool.or_eq_true, List.isEmpty_iff, decimal_ne_nil, hdigits, Bool.not_true,
      Bool.and_eq_true, decide_eq_true_eq, false_or, Bool.false_eq_true]
    exact hzero

end Release

end TestWatch
