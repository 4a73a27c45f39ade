import TestWatch.Number.Binary64

/-!
# Spans of time

A span of time in whole nanoseconds, and how it is written in seconds with three places.
-/

namespace TestWatch

open Text

/-- A span of time. -/
structure TimeSpan where
  /-- Its length in nanoseconds. -/
  nanos : Nat
  deriving DecidableEq, Repr

namespace TimeSpan

/-- The nanoseconds in a second. -/
def perSecond : Nat := 1000000000

/-- The nanoseconds in a millisecond. -/
def perMilli : Nat := 1000000

/-- No time at all. -/
def zero : TimeSpan := ⟨0⟩

/-- A number of seconds. -/
def ofSeconds (n : Nat) : TimeSpan := ⟨n * perSecond⟩

/-- A number of milliseconds. -/
def ofMillis (n : Nat) : TimeSpan := ⟨n * perMilli⟩

/-- The whole seconds in a span. -/
def seconds (t : TimeSpan) : Nat := t.nanos / perSecond

/-- The nanoseconds beyond the whole seconds. -/
def beyondSeconds (t : TimeSpan) : Nat := t.nanos % perSecond

/-- The whole milliseconds in a span. -/
def millis (t : TimeSpan) : Nat := t.nanos / perMilli

/-- Whether a span is no time at all. -/
def isZero (t : TimeSpan) : Bool := t.nanos == 0

/-- The span in seconds as a binary floating-point number: whole seconds and the rest are rounded
each, and so is their sum. -/
def inSeconds? (t : TimeSpan) : Option Binary64 := do
  let whole ← Binary64.nearest? ⟨t.seconds, 1⟩
  let rest ← Binary64.nearest? ⟨t.beyondSeconds, perSecond⟩
  Binary64.nearest? (whole.sum rest)

/-- The span in seconds with three places. -/
def written (t : TimeSpan) : Text :=
  match t.inSeconds? with
  | some x => Binary64.fixed 3 x.toRatio ++ ['s']
  | none => "inf".toList ++ ['s']

example : (ofMillis 1999).written = "1.999s".toList := by decide +kernel

/-- An exact half goes to the even neighbour. -/
example : (TimeSpan.mk 62500000).written = "0.062s".toList := by decide +kernel

end TimeSpan

end TestWatch
