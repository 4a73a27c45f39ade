import TestWatch.TimeSpan
import TestWatch.Text.Blank
import TestWatch.Text.Quoted

/-!
# Reading spans of time

A span is written as one or more items, each a number and a unit: `1m 30s`, `2h`, `1.5 days`.  The
digits of a number may stand apart, a number may have a fraction, and blanks may stand between the
parts.  All values must fit 64 bits, and a fraction must come out in whole nanoseconds (from the
hour up in whole seconds).

`Item` is what one item says; `TimeSpan.read` reads a text of items.
-/

namespace TestWatch

open Text

namespace TimeSpan

/-! ## Units and errors -/

/-- The units of time. -/
inductive TimeUnit where
  /-- A nanosecond. -/
  | nanosecond
  /-- A microsecond. -/
  | microsecond
  /-- A millisecond. -/
  | millisecond
  /-- A second. -/
  | second
  /-- A minute. -/
  | minute
  /-- An hour. -/
  | hour
  /-- A day. -/
  | day
  /-- A week. -/
  | week
  /-- A month of 30.44 days. -/
  | month
  /-- A year of 365.25 days. -/
  | year
  deriving DecidableEq, Repr

/-- The spellings of a unit. -/
def TimeUnit.names : TimeUnit → List Text
  | .nanosecond => ["nanos".toList, "nsec".toList, "ns".toList]
  | .microsecond => ["usec".toList, "us".toList, "\u00b5s".toList]
  | .millisecond => ["millis".toList, "msec".toList, "ms".toList]
  | .second => ["seconds".toList, "second".toList, "secs".toList, "sec".toList, "s".toList]
  | .minute => ["minutes".toList, "minute".toList, "min".toList, "mins".toList, "m".toList]
  | .hour => ["hours".toList, "hour".toList, "hr".toList, "hrs".toList, "h".toList]
  | .day => ["days".toList, "day".toList, "d".toList]
  | .week => ["weeks".toList, "week".toList, "wk".toList, "wks".toList, "w".toList]
  | .month => ["months".toList, "month".toList, "M".toList]
  | .year => ["years".toList, "year".toList, "yr".toList, "yrs".toList, "y".toList]

/-- The units, shortest first. -/
def TimeUnit.all : List TimeUnit :=
  [.nanosecond, .microsecond, .millisecond, .second, .minute, .hour, .day, .week, .month, .year]

/-- The unit with a spelling. -/
def TimeUnit.ofName? (name : Text) : Option TimeUnit :=
  TimeUnit.all.find? fun unit => unit.names.contains name

/-- The length of a unit: so many seconds, or else so many nanoseconds. -/
inductive Measure where
  /-- A multiple of a second. -/
  | seconds (n : Nat)
  /-- A part of a second. -/
  | nanos (n : Nat)
  deriving DecidableEq, Repr

/-- How whole units are counted. -/
def TimeUnit.measure : TimeUnit → Measure
  | .nanosecond => .nanos 1
  | .microsecond => .nanos 1000
  | .millisecond => .nanos perMilli
  | .second => .seconds 1
  | .minute => .seconds 60
  | .hour => .seconds 3600
  | .day => .seconds 86400
  | .week => .seconds (7 * 86400)
  | .month => .seconds 2630016
  | .year => .seconds 31557600

/-- How fractions of a unit are counted, if it has any: up to the minute in nanoseconds. -/
def TimeUnit.fractionMeasure? : TimeUnit → Option Measure
  | .nanosecond => none
  | .second => some (.nanos perSecond)
  | .minute => some (.nanos (60 * perSecond))
  | unit => some unit.measure

/-- Why a text is no span of time. -/
inductive ReadError where
  /-- A character cannot stand at this octet. -/
  | invalidCharacter (offset : Nat)
  /-- A number has to stand at this octet. -/
  | numberExpected (offset : Nat)
  /-- A number is followed by no unit. -/
  | unitMissing (number : Nat)
  /-- A unit is not known. -/
  | unknownUnit (name : Text)
  /-- A value does not fit, or not without loss. -/
  | overflow
  /-- There is nothing to read. -/
  | empty
  deriving DecidableEq, Repr

/-- The wording of an error. -/
def ReadError.message : ReadError → Text
  | .invalidCharacter offset => "invalid character at ".toList ++ decimal offset
  | .numberExpected offset => "expected number at ".toList ++ decimal offset
  | .unitMissing number =>
    "time unit needed, for example ".toList ++ decimal number ++ "sec or ".toList ++ decimal number
      ++ "ms".toList
  | .unknownUnit name =>
    "unknown time unit ".toList ++ quoted name ++ ", supported units: ns, us/\u00b5s, ms, sec, min, hours, days, weeks, months, years (and few variations)".toList
  | .overflow =>
    "number is too large or cannot be represented without a lack of precision (values below 1ns are not supported)".toList
  | .empty => "value was empty".toList

/-! ## The value of an item -/

/-- A number below one: what stands after a point, as a quotient by a power of ten. -/
structure Fraction where
  /-- The digits after the point as a number. -/
  num : Nat
  /-- Ten to the number of digits. -/
  den : Nat
  deriving DecidableEq, Repr

/-- One item of a span. -/
structure Item where
  /-- The whole part of its number. -/
  whole : Nat
  /-- The fraction of its number. -/
  fraction : Option Fraction
  /-- Its unit as written. -/
  unit : Text
  deriving DecidableEq, Repr

/-- A number that fits 64 bits. -/
def fit (n : Nat) : Except ReadError Nat := if n < word64 then .ok n else .error .overflow

/-- Adds a number of seconds and of nanoseconds to a span; the nanoseconds beyond whole seconds,
together with those added, fit 64 bits, and so do the seconds.  What does not fit is refused, also
where only the carry of one whole second leads beyond the largest number of seconds. -/
def extend (t : TimeSpan) (seconds nanos : Nat) : Except ReadError TimeSpan := do
  let nanos ← fit (t.beyondSeconds + nanos)
  let _ ← fit (t.seconds + seconds + nanos / perSecond)
  .ok ⟨(t.seconds + seconds) * perSecond + nanos⟩

/-- Adds a quotient of units to a span; the quotient must be whole. -/
def extendBy (t : TimeSpan) (num den : Nat) : Measure → Except ReadError TimeSpan
  | .seconds unit => do
    let n ← fit (num * unit)
    if n % den = 0 then t.extend (n / den) 0 else .error .overflow
  | .nanos unit => do
    let n ← fit (num * unit)
    if n % den = 0 then t.extend 0 (n / den) else .error .overflow

/-- Adds an item to a span. -/
def addItem (t : TimeSpan) (item : Item) : Except ReadError TimeSpan :=
  match TimeUnit.ofName? item.unit with
  | none => .error (if item.unit.isEmpty then .unitMissing item.whole else .unknownUnit item.unit)
  | some unit => do
    let t ← t.extendBy item.whole 1 unit.measure
    match item.fraction with
    | none => .ok t
    | some fraction => match unit.fractionMeasure? with
      | none => .error .overflow
      | some measure => t.extendBy fraction.num fraction.den measure

/-! ## Reading items -/

/-- The number of octets in a text. -/
def octetCount (s : Text) : Nat := s.foldl (fun n c => n + c.utf8Size) 0

/-- A letter that a unit can hold. -/
def isUnitLetter (c : Char) : Bool :=
  ('a' ≤ c && c ≤ 'z') || ('A' ≤ c && c ≤ 'Z') || c == '\u00b5'

/-- A character that can stand in a number. -/
def isNumberPart (c : Char) : Bool := isDigit c || isBlank c

/-- The value of the digits in a text, which fits 64 bits. -/
def readNumber (s : Text) : Except ReadError Nat := fit (value (s.filter isDigit))

/-- The fraction that the digits in a text give; both numbers fit 64 bits. -/
def readFraction (s : Text) : Except ReadError Fraction := do
  let digits := s.filter isDigit
  let num ← fit (value digits)
  let den ← fit (Nat.pow 10 digits.length)
  .ok ⟨num, den⟩

/-- The offset at which `rest` begins in a text of `total` octets. -/
def offsetOf (total : Nat) (rest : Text) : Nat := total - octetCount rest

/-- Reads the fraction of a number, if a point comes next, up to the unit. -/
def readFractionPart (total : Nat) (s : Text) : Except ReadError (Option Fraction × Text) :=
  match s with
  | '.' :: t => do
    let part := t.takeWhile isNumberPart
    let rest := t.dropWhile isNumberPart
    let offset := if part.isEmpty then offsetOf total s else offsetOf total rest
    let fraction ← readFraction part
    match rest with
    | c :: _ => if isUnitLetter c then pure () else .error (.invalidCharacter offset)
    | [] => pure ()
    if fraction.den = 1 then .error (.invalidCharacter offset)
    .ok (some fraction, rest)
  | c :: _ =>
    if isUnitLetter c then .ok (none, s) else .error (.invalidCharacter (offsetOf total s))
  | [] => .ok (none, [])

/-- Reads an item off the front of a text, up to the next number. -/
def readItem (total : Nat) (s : Text) : Except ReadError (Item × Text) := do
  let whole ← readNumber (s.takeWhile isNumberPart)
  let (fraction, rest) ← readFractionPart total (s.dropWhile isNumberPart)
  let unit := rest.takeWhile isUnitLetter
  let rest := rest.dropWhile isUnitLetter
  match rest with
  | c :: _ => if isNumberPart c then pure () else .error (.invalidCharacter (offsetOf total rest))
  | [] => pure ()
  .ok (⟨whole, fraction, unit⟩, rest)

/-- Reads the items of a text and adds them to a span.  Every item takes a character at least, so
that `fuel` need not be more than the length of the text. -/
def readItems (total : Nat) : (fuel : Nat) → TimeSpan → Text → Except ReadError TimeSpan
  | 0, t, _ => .ok t
  | fuel + 1, t, s =>
    match trimFront s with
    | [] => .ok t
    | c :: rest =>
      if isDigit c then do
        let (item, rest) ← readItem total (c :: rest)
        let t ← t.addItem item
        readItems total fuel t rest
      else .error (.numberExpected (offsetOf total (c :: rest)))

/-- The span that a text gives.  A lone zero needs no unit. -/
def read (s : Text) : Except ReadError TimeSpan :=
  if s = ['0'] then .ok zero
  else if (trimFront s).isEmpty then .error .empty
  else readItems (octetCount s) s.length zero s

end TimeSpan

end TestWatch
