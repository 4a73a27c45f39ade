import TestWatch.Text.Numeral
import TestWatch.Toml

/-!
# Bare values

The values of a TOML document that stand without quotes or brackets: truth values, integers,
floating-point numbers, dates and times.  Each reader takes the whole text of a value.
-/

namespace TestWatch

namespace Toml

open Text

/-! ## Digits -/

/-- The digits of a row in which single underscores may stand between digits. -/
def ungrouped (isDigitOf : Char → Bool) (s : Text) : Option Text :=
  let groups := split '_' s
  if groups.all fun group => !group.isEmpty && group.all isDigitOf then some groups.flatten
  else none

/-- The digits of a decimal row without leading zeros. -/
def wholeDigits (s : Text) : Option Text := do
  let digits ← ungrouped isDigit s
  if 1 < digits.length && digits.head? = some '0' then none else some digits

/-- A sign, if there is one, and the text after it. -/
def cutSign : Text → Bool × Text
  | '-' :: s => (true, s)
  | '+' :: s => (false, s)
  | s => (false, s)

/-! ## Integers -/

/-- The value of a letter or digit in bases up to sixteen. -/
def baseDigit? (c : Char) : Option Nat :=
  if '0' ≤ c && c ≤ '9' then some (c.toNat - '0'.toNat)
  else if 'a' ≤ c && c ≤ 'f' then some (c.toNat - 'a'.toNat + 10)
  else if 'A' ≤ c && c ≤ 'F' then some (c.toNat - 'A'.toNat + 10)
  else none

/-- Whether a character is a digit in a base. -/
def isBaseDigit (base : Nat) (c : Char) : Bool := (baseDigit? c).any (· < base)

/-- The value of digits in a base. -/
def baseValue (base : Nat) (digits : Text) : Nat :=
  digits.foldl (fun n c => base * n + (baseDigit? c).getD 0) 0

/-- An integer from `-2 ^ 63` up to `2 ^ 63 - 1`. -/
def int64? (n : Int) : Option Int :=
  if -Int.ofNat (Nat.pow 2 63) ≤ n ∧ n < Int.ofNat (Nat.pow 2 63) then some n else none

/-- A number in a base other than ten. -/
def readBased (base : Nat) (s : Text) : Option Int := do
  let digits ← ungrouped (isBaseDigit base) s
  int64? (baseValue base digits)

/-- An integer. -/
def readInteger : Text → Option Int
  | '0' :: 'x' :: s => readBased 16 s
  | '0' :: 'o' :: s => readBased 8 s
  | '0' :: 'b' :: s => readBased 2 s
  | s => do
    let digits ← wholeDigits (cutSign s).2
    int64? (if (cutSign s).1 then -Int.ofNat (value digits) else Int.ofNat (value digits))

/-! ## Floating-point numbers -/

/-- More places than any number of the format takes. -/
def manyPlaces : Int := 400

/-- The number of the format that is nearest to a row of digits times a power of ten, if it is not
beyond the format.  What is far below the least number of the format is zero. -/
def nearestDecimal? (digits : Text) (power : Int) : Option Binary64 :=
  let significant := digits.dropWhile (· == '0')
  let size := significant.length + power
  if significant.isEmpty || size < -manyPlaces then some Binary64.zero
  else if manyPlaces < size then none
  else Binary64.nearest? (Binary64.Decimal.toRatio ⟨value significant, power⟩)

/-- The text up to an exponent, and the exponent's own text if there is one. -/
def cutExponent : Text → Text × Option Text
  | [] => ([], none)
  | c :: s =>
    if c = 'e' || c = 'E' then ([], some s) else (c :: (cutExponent s).1, (cutExponent s).2)

/-- An exponent. -/
def readExponent (s : Text) : Option Int := do
  let digits ← ungrouped isDigit (cutSign s).2
  some (if (cutSign s).1 then -Int.ofNat (value digits) else Int.ofNat (value digits))

/-- A finite number without its sign: whole digits, then a fraction or an exponent or both. -/
def readSize (s : Text) : Option Binary64 := do
  let (mantissa, exponent) := cutExponent s
  match cutAt '.' mantissa, exponent with
  | none, none => none
  | none, some exponent =>
    let whole ← wholeDigits mantissa
    nearestDecimal? whole (← readExponent exponent)
  | some (whole, fraction), exponent =>
    let whole ← wholeDigits whole
    let fraction ← ungrouped isDigit fraction
    let power ← match exponent with
      | none => some 0
      | some exponent => readExponent exponent
    nearestDecimal? (whole ++ fraction) (power - fraction.length)

/-- A floating-point number. -/
def readFloat (s : Text) : Option SignedBinary64 :=
  let unsigned := (cutSign s).2
  if unsigned = "inf".toList then some (.infinite (cutSign s).1)
  else if unsigned = "nan".toList then some .notANumber
  else (readSize unsigned).map (.finite (cutSign s).1)

/-! ## Dates and times -/

/-- The value of two digits that is within bounds. -/
def twoDigits (low high : Nat) (a b : Char) : Option Nat :=
  if isDigit a && isDigit b && low ≤ value [a, b] && value [a, b] ≤ high then some (value [a, b])
  else none

/-- Whether a year has a leap day. -/
def isLeap (year : Nat) : Bool := year % 4 == 0 && (year % 100 != 0 || year % 400 == 0)

/-- The number of days in a month. -/
def daysIn (year month : Nat) : Nat :=
  if month = 2 then (if isLeap year then 29 else 28)
  else if month = 4 ∨ month = 6 ∨ month = 9 ∨ month = 11 then 30
  else 31

/-- A date at the front of a text, as it is written, and the text after it. -/
def readDate : Text → Option (Text × Text)
  | y₁ :: y₂ :: y₃ :: y₄ :: '-' :: m₁ :: m₂ :: '-' :: d₁ :: d₂ :: rest => do
    let year := [y₁, y₂, y₃, y₄]
    if !year.all isDigit then none
    let month ← twoDigits 1 12 m₁ m₂
    let _ ← twoDigits 1 (daysIn (value year) month) d₁ d₂
    some (year ++ ['-', m₁, m₂, '-', d₁, d₂], rest)
  | _ => none

/-- The text without the zeros that it ends with. -/
def trimZeros (s : Text) : Text := (s.reverse.dropWhile (· == '0')).reverse

/-- A fraction of a second as it is written: at most nine digits, without the zeros at its end. -/
def fractionDigits (digits : Text) : Text :=
  match trimZeros (digits.take 9) with
  | [] => ['0']
  | kept => kept

/-- The fraction of a second at the front of a text, and the text after it. -/
def readSecondFraction : Text → Option (Text × Text)
  | '.' :: rest =>
    let digits := rest.takeWhile isDigit
    if digits.isEmpty then none
    else some ('.' :: fractionDigits digits, rest.dropWhile isDigit)
  | rest => some ([], rest)

/-- A time of day at the front of a text, as it is written, and the text after it.  The seconds may
be left out. -/
def readTime : Text → Option (Text × Text)
  | h₁ :: h₂ :: ':' :: m₁ :: m₂ :: rest => do
    let _ ← twoDigits 0 23 h₁ h₂
    let _ ← twoDigits 0 59 m₁ m₂
    match rest with
    | ':' :: s₁ :: s₂ :: rest =>
      let _ ← twoDigits 0 60 s₁ s₂
      let (fraction, rest) ← readSecondFraction rest
      some ([h₁, h₂, ':', m₁, m₂, ':', s₁, s₂] ++ fraction, rest)
    | rest => some ([h₁, h₂, ':', m₁, m₂], rest)
  | _ => none

/-- The distance of a local time from universal time, as it is written; there need not be one. -/
def readOffset : Text → Option Text
  | [] => some []
  | ['Z'] | ['z'] => some ['Z']
  | [sign, h₁, h₂, ':', m₁, m₂] => do
    if sign ≠ '+' ∧ sign ≠ '-' then none
    let hours ← twoDigits 0 23 h₁ h₂
    let minutes ← twoDigits 0 59 m₁ m₂
    some ((if hours = 0 ∧ minutes = 0 then '+' else sign) :: [h₁, h₂, ':', m₁, m₂])
  | _ => none

/-- A character that can stand between a date and a time. -/
def isMomentGap (c : Char) : Bool := c == 'T' || c == 't' || c == ' '

/-- A date, a time, or both, as they are written. -/
def readMoment (s : Text) : Option Text :=
  match readDate s with
  | some (date, []) => some date
  | some (date, gap :: rest) =>
    if isMomentGap gap then do
      let (time, rest) ← readTime rest
      let offset ← readOffset rest
      some (date ++ 'T' :: time ++ offset)
    else none
  | none => do
    let (time, rest) ← readTime s
    if rest.isEmpty then some time else none

/-! ## All together -/

/-- The value with this text. -/
def readBare (s : Text) : Option Value :=
  if s = "true".toList then some (.bool true)
  else if s = "false".toList then some (.bool false)
  else (((readInteger s).map Value.int).or ((readFloat s).map Value.float)).or
    ((readMoment s).map Value.moment)

example : readMoment "1979-05-27t07:32:00.120z".toList = some "1979-05-27T07:32:00.12Z".toList := by
  decide +kernel

example : readInteger "-9_223_372_036_854_775_808".toList = some (-9223372036854775808) := by
  decide +kernel

end Toml

end TestWatch
