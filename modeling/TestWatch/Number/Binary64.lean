import TestWatch.Text.Numeral

/-!
# Binary64 numbers

The numbers of the 64-bit binary floating-point format as exact values: a mantissa below `2 ^ 53`
times a power of two.  Rounding a quotient to the nearest such number, adding, and writing a number
in decimal are done in exact arithmetic on natural numbers.

Numbers here are not negative; `SignedBinary64` puts a sign before them and adds what is not finite.
-/

namespace TestWatch

open Text

/-- A finite number of the format that is not negative: `mantissa * 2 ^ exponent`. -/
structure Binary64 where
  /-- The mantissa, below `2 ^ 53`. -/
  mantissa : Nat
  /-- The power of two. -/
  exponent : Int
  deriving DecidableEq, Repr

/-- A quotient of natural numbers, the second not zero. -/
structure Ratio where
  /-- The number above the line. -/
  num : Nat
  /-- The number below the line. -/
  den : Nat
  deriving DecidableEq, Repr

/-- Divides and rounds to the nearest natural number; a half goes to the even one. -/
def roundHalfEven (q : Ratio) : Nat :=
  let n := q.num / q.den
  let rest := q.num % q.den
  if 2 * rest < q.den then n
  else if q.den < 2 * rest then n + 1
  else n + n % 2

/-- Divides and rounds to the nearest natural number; a half goes up. -/
def roundHalfUp (q : Ratio) : Nat := (2 * q.num + q.den) / (2 * q.den)

/-- A quotient divided by a power of two. -/
def Ratio.shiftDown (q : Ratio) : Int → Ratio
  | .ofNat n => ⟨q.num, q.den * Nat.pow 2 n⟩
  | .negSucc n => ⟨q.num * Nat.pow 2 (n + 1), q.den⟩

namespace Binary64

/-- The least power of two in the format. -/
def leastExponent : Int := -1074

/-- The greatest power of two in the format. -/
def greatestExponent : Int := 971

/-- Zero. -/
def zero : Binary64 := ⟨0, leastExponent⟩

/-- The exact value of a number. -/
def toRatio (x : Binary64) : Ratio :=
  match x.exponent with
  | .ofNat n => ⟨x.mantissa * Nat.pow 2 n, 1⟩
  | .negSucc n => ⟨x.mantissa, Nat.pow 2 (n + 1)⟩

/-- The power of two for which the mantissa of a quotient has 53 bits, or the least one. -/
def exponentFor (q : Ratio) : Int :=
  let guess : Int := (q.num.log2 : Int) - (q.den.log2 : Int) - 53
  let exact := if (q.shiftDown guess).num / (q.shiftDown guess).den < Nat.pow 2 53 then guess
    else guess + 1
  max exact leastExponent

/-- The number of the format that is nearest to a quotient, a tie going to the even mantissa; there
is none if the quotient is beyond the format. -/
def nearest? (q : Ratio) : Option Binary64 :=
  if q.num = 0 then some zero
  else
    let exponent := exponentFor q
    let mantissa := roundHalfEven (q.shiftDown exponent)
    let x : Binary64 :=
      if mantissa = Nat.pow 2 53 then ⟨Nat.pow 2 52, exponent + 1⟩ else ⟨mantissa, exponent⟩
    if greatestExponent < x.exponent then none else some x

/-- The exact sum of two numbers. -/
def sum (x y : Binary64) : Ratio :=
  let a := x.toRatio
  let b := y.toRatio
  ⟨a.num * b.den + b.num * a.den, a.den * b.den⟩

/-! ## In decimal, with a fixed number of places -/

/-- A quotient with `places` digits after the point; a half goes to the even neighbour. -/
def fixed (places : Nat) (q : Ratio) : Text :=
  let scaled := roundHalfEven ⟨q.num * Nat.pow 10 places, q.den⟩
  decimal (scaled / Nat.pow 10 places) ++ '.' :: padded places (scaled % Nat.pow 10 places)

/-! ## In decimal, with the fewest digits that read back -/

/-- Whether a quotient is nearer to `x` than to every other number of the format; a quotient half
way to a neighbour counts if the mantissa is even, as it is then rounded to `x`. -/
def readsBack (x : Binary64) (q : Ratio) : Bool :=
  match nearest? q with
  | some y => y.toRatio.num * x.toRatio.den == x.toRatio.num * y.toRatio.den
  | none => false

/-- A decimal number: digits, and the power of ten of the last one. -/
structure Decimal where
  /-- The digits as a number. -/
  digits : Nat
  /-- The power of ten of the last digit. -/
  power : Int
  deriving DecidableEq, Repr

/-- The exact value of a decimal number. -/
def Decimal.toRatio (d : Decimal) : Ratio :=
  match d.power with
  | .ofNat n => ⟨d.digits * Nat.pow 10 n, 1⟩
  | .negSucc n => ⟨d.digits, Nat.pow 10 (n + 1)⟩

/-- A quotient divided by a power of ten. -/
def scaleDown (q : Ratio) : Int → Ratio
  | .ofNat n => ⟨q.num, q.den * Nat.pow 10 n⟩
  | .negSucc n => ⟨q.num * Nat.pow 10 (n + 1), q.den⟩

/-- A power of ten that is above a quotient, which is not zero. -/
def powerAbove (q : Ratio) : Int :=
  if q.den ≤ q.num then (decimal (q.num / q.den)).length
  else 2 - ((decimal (q.den / q.num)).length : Int)

/-- The decimal number nearest to `x` with its last digit at a power of ten, if it reads back. -/
def onGrid? (x : Binary64) (power : Int) : Option Decimal :=
  let q := scaleDown x.toRatio power
  let below := q.num / q.den
  let near := roundHalfEven q
  let far := if near = below then below + 1 else below
  if x.readsBack (Decimal.toRatio ⟨near, power⟩) then some ⟨near, power⟩
  else if x.readsBack (Decimal.toRatio ⟨far, power⟩) then some ⟨far, power⟩
  else none

/-- The first of the grids from `place` downwards with a number that reads back; seventeen digits
always do. -/
def shortestFrom (x : Binary64) (place : Int) : (grids : Nat) → Decimal
  | 0 => ⟨0, 0⟩
  | grids + 1 => match x.onGrid? place with
    | some d => d
    | none => shortestFrom x (place - 1) grids

/-- The decimal number with the fewest digits that reads back as `x`. -/
def shortest (x : Binary64) : Decimal :=
  shortestFrom x (powerAbove x.toRatio) 20

/-- A decimal number written without a power of ten, and without a point if it is whole. -/
def Decimal.written (d : Decimal) : Text :=
  match d.power with
  | .ofNat n => if d.digits = 0 then ['0'] else decimal d.digits ++ List.replicate n '0'
  | .negSucc n =>
    let digits := padded (n + 2) d.digits
    digits.take (digits.length - (n + 1)) ++ '.' :: digits.drop (digits.length - (n + 1))

/-- A number as it is written: the fewest digits that read back, without a power of ten. -/
def written (x : Binary64) : Text := if x.mantissa = 0 then ['0'] else x.shortest.written

end Binary64

/-! ## With signs -/

/-- A number of the format with its sign, or what is not finite. -/
inductive SignedBinary64 where
  /-- A finite number. -/
  | finite (negative : Bool) (size : Binary64)
  /-- An infinity. -/
  | infinite (negative : Bool)
  /-- No number. -/
  | notANumber
  deriving DecidableEq, Repr

namespace SignedBinary64

/-- A number as it is written; zero keeps its sign. -/
def written : SignedBinary64 → Text
  | .finite negative x => (if negative then ['-'] else []) ++ x.written
  | .infinite negative => (if negative then ['-'] else []) ++ "inf".toList
  | .notANumber => "NaN".toList

/-- The nearest natural number below `2 ^ 64`, a half going away from zero; what is no number
counts as zero. -/
def toWord64 : SignedBinary64 → Nat
  | .finite negative x => if negative then 0 else min (roundHalfUp x.toRatio) (word64 - 1)
  | .infinite negative => if negative then 0 else word64 - 1
  | .notANumber => 0

end SignedBinary64

end TestWatch
