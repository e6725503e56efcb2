import Rendezvous.Binary64

/-!
The shortest decimal that reads back as a given binary64 number.

Every number owns the interval of reals that round to it, ends included when
its significand is even.  For one digit, two digits and so on, the two grid
points next to the number are tried; the first grid with a point in the
interval wins, and of two such points the nearer one.
-/

set_option autoImplicit false

namespace Rendezvous

/-- A decimal number: `digits` times ten to the power `exponent`. -/
structure Decimal where
  digits : Nat
  exponent : Int
  deriving DecidableEq, Repr, Inhabited

namespace Decimal

/-- How many decimal digits a natural number is written with. -/
def length (value : Nat) : Nat := (Nat.toDigits 10 value).length

/-- The exponent of the leading digit of a positive fraction. -/
def leadingExponent (num den : Nat) : Int :=
  if den ≤ num then ((length (num / den) : Nat) : Int) - 1
  else
    let gap := length den - length num
    if den ≤ num * tenTo gap then - (gap : Int) else - (gap : Int) - 1

/-- The reals that round to a number: numerators over `den`, ends included or not. -/
structure Interval where
  low : Nat
  value : Nat
  high : Nat
  den : Nat
  closed : Bool

namespace Interval

/-- The interval of a positive finite number; below a power of two the gap is half as wide. -/
def ofBinary64 (value : Binary64) : Interval where
  low :=
    (4 * value.significand -
      (if value.fraction = 0 && 1 < value.biasedExponent then 1 else 2)) * twoTo value.unitExponent
  value := 4 * value.significand * twoTo value.unitExponent
  high := (4 * value.significand + 2) * twoTo value.unitExponent
  den := twoTo 1076
  closed := value.significand % 2 = 0

def contains (interval : Interval) (num den : Nat) : Bool :=
  let point := num * interval.den
  if interval.closed then interval.low * den ≤ point && point ≤ interval.high * den
  else interval.low * den < point && point < interval.high * den

end Interval

def toRatio (decimal : Decimal) : Nat × Nat :=
  (decimal.digits * tenTo decimal.exponent.toNat, tenTo (-decimal.exponent).toNat)

/-- The grid point at or below a number, for a grid of powers of ten. -/
def floorOnGrid (num den : Nat) (exponent : Int) : Nat :=
  num * tenTo (-exponent).toNat / (den * tenTo exponent.toNat)

/-- The point of a grid that stands for the number: in its interval and nearest to it. -/
def onGrid? (interval : Interval) (exponent : Int) : Option Decimal :=
  let below := floorOnGrid interval.value interval.den exponent
  let lower : Decimal := ⟨below, exponent⟩
  let upper : Decimal := ⟨below + 1, exponent⟩
  let inside (point : Decimal) : Bool :=
    let (num, den) := point.toRatio
    interval.contains num den
  match inside lower, inside upper with
  | true, false => some lower
  | false, true => some upper
  | false, false => none
  | true, true =>
      let middle : Decimal := ⟨2 * below + 1, exponent⟩
      let (num, den) := middle.toRatio
      let left := 2 * interval.value * den
      let right := num * interval.den
      if left < right || (left = right && below % 2 = 0) then some lower else some upper

/-- Move trailing zeros of the digits into the exponent; `bound` limits how many. -/
def stripZeros : Nat → Decimal → Decimal
  | 0, decimal => decimal
  | bound + 1, decimal =>
      if decimal.digits % 10 = 0 && decimal.digits ≠ 0 then
        stripZeros bound ⟨decimal.digits / 10, decimal.exponent + 1⟩
      else decimal

/-- Seventeen digits tell all binary64 numbers apart. -/
def maxDigits : Nat := 17

/-- The shortest decimal that reads back as the absolute value of a finite number. -/
def shortest (value : Binary64) : Decimal :=
  if value.isZero then ⟨0, 0⟩
  else
    let interval := Interval.ofBinary64 value
    let leading := leadingExponent interval.value interval.den
    let found := (List.range maxDigits).findSome? fun (count : Nat) =>
      onGrid? interval (leading - (count : Int))
    stripZeros maxDigits (found.getD ⟨0, 0⟩)

end Decimal

end Rendezvous
