import Rendezvous.Power

/-!
Binary64 numbers as exact fractions.

A number is its 64 bits.  `magnitude` reads them as a fraction of natural
numbers and `ofRatio` rounds a fraction to the nearest number, ties to even, so
that every conversion below is integer arithmetic.
-/

set_option autoImplicit false

namespace Rendezvous

/-- A binary64 floating-point number, given by its bits. -/
structure Binary64 where
  bits : UInt64
  deriving DecidableEq, Repr, Inhabited

namespace Binary64

/-- The nearest integer to a quotient; a half goes to the even neighbour. -/
def roundQuotient (num den : Nat) : Nat :=
  let floor := num / den
  let twice := 2 * (num % den)
  if twice < den then floor
  else if den < twice then floor + 1
  else floor + floor % 2

def fraction (value : Binary64) : Nat := value.bits.toNat % twoTo 52

def biasedExponent (value : Binary64) : Nat := value.bits.toNat / twoTo 52 % twoTo 11

def isNegative (value : Binary64) : Bool := twoTo 63 ≤ value.bits.toNat

def isNaN (value : Binary64) : Bool := value.biasedExponent = 2047 && value.fraction ≠ 0

def isInfinite (value : Binary64) : Bool := value.biasedExponent = 2047 && value.fraction = 0

def isZero (value : Binary64) : Bool := value.biasedExponent = 0 && value.fraction = 0

/-- The significand: the fraction field with its leading bit. -/
def significand (value : Binary64) : Nat :=
  if value.biasedExponent = 0 then value.fraction else twoTo 52 + value.fraction

/-- The unit of the significand is two to this power, less 1074. -/
def unitExponent (value : Binary64) : Nat := value.biasedExponent - 1

/-- The absolute value of a finite number as numerator and denominator. -/
def magnitude (value : Binary64) : Nat × Nat :=
  (value.significand * twoTo value.unitExponent, twoTo 1074)

def infinityBits : Nat := 2047 * twoTo 52

def infinity : Binary64 := ⟨UInt64.ofNat infinityBits⟩

def nan : Binary64 := ⟨UInt64.ofNat (infinityBits + twoTo 51)⟩

/-- The number with its sign bit set. -/
def negated (value : Binary64) : Binary64 :=
  ⟨UInt64.ofNat (value.bits.toNat % twoTo 63 + twoTo 63)⟩

/-- The greatest power of two, offset by 1074, that is at most a positive fraction. -/
def leadingBit (num den : Nat) : Nat :=
  (num * twoTo 1074 / den).log2

/--
The number nearest to a fraction, ties to even; infinity above the largest
finite number.  With the unit chosen by the leading bit, the rounded
significand and the exponent field add up to the bits, also where rounding
carries into the next exponent.
-/
def ofRatio (num den : Nat) : Binary64 :=
  let unit := leadingBit num den - 52
  let rounded := roundQuotient (num * twoTo 1074) (den * twoTo unit)
  ⟨UInt64.ofNat (Nat.min (unit * twoTo 52 + rounded) infinityBits)⟩

def ofNat (value : Nat) : Binary64 := ofRatio value 1

def ofInt (value : Int) : Binary64 :=
  if value < 0 then (ofNat value.natAbs).negated else ofNat value.natAbs

/-- The rounded sum of two numbers that are not negative. -/
def addMagnitudes (first second : Binary64) : Binary64 :=
  ofRatio (first.magnitude.1 + second.magnitude.1) (twoTo 1074)

end Binary64

end Rendezvous
