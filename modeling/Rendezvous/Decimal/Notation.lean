import Rendezvous.Decimal.Shortest

/-!
Ways to write a binary64 number.

Messages write a number in full, without an exponent, with the digits that read
back; durations in messages keep one place; JSON uses an exponent for numbers
that are very large or very small.
-/

set_option autoImplicit false

namespace Rendezvous

namespace Decimal

/-- A decimal in positional notation, without a point when it is whole. -/
def positional (decimal : Decimal) : String :=
  let digits := Nat.toDigits 10 decimal.digits
  match decimal.exponent with
  | .ofNat zeros => String.ofList (digits ++ List.replicate zeros '0')
  | .negSucc less =>
      let places := less + 1
      let padded := List.replicate (places + 1 - digits.length) '0' ++ digits
      let whole := padded.length - places
      String.ofList (padded.take whole ++ '.' :: padded.drop whole)

/-- A decimal with one digit before the point and a signed exponent. -/
def scientific (decimal : Decimal) : String :=
  let digits := Nat.toDigits 10 decimal.digits
  let exponent := decimal.exponent + (digits.length : Int) - 1
  let sign := if exponent < 0 then "-" else "+"
  let point := if digits.length ≤ 1 then "" else "."
  String.ofList (digits.take 1) ++ point ++ String.ofList (digits.drop 1) ++ "e" ++ sign ++
    toString exponent.natAbs

end Decimal

namespace Binary64

/-- The sign, or the whole text of a number that is not finite. -/
def withSign (value : Binary64) (text : String) : String :=
  if value.isNaN then "NaN"
  else
    let body := if value.isInfinite then "inf" else text
    if value.isNegative then "-" ++ body else body

/-- The number in full, with the fewest digits that read back. -/
def toText (value : Binary64) : String :=
  value.withSign (Decimal.shortest value).positional

/-- The number rounded to a count of places, a half to the even neighbour. -/
def toFixed (places : Nat) (value : Binary64) : String :=
  let (num, den) := value.magnitude
  let scaled := roundQuotient (num * tenTo places) den
  value.withSign (Decimal.positional ⟨scaled, -(places : Int)⟩)

/-- Powers of ten of the leading digit that JSON writes without an exponent. -/
def isPlainExponent (leading : Int) : Bool := -5 ≤ leading && leading ≤ 15

/-- The number as a JSON number; there is none for a NaN or an infinity. -/
def toJson? (value : Binary64) : Option String :=
  if value.isNaN || value.isInfinite then none
  else
    let decimal := Decimal.shortest value
    let leading := decimal.exponent + (Decimal.length decimal.digits : Int) - 1
    let body :=
      if !isPlainExponent leading then decimal.scientific
      else if 0 ≤ decimal.exponent then decimal.positional ++ ".0"
      else decimal.positional
    some (value.withSign body)

end Binary64

end Rendezvous
