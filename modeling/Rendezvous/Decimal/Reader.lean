import Rendezvous.Binary64

/-!
Reading numbers written in decimal.

Whole numbers are ASCII digits, with an optional sign where the reader says so.
Binary64 numbers have an optional sign, digits with an optional point and an
optional exponent, or are one of the words for infinity and NaN; the value is
rounded once, from the exact decimal.
-/

set_option autoImplicit false

namespace Rendezvous

namespace Decimal

def isDigit (char : Char) : Bool := '0' ≤ char && char ≤ '9'

def digitValue (char : Char) : Nat := char.toNat - '0'.toNat

def digitsValue (digits : List Char) : Nat :=
  digits.foldl (fun value char => 10 * value + digitValue char) 0

def readDigits? (text : List Char) : Option Nat :=
  if text ≠ [] ∧ text.all isDigit then some (digitsValue text) else none

/-- Digits with an optional plus sign and a value below the bound. -/
def readNat? (bound : Nat) (text : List Char) : Option Nat :=
  let digits := match text with
    | '+' :: rest => rest
    | _ => text
  (readDigits? digits).filter (· < bound)

/-- Digits with an optional sign and a value of the given range. -/
def readInt? (low high : Int) (text : List Char) : Option Int :=
  let value := match text with
    | '-' :: rest => (readDigits? rest).map fun value => -(value : Int)
    | '+' :: rest => (readDigits? rest).map fun value => (value : Int)
    | _ => (readDigits? text).map fun value => (value : Int)
  value.filter fun value => low ≤ value && value ≤ high

/-- Beyond this many places a binary64 number is infinite or zero. -/
def exponentBound : Int := 400

/-- The number nearest to `digits` times ten to the power `exponent`. -/
def toBinary64 (digits : Nat) (exponent : Int) : Binary64 :=
  let leading := exponent + ((Nat.toDigits 10 digits).length : Int)
  if digits = 0 || leading < -exponentBound then Binary64.ofNat 0
  else if exponentBound < leading then Binary64.infinity
  else Binary64.ofRatio (digits * tenTo exponent.toNat) (tenTo (-exponent).toNat)

/-- An exponent: nothing, or `e` with an optional sign and digits. -/
def readExponent? : List Char → Option Int
  | [] => some 0
  | mark :: rest =>
      if mark = 'e' || mark = 'E' then
        match rest with
        | '-' :: digits => (readDigits? digits).map fun value => -(value : Int)
        | '+' :: digits => (readDigits? digits).map fun value => (value : Int)
        | digits => (readDigits? digits).map fun value => (value : Int)
      else none

/-- Digits with an optional point, at least one digit in all, and an exponent. -/
def readUnsigned? (text : List Char) : Option Binary64 := do
  let whole := text.takeWhile isDigit
  let (places, rest) := match text.dropWhile isDigit with
    | '.' :: rest => (rest.takeWhile isDigit, rest.dropWhile isDigit)
    | rest => ([], rest)
  guard (whole ≠ [] ∨ places ≠ [])
  let exponent ← readExponent? rest
  return toBinary64 (digitsValue (whole ++ places)) (exponent - (places.length : Int))

/-- An unsigned number or one of the words, whose case does not matter. -/
def readMagnitude? (text : List Char) : Option Binary64 :=
  let word := String.ofList (text.map Char.toLower)
  if word = "inf" || word = "infinity" then some Binary64.infinity
  else if word = "nan" then some Binary64.nan
  else readUnsigned? text

/-- A binary64 number in decimal. -/
def readBinary64? (text : List Char) : Option Binary64 :=
  match text with
  | '-' :: rest => (readMagnitude? rest).map Binary64.negated
  | '+' :: rest => readMagnitude? rest
  | _ => readMagnitude? text

end Decimal

end Rendezvous
