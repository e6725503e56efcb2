import Rendezvous.Decimal.Reader
import Rendezvous.Toml.Value

/-!
TOML scalars: characters, strings, numbers, dates and times.
-/

set_option autoImplicit false

namespace Rendezvous

namespace Toml

def isSpace (char : Char) : Bool := char = ' ' || char = '\t'

def isNonAscii (char : Char) : Bool := 0x80 ≤ char.toNat

/-- Tabs and what is no control character. -/
def isPrintable (char : Char) : Bool :=
  char = '\t' || (0x20 ≤ char.toNat && char.toNat ≤ 0x7E) || isNonAscii char

/-- What may stand in a key without quotes. -/
def isBareKey (char : Char) : Bool :=
  char.isAlphanum || char = '_' || char = '-'

/-- The text after a newline, if it begins with one. -/
def newline? : List Char → Option (List Char)
  | '\n' :: rest => some rest
  | '\r' :: '\n' :: rest => some rest
  | _ => none

def hexDigit? (char : Char) : Option Nat :=
  if Decimal.isDigit char then some (Decimal.digitValue char)
  else if 'a' ≤ char && char ≤ 'f' then some (char.toNat - 'a'.toNat + 10)
  else if 'A' ≤ char && char ≤ 'F' then some (char.toNat - 'A'.toNat + 10)
  else none

/-- The value of digits in a base, none of them beyond it. -/
def digitsInBase? (base : Nat) (digits : List Char) : Option Nat :=
  if digits = [] then none
  else digits.foldlM (fun value char => do
    let digit ← hexDigit? char
    if digit < base then some (base * value + digit) else none) 0

/-- The character of a code point in hexadecimal; surrogates are none. -/
def codePoint? (digits : List Char) : Option Char := do
  let code ← digitsInBase? 16 digits
  if code.isValidChar then some (Char.ofNat code) else none

/-- What follows a backslash in a string: the character meant and the rest. -/
def escape? : List Char → Option (Char × List Char)
  | 'b' :: rest => some ('\x08', rest)
  | 't' :: rest => some ('\t', rest)
  | 'n' :: rest => some ('\n', rest)
  | 'f' :: rest => some ('\x0C', rest)
  | 'r' :: rest => some ('\r', rest)
  | '"' :: rest => some ('"', rest)
  | '\\' :: rest => some ('\\', rest)
  | 'u' :: rest => if rest.length < 4 then none else
      (codePoint? (rest.take 4)).map fun char => (char, rest.drop 4)
  | 'U' :: rest => if rest.length < 8 then none else
      (codePoint? (rest.take 8)).map fun char => (char, rest.drop 8)
  | _ => none

/-- The text without blanks and newlines at its start. -/
def skipLines : List Char → List Char
  | ' ' :: rest | '\t' :: rest | '\n' :: rest => skipLines rest
  | '\r' :: '\n' :: rest => skipLines rest
  | rest => rest

/-- A backslash that ends a line is followed by blanks and newlines, which it removes. -/
def continuation? (text : List Char) : Option (List Char) :=
  (newline? (text.dropWhile isSpace)).map skipLines

/-- The rest of a string in double quotes, on one line. -/
def basicString? (fuel : Nat) (read : List Char) (text : List Char) :
    Option (String × List Char) :=
  match fuel, text with
  | 0, _ | _, [] => none
  | fuel + 1, head :: rest =>
      if head = '"' then some (String.ofList read.reverse, rest)
      else if head = '\\' then do
        let (char, rest) ← escape? rest
        basicString? fuel (char :: read) rest
      else if isPrintable head then basicString? fuel (head :: read) rest
      else none

/-- The rest of a string in single quotes, on one line. -/
def literalString? (text : List Char) : Option (String × List Char) :=
  let body := text.takeWhile fun char => char ≠ '\'' && isPrintable char
  match text.drop body.length with
  | '\'' :: rest => some (String.ofList body, rest)
  | _ => none

/-- How many times a character stands at the start of a text. -/
def countLeading (mark : Char) (text : List Char) : Nat :=
  (text.takeWhile (· = mark)).length

/--
The rest of a string in triple quotes.  Three quotes end it; up to two more may
stand directly before them.  Newlines become line feeds; `escapes` tells
whether a backslash has a meaning.
-/
def longString? (mark : Char) (escapes : Bool) (fuel : Nat) (read : List Char)
    (text : List Char) : Option (String × List Char) :=
  match fuel, text with
  | 0, _ | _, [] => none
  | fuel + 1, head :: rest =>
      if head = mark then
        let count := countLeading mark text
        if count < 3 then longString? mark escapes fuel (mark :: read) rest
        else
          let extra := Nat.min (count - 3) 2
          some (String.ofList (read.reverse ++ List.replicate extra mark), text.drop (extra + 3))
      else if head = '\\' && escapes then
        match continuation? rest with
        | some rest => longString? mark escapes fuel read rest
        | none => do
            let (char, rest) ← escape? rest
            longString? mark escapes fuel (char :: read) rest
      else match newline? text with
        | some rest => longString? mark escapes fuel ('\n' :: read) rest
        | none =>
            if isPrintable head then longString? mark escapes fuel (head :: read) rest else none

/-- A string in any of the four kinds of quotes. -/
def string? (text : List Char) : Option (String × List Char) :=
  let long (mark : Char) (escapes : Bool) :=
    let body := text.drop 3
    longString? mark escapes text.length [] ((newline? body).getD body)
  match text with
  | '"' :: '"' :: '"' :: _ => long '"' true
  | '\'' :: '\'' :: '\'' :: _ => long '\'' false
  | '"' :: rest => basicString? text.length [] rest
  | '\'' :: rest => literalString? rest
  | _ => none

/-- Digits that may be grouped by single underscores, without the underscores. -/
def ungroup? (text : List Char) : Option (List Char) :=
  let rec go (afterDigit : Bool) : List Char → Option (List Char)
    | [] => if afterDigit then some [] else none
    | '_' :: rest => if afterDigit then go false rest else none
    | char :: rest => (go true rest).map (char :: ·)
  go false text

def groupedDigits? (text : List Char) : Option (List Char) :=
  (ungroup? text).filter (·.all Decimal.isDigit)

/-- The sign of a number and what follows it. -/
def signed : List Char → Bool × List Char
  | '-' :: rest => (true, rest)
  | '+' :: rest => (false, rest)
  | text => (false, text)

/-- Grouped digits without a superfluous zero at the start. -/
def wholeDigits? (text : List Char) : Option (List Char) := do
  let digits ← groupedDigits? text
  match digits with
  | '0' :: _ :: _ => none
  | _ => some digits

/-- Integers have 64 bits. -/
def integerBound : Nat := twoTo 63

/-- An integer in base sixteen, eight, two or ten. -/
def integer? (text : List Char) : Option Int :=
  let inBase (base : Nat) (digits : List Char) : Option Int := do
    let value ← digitsInBase? base (← ungroup? digits)
    if value < integerBound then some (value : Int) else none
  match text with
  | '0' :: 'x' :: digits => inBase 16 digits
  | '0' :: 'o' :: digits => inBase 8 digits
  | '0' :: 'b' :: digits => inBase 2 digits
  | _ => do
      let (negative, digits) := signed text
      let value := Decimal.digitsValue (← wholeDigits? digits)
      if negative then (if value ≤ integerBound then some (-(value : Int)) else none)
      else if value < integerBound then some (value : Int)
      else none

def floatExponent? (text : List Char) : Option Int := do
  let (negative, digits) := signed text
  let value := Decimal.digitsValue (← groupedDigits? digits)
  return if negative then -(value : Int) else (value : Int)

/-- A float without its sign: a whole part and a fraction, an exponent or both. -/
def unsignedFloat? (text : List Char) : Option Binary64 := do
  let isMark (char : Char) : Bool := char = 'e' || char = 'E'
  let mantissa := text.takeWhile fun char => !isMark char
  let exponent ← match text.dropWhile fun char => !isMark char with
    | [] => some 0
    | _ :: digits => floatExponent? digits
  let whole ← wholeDigits? (mantissa.takeWhile (· ≠ '.'))
  let places ← match mantissa.dropWhile (· ≠ '.') with
    | [] => if text.any isMark then some [] else none
    | _ :: digits => groupedDigits? digits
  return Decimal.toBinary64 (Decimal.digitsValue (whole ++ places))
    (exponent - (places.length : Int))

/-- A float; decimals too large to be finite are none unless they are negative. -/
def float? (text : List Char) : Option Binary64 :=
  let (negative, body) := signed text
  let signedValue (value : Binary64) := if negative then value.negated else value
  if body = ['i', 'n', 'f'] then some (signedValue Binary64.infinity)
  else if body = ['n', 'a', 'n'] then some (signedValue Binary64.nan)
  else ((unsignedFloat? body).map signedValue).filter (· ≠ Binary64.infinity)

/-- The value of exactly so many digits, within bounds. -/
def field? (count low high : Nat) (text : List Char) : Option Nat := do
  let value ← Decimal.readDigits? text
  if text.length = count && low ≤ value && value ≤ high then some value else none

def isLeapYear (year : Nat) : Bool :=
  year % 4 = 0 && (year % 100 ≠ 0 || year % 400 = 0)

def daysInMonth (year month : Nat) : Nat :=
  if month = 2 then (if isLeapYear year then 29 else 28)
  else if month = 4 || month = 6 || month = 9 || month = 11 then 30
  else 31

/-- A date, `YYYY-MM-DD`. -/
def date? (text : List Char) : Option String := do
  guard (text.length = 10 && text[4]? = some '-' && text[7]? = some '-')
  let year ← field? 4 0 9999 (text.take 4)
  let month ← field? 2 1 12 ((text.drop 5).take 2)
  let _ ← field? 2 1 (daysInMonth year month) (text.drop 8)
  return String.ofList text

/-- The fraction of a second: nine digits at most, without zeros at the end. -/
def secondFraction? : List Char → Option String
  | [] => some ""
  | '.' :: digits => do
      guard (digits ≠ [] && digits.all Decimal.isDigit)
      let kept := ((digits.take 9).reverse.dropWhile (· = '0')).reverse
      return if kept = [] then "" else "." ++ String.ofList kept
  | _ => none

/-- A time of day, `HH:MM:SS` with an optional fraction. -/
def time? (text : List Char) : Option String := do
  guard (8 ≤ text.length && text[2]? = some ':' && text[5]? = some ':')
  let _ ← field? 2 0 23 (text.take 2)
  let _ ← field? 2 0 59 ((text.drop 3).take 2)
  let _ ← field? 2 0 60 ((text.drop 6).take 2)
  let fraction ← secondFraction? (text.drop 8)
  return String.ofList (text.take 8) ++ fraction

def offset? : List Char → Option String
  | [] => some ""
  | ['Z'] | ['z'] => some "Z"
  | sign :: rest => do
      guard ((sign = '+' || sign = '-') && rest.length = 5 && rest[2]? = some ':')
      let hours ← field? 2 0 23 (rest.take 2)
      let minutes ← field? 2 0 59 (rest.drop 3)
      return String.ofList ((if hours + minutes = 0 then '+' else sign) :: rest)

/-- A date, a time, or a date and a time with an optional offset, in canonical form. -/
def moment? (text : List Char) : Option String :=
  if text.length < 11 then (date? text).or (time? text)
  else
    match text[10]? with
    | some mark =>
        if mark = 'T' || mark = 't' || mark = ' ' then do
          let isOffset (char : Char) : Bool := char = 'Z' || char = 'z' || char = '+' || char = '-'
          let day ← date? (text.take 10)
          let clock := text.drop 11
          let time ← time? (clock.takeWhile fun char => !isOffset char)
          let offset ← offset? (clock.dropWhile fun char => !isOffset char)
          return day ++ "T" ++ time ++ offset
        else time? text
    | none => none

/-- What may stand in a number, a date or a word. -/
def isTokenChar (char : Char) : Bool :=
  char.isAlphanum || char = '+' || char = '-' || char = '_' || char = '.' || char = ':'

/-- A scalar that is not a string. -/
def token? (text : List Char) : Option Value :=
  if text = ['t', 'r', 'u', 'e'] then some (.boolean true)
  else if text = ['f', 'a', 'l', 's', 'e'] then some (.boolean false)
  else
    ((integer? text).map Value.integer).or <|
      ((float? text).map Value.float).or ((moment? text).map Value.moment)

/-- A scalar that is not a string, and the rest; a date may be followed by a blank and a time. -/
def scalar? (text : List Char) : Option (Value × List Char) :=
  let first := text.takeWhile isTokenChar
  let afterFirst := text.drop first.length
  let dated := (date? first).isSome && afterFirst.head? = some ' ' &&
    (afterFirst[1]?).any Decimal.isDigit
  let token := if dated then first ++ ' ' :: (afterFirst.drop 1).takeWhile isTokenChar else first
  (token? token).map fun value => (value, text.drop token.length)

end Toml

end Rendezvous
