/-!
Reading bytes as UTF-8.

`Decoder.step` takes one byte at a time.  Between characters nothing is owed;
inside a character the decoder knows how many bytes are owed and in which range
the next one must lie.  A byte out of range replaces what was read of the
character by U+FFFD and is then read on its own, so each maximal part of an
ill-formed sequence gives one replacement character.
-/

set_option autoImplicit false

namespace Rendezvous

namespace Utf8

/-- What stands for bytes that are not UTF-8. -/
def replacement : Char := '\uFFFD'

/-- A decoder between two bytes. -/
structure Decoder where
  /-- The characters read, oldest first. -/
  chars : Array Char
  /-- How many replacements are among them. -/
  flaws : Nat
  /-- How many bytes the current character still needs. -/
  owed : Nat
  /-- The least value of the next byte. -/
  low : Nat
  /-- The greatest value of the next byte. -/
  high : Nat
  /-- The bits of the current character so far. -/
  value : Nat
  deriving Repr

namespace Decoder

def start : Decoder := ⟨#[], 0, 0, 0, 0, 0⟩

/-- Between characters, with one more character read. -/
def emit (decoder : Decoder) (char : Char) : Decoder :=
  { decoder with chars := decoder.chars.push char, owed := 0 }

/-- Between characters, with a replacement for what could not be read. -/
def flaw (decoder : Decoder) : Decoder :=
  { decoder.emit replacement with flaws := decoder.flaws + 1 }

/-- Inside a character. -/
def await (decoder : Decoder) (owed low high value : Nat) : Decoder :=
  { decoder with owed, low, high, value }

def begin (decoder : Decoder) (byte : UInt8) : Decoder :=
  let code := byte.toNat
  if code < 0x80 then decoder.emit (Char.ofNat code)
  else if code < 0xC2 then decoder.flaw
  else if code < 0xE0 then decoder.await 1 0x80 0xBF (code - 0xC0)
  else if code = 0xE0 then decoder.await 2 0xA0 0xBF 0
  else if code = 0xED then decoder.await 2 0x80 0x9F (code - 0xE0)
  else if code < 0xF0 then decoder.await 2 0x80 0xBF (code - 0xE0)
  else if code = 0xF0 then decoder.await 3 0x90 0xBF 0
  else if code < 0xF4 then decoder.await 3 0x80 0xBF (code - 0xF0)
  else if code = 0xF4 then decoder.await 3 0x80 0x8F (code - 0xF0)
  else decoder.flaw

def step (decoder : Decoder) (byte : UInt8) : Decoder :=
  let code := byte.toNat
  if decoder.owed = 0 then decoder.begin byte
  else if decoder.low ≤ code && code ≤ decoder.high then
    let value := decoder.value * 64 + code % 64
    if decoder.owed = 1 then decoder.emit (Char.ofNat value)
    else decoder.await (decoder.owed - 1) 0x80 0xBF value
  else decoder.flaw.begin byte

/-- The end of the bytes; a character that is not complete is replaced. -/
def finish (decoder : Decoder) : Decoder :=
  if decoder.owed = 0 then decoder else decoder.flaw

def run (bytes : List UInt8) : Decoder :=
  (bytes.foldl step start).finish

end Decoder

/-- The text of some bytes, with replacements for what is not UTF-8. -/
def decodeLossy (bytes : List UInt8) : String :=
  String.ofList (Decoder.run bytes).chars.toList

/-- The text of some bytes, if they are UTF-8. -/
def decode? (bytes : List UInt8) : Option String :=
  let decoder := Decoder.run bytes
  if decoder.flaws = 0 then some (String.ofList decoder.chars.toList) else none

def encode (text : String) : List UInt8 :=
  text.toUTF8.toList

end Utf8

end Rendezvous
