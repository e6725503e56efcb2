import Rendezvous.Binary64

/-!
Lengths of time.

A duration is a whole number of nanoseconds.  Durations given in seconds come
as binary64 numbers: `Duration.ofSeconds?` rounds them to the nearest
nanosecond and refuses what is negative, not a number or too long.
-/

set_option autoImplicit false

namespace Rendezvous

/-- A length of time in nanoseconds. -/
structure Duration where
  nanos : Nat
  deriving DecidableEq, Repr, Inhabited

namespace Duration

def nanosPerSecond : Nat := 1000000000

def zero : Duration := ⟨0⟩

def ofMillis (count : Nat) : Duration := ⟨count * 1000000⟩

def ofParts (seconds nanos : Nat) : Duration := ⟨seconds * nanosPerSecond + nanos⟩

def seconds (length : Duration) : Nat := length.nanos / nanosPerSecond

def subsecondNanos (length : Duration) : Nat := length.nanos % nanosPerSecond

def min (first second : Duration) : Duration := ⟨Nat.min first.nanos second.nanos⟩

/-- Durations in seconds end below this many seconds. -/
def secondsBound : Nat := twoTo 64

/--
The duration of a number of seconds, to the nearest nanosecond with ties to
even.  There is none for a negative number, a NaN, or a number of seconds that
does not fit 64 bits.
-/
def ofSeconds? (value : Binary64) : Option Duration :=
  if value.isNaN || value.isInfinite then none
  else if value.isNegative && !value.isZero then none
  else
    let (num, den) := value.magnitude
    let nanos := Binary64.roundQuotient (num * nanosPerSecond) den
    if nanos < secondsBound * nanosPerSecond then some ⟨nanos⟩ else none

/-- The duration in seconds: whole seconds and the rest, each and their sum rounded. -/
def toSeconds (length : Duration) : Binary64 :=
  (Binary64.ofNat length.seconds).addMagnitudes
    (Binary64.ofRatio length.subsecondNanos nanosPerSecond)

end Duration

end Rendezvous
