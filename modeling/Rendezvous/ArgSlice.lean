import Rendezvous.Decimal.Reader
import Rendezvous.Text.Blank
import Rendezvous.Text.Search

/-!
Slices of the trailing arguments.

A slice is written `START:COUNT`, both below 2^64.  It selects arguments only
if it lies within them; the end is computed without a bound, so no slice wraps
around.
-/

set_option autoImplicit false

namespace Rendezvous

/-- A contiguous part of the trailing arguments. -/
structure ArgSlice where
  start : UInt64
  count : UInt64
  deriving DecidableEq, Repr, Inhabited

namespace ArgSlice

universe u

/-- Why a text is not a slice. -/
inductive ReadError where
  | noColon (text : String)
  | badStart (text : String)
  | badCount (text : String)
  deriving DecidableEq, Repr

namespace ReadError

def message : ReadError → String
  | .noColon text => s!"expected START:COUNT, got '{text}'"
  | .badStart text => s!"invalid start index '{text}'"
  | .badCount text => s!"invalid count '{text}'"

end ReadError

/-- The slice of all of so many arguments. -/
def all (length : Nat) : ArgSlice := ⟨0, UInt64.ofNat length⟩

/-- The position after the last argument of the slice. -/
def stop (slice : ArgSlice) : Nat := slice.start.toNat + slice.count.toNat

/-- The selected arguments; there are none if the slice runs past the end. -/
def select? {α : Type u} (slice : ArgSlice) (tail : List α) : Option (List α) :=
  if slice.stop ≤ tail.length then some ((tail.drop slice.start.toNat).take slice.count.toNat)
  else none

/-- A number of a slice, white space around it aside. -/
def readField? (text : List Char) : Option UInt64 :=
  (Decimal.readNat? UInt64.size (Text.trim text)).map UInt64.ofNat

def read (text : String) : Except ReadError ArgSlice :=
  match Text.cutAt? ':' text.toList with
  | none => .error (.noColon text)
  | some (before, after) =>
      match readField? before, readField? after with
      | none, _ => .error (.badStart (String.ofList before))
      | some _, none => .error (.badCount (String.ofList after))
      | some start, some count => .ok ⟨start, count⟩

def display (slice : ArgSlice) : String :=
  s!"{slice.start.toNat}:{slice.count.toNat}"

instance : ToString ArgSlice := ⟨display⟩

end ArgSlice

end Rendezvous
