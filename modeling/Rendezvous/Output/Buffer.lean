import Rendezvous.Output.Line

/-!
The output of one stream of one process, cut into lines.

Bytes are taken one at a time, so how they are cut into chunks does not
matter.  Every line gets the next sequence number when it is complete.
-/

set_option autoImplicit false

namespace Rendezvous

/-- A complete line that waits to be taken. -/
structure PendingLine where
  seq : Nat
  text : String
  deriving DecidableEq, Repr, Inhabited

/-- What has arrived from one stream and has not been taken. -/
structure OutputBuffer where
  /-- The bytes after the last newline. -/
  unfinished : Array UInt8 := #[]
  /-- Complete lines, oldest first. -/
  lines : Array PendingLine := #[]
  /-- How many bytes have arrived in all. -/
  total : Nat := 0
  deriving DecidableEq, Repr, Inhabited

namespace OutputBuffer

/-- The byte that ends a line. -/
def newline : UInt8 := 10

/-- End the current line; it gets the given number. -/
def complete (buffer : OutputBuffer) (seq : Nat) : OutputBuffer :=
  { buffer with
    unfinished := #[]
    lines := buffer.lines.push ⟨seq, Line.textOf buffer.unfinished.toList⟩ }

/-- A buffer together with the number of the next line. -/
abbrev Numbered := OutputBuffer × Nat

def step : Numbered → UInt8 → Numbered
  | (buffer, seq), byte =>
      if byte = newline then ({ buffer with total := buffer.total + 1 }.complete seq, seq + 1)
      else
        ({ buffer with
            unfinished := buffer.unfinished.push byte
            total := buffer.total + 1 }, seq)

def push (buffer : OutputBuffer) (bytes : List UInt8) (seq : Nat) : Numbered :=
  bytes.foldl step (buffer, seq)

/-- The end of the stream: what follows the last newline is a line unless it is empty. -/
def finish (buffer : OutputBuffer) (seq : Nat) : Numbered :=
  if buffer.unfinished = #[] then (buffer, seq) else (buffer.complete seq, seq + 1)

def hasLines (buffer : OutputBuffer) : Bool :=
  buffer.lines ≠ #[]

def popLine (buffer : OutputBuffer) : Option PendingLine × OutputBuffer :=
  (buffer.lines[0]?, { buffer with lines := buffer.lines.extract 1 buffer.lines.size })

def popLines (buffer : OutputBuffer) : List PendingLine × OutputBuffer :=
  (buffer.lines.toList, { buffer with lines := #[] })

theorem push_append (buffer : OutputBuffer) (first second : List UInt8) (seq : Nat) :
    buffer.push (first ++ second) seq =
      (buffer.push first seq).1.push second (buffer.push first seq).2 := by
  simp [push]

end OutputBuffer

end Rendezvous
