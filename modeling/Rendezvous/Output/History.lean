import Rendezvous.Output.Line

/-!
The last lines of the output of a process.
-/

set_option autoImplicit false

namespace Rendezvous

/-- Lines up to a limit; beyond it the oldest are dropped. -/
structure History where
  limit : Nat
  /-- The lines that are kept, newest first. -/
  newest : List Line
  dropped : Nat
  deriving DecidableEq, Repr, Inhabited

namespace History

/-- No lines, with a limit of at least one. -/
def empty (limit : Nat) : History := ⟨Nat.max limit 1, [], 0⟩

/-- Add a line; if the history is full, its oldest line is dropped. -/
def push (history : History) (line : Line) : History :=
  if history.newest.length < history.limit then
    { history with newest := line :: history.newest }
  else
    { history with
      newest := (line :: history.newest).take history.limit
      dropped := history.dropped + 1 }

/-- The lines that are kept, oldest first. -/
def lines (history : History) : List Line := history.newest.reverse

/-- The last lines, so many at most, oldest first. -/
def tail (history : History) (count : Nat) : List Line :=
  (history.newest.take count).reverse

/-- The texts of the lines, each with a newline. -/
def text (history : History) : String :=
  String.join (history.lines.map fun line => line.text ++ "\n")

def length (history : History) : Nat := history.newest.length

end History

end Rendezvous
