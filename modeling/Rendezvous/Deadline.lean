import Rendezvous.Duration

/-!
Deadlines shared by several waits.

Points in time are durations since the start of the clock.
-/

set_option autoImplicit false

namespace Rendezvous

/-- A point in time at which a wait ends, and the time at which it began. -/
structure Deadline where
  start : Duration
  expires : Duration
  deriving DecidableEq, Repr, Inhabited

namespace Deadline

/-- The clock ends here: it counts seconds with 63 bits. -/
def clockEnd : Duration := .ofParts (twoTo 63) 0

/-- A budget that does not end within the lifetime of the clock is cut to a hundred years. -/
def longest : Duration := .ofParts (100 * 365 * 24 * 3600) 0

def after (now budget : Duration) : Deadline :=
  let wanted := now.nanos + budget.nanos
  if wanted < clockEnd.nanos then ⟨now, ⟨wanted⟩⟩ else ⟨now, ⟨now.nanos + longest.nanos⟩⟩

def remaining (deadline : Deadline) (now : Duration) : Duration :=
  ⟨deadline.expires.nanos - now.nanos⟩

def isExpired (deadline : Deadline) (now : Duration) : Bool :=
  deadline.expires.nanos ≤ now.nanos

/-- The time for the next wait: what is left, up to a bound. -/
def slice (deadline : Deadline) (now bound : Duration) : Duration :=
  (deadline.remaining now).min bound

def budget (deadline : Deadline) : Duration :=
  ⟨deadline.expires.nanos - deadline.start.nanos⟩

def elapsed (deadline : Deadline) (now : Duration) : Duration :=
  ⟨now.nanos - deadline.start.nanos⟩

/-- Nothing is left exactly from the expiry on. -/
theorem remaining_eq_zero_iff (deadline : Deadline) (now : Duration) :
    deadline.remaining now = .zero ↔ deadline.isExpired now = true := by
  simp [remaining, isExpired, Duration.zero, Nat.sub_eq_zero_iff_le]

end Deadline

end Rendezvous
