import Rendezvous.Duration

/-!
The timeouts of a run and tables with one entry for each of them.
-/

set_option autoImplicit false

namespace Rendezvous

universe u v

/-- A timeout that a run has. -/
inductive Timeout where
  /-- How long the server may take to print its marker. -/
  | handshake
  /-- How long the server may take to exit after the client. -/
  | serverExit
  /-- How long the client may run. -/
  | run
  /-- How long a process may take to exit after it was asked to. -/
  | stopGrace
  deriving DecidableEq, Repr

namespace Timeout

def name : Timeout → String
  | .handshake => "handshake timeout"
  | .serverExit => "server exit timeout"
  | .run => "run timeout"
  | .stopGrace => "stop grace"

end Timeout

structure TimeoutTable (α : Type u) where
  handshake : α
  serverExit : α
  run : α
  stopGrace : α
  deriving DecidableEq, Repr, Inhabited

namespace TimeoutTable

variable {α : Type u}

def get (table : TimeoutTable α) : Timeout → α
  | .handshake => table.handshake
  | .serverExit => table.serverExit
  | .run => table.run
  | .stopGrace => table.stopGrace

/-- Evaluate an action for every timeout; the first that fails ends the walk. -/
def build {m : Type u → Type v} [Monad m] (entryOf : Timeout → m α) : m (TimeoutTable α) := do
  let handshake ← entryOf .handshake
  let serverExit ← entryOf .serverExit
  let run ← entryOf .run
  let stopGrace ← entryOf .stopGrace
  return ⟨handshake, serverExit, run, stopGrace⟩

end TimeoutTable

end Rendezvous
