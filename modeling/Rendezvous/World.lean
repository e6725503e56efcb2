import Rendezvous.CommandLine
import Rendezvous.Duration
import Rendezvous.Exit
import Rendezvous.Output.Line
import Rendezvous.SystemError
import Rendezvous.Variables

/-!
What a run asks of the operating system.

A `World` is a structure of functions over a state of its own.  Everything that
drives processes is written against it, so that the same code runs against any
operating system and any simulation of one.  Processes are numbered in the
order in which they are launched.
-/

set_option autoImplicit false

namespace Rendezvous

/-- What a stream gives without waiting. -/
inductive ReadOutcome where
  | chunk (bytes : List UInt8)
  | endOfFile
  /-- The attempt was interrupted and can be repeated. -/
  | interrupted
  | failed
  /-- There is nothing at the moment. -/
  | notReady
  deriving DecidableEq, Repr, Inhabited

/-- How a wait ended. -/
inductive Wake where
  | elapsed
  /-- A stream gave something; this is what it gave. -/
  | ready (process : Nat) (stream : Stream) (outcome : ReadOutcome)
  /-- The user asked the program to stop. -/
  | interrupted
  deriving DecidableEq, Repr, Inhabited

inductive StopSignal where
  /-- A request, which the process may handle or ignore. -/
  | terminate
  | kill
  deriving DecidableEq, Repr, Inhabited

/-- The operating system, with states of type `σ`. -/
structure World (σ : Type) where
  /-- The time since the start of the clock. -/
  now : σ → Duration
  /-- Start a process with variables on top of the inherited ones; gives its process id. -/
  launch : CommandLine → Variables → σ → Except SystemError Nat × σ
  /-- How a process has ended, if it has. -/
  status : Nat → σ → Except SystemError (Option ExitStatus) × σ
  /-- Read from a stream without waiting. -/
  read : Nat → Stream → σ → ReadOutcome × σ
  /--
  Wait until one of the streams has something, or for the given time.  The first
  such stream is read.  Only an attentive wait ends when the user asks to stop.
  -/
  wait : List (Nat × Stream) → Duration → Bool → σ → Wake × σ
  /-- Nothing but a stream that is waited for wakes a wait by being ready. -/
  ready_mem : ∀ watched budget attentive outside index stream outcome,
    (wait watched budget attentive outside).1 = .ready index stream outcome →
      (index, stream) ∈ watched
  /-- Wait for the end of a process, for the given time at most. -/
  awaitExit : Nat → Duration → σ → Except SystemError (Option ExitStatus) × σ
  /-- Send a signal to a process and everything it has started. -/
  signalGroup : Nat → StopSignal → σ → Except SystemError Unit × σ
  /-- Kill a process itself. -/
  killLeader : Nat → σ → Except SystemError Unit × σ

namespace World

variable {σ : Type}

def pause (world : World σ) (time : Duration) (outside : σ) : σ :=
  (world.wait [] time false outside).2

end World

end Rendezvous
