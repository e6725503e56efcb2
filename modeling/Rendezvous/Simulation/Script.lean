import Rendezvous.Duration
import Rendezvous.Exit
import Rendezvous.Output.Line
import Rendezvous.Variables
import Rendezvous.World

/-!
What a simulated process does, and the state it is in.

A process performs the actions of its script one after another.  Only sleeping
takes time.  The end of the script is an exit with status zero.
-/

set_option autoImplicit false

namespace Rendezvous

namespace Simulation

/-- Something that a simulated process does. -/
inductive Action where
  | print (stream : Stream) (bytes : List UInt8)
  /-- Print every argument on a line of its own. -/
  | printArgs
  | printVariable (name : String)
  | sleep (time : Duration)
  | exit (code : Int)
  | raise (signal : Int)
  /-- Ask the program that started the process to stop. -/
  | interrupt
  /-- Leave a child behind that keeps the streams open. -/
  | hold
  | ignoreRequests
  /-- On a request to stop print some bytes and exit. -/
  | onRequest (bytes : List UInt8) (code : Int)
  deriving DecidableEq, Repr

/-- How a process takes a request to stop. -/
inductive Disposition where
  | die
  | ignore
  | handle (bytes : List UInt8) (code : Int)
  deriving DecidableEq, Repr, Inhabited

/-- Who keeps the streams of a process open besides the process. -/
inductive Keeper where
  | nobody
  /-- A child of the process, which gets its signals too. -/
  | child
  /-- Somebody outside. -/
  | outsider
  deriving DecidableEq, Repr, Inhabited

/-- A stream between a process and its reader. -/
structure Pipe where
  /-- What was written and not read. -/
  content : List UInt8 := []
  isClosed : Bool := false
  /-- Whether reading fails behind the content. -/
  isBroken : Bool := false
  deriving DecidableEq, Repr, Inhabited

namespace Pipe

/-- The most that one read gives. -/
def chunkSize : Nat := 8192

def write (pipe : Pipe) (bytes : List UInt8) : Pipe :=
  { pipe with content := pipe.content ++ bytes }

def isReady (pipe : Pipe) : Bool :=
  pipe.content ≠ [] || pipe.isClosed || pipe.isBroken

def read (pipe : Pipe) : ReadOutcome × Pipe :=
  if pipe.content ≠ [] then
    (.chunk (pipe.content.take chunkSize),
      { pipe with content := pipe.content.drop chunkSize })
  else if pipe.isBroken then (.failed, pipe)
  else if pipe.isClosed then (.endOfFile, pipe)
  else (.notReady, pipe)

end Pipe

/-- A simulated process. -/
structure Actor where
  args : List String := []
  /-- All variables of the process. -/
  env : Variables := []
  /-- What the process has yet to do. -/
  script : List Action := []
  /-- When it goes on; a process without such a time is driven from outside. -/
  wakes : Option Duration := none
  disposition : Disposition := .die
  keeper : Keeper := .nobody
  stdout : Pipe := {}
  stderr : Pipe := {}
  status : Option ExitStatus := none
  /-- Whether somebody else has asked for the end of the process before. -/
  isReaped : Bool := false
  deriving Repr, Inhabited

namespace Actor

def pipe (actor : Actor) : Stream → Pipe
  | .stdout => actor.stdout
  | .stderr => actor.stderr

def setPipe (actor : Actor) : Stream → Pipe → Actor
  | .stdout, pipe => { actor with stdout := pipe }
  | .stderr, pipe => { actor with stderr := pipe }

def write (actor : Actor) (stream : Stream) (bytes : List UInt8) : Actor :=
  actor.setPipe stream ((actor.pipe stream).write bytes)

/-- Close the streams unless somebody keeps them open. -/
def releasePipes (actor : Actor) : Actor :=
  if actor.keeper = .nobody then
    { actor with
      stdout := { actor.stdout with isClosed := true }
      stderr := { actor.stderr with isClosed := true } }
  else actor

/-- One byte of the exit code reaches the parent. -/
def delivered : ExitStatus → ExitStatus
  | .code value => .code (value % 256)
  | .signal number => .signal number

/-- The process ends, unless it has ended. -/
def finish (actor : Actor) (status : ExitStatus) : Actor :=
  if actor.status.isSome then actor
  else { actor with status := some (delivered status), wakes := none, script := [] }.releasePipes

/-- A child that keeps the streams open gets the signals of the process and dies of them. -/
def killChild (actor : Actor) : Actor :=
  if actor.keeper = .child then
    let alone := { actor with keeper := .nobody }
    if actor.status.isSome then alone.releasePipes else alone
  else actor

def terminateNumber : Int := 15

def killNumber : Int := 9

/-- The process itself gets a request to stop. -/
def request (actor : Actor) : Actor :=
  if actor.status.isSome then actor
  else match actor.disposition with
    | .die => actor.finish (.signal terminateNumber)
    | .ignore => actor
    | .handle bytes code => (actor.write .stdout bytes).finish (.code code)

/-- The process and what it has started get a signal. -/
def receive (actor : Actor) : StopSignal → Actor
  | .terminate => actor.killChild.request
  | .kill => actor.killChild.finish (.signal killNumber)

/-- Signals that do nothing to a process that does not ask for them. -/
def harmless : List Int := [17, 18, 23, 28]

/-- Signals that bring a process to a halt. -/
def halting : List Int := [19, 20, 21, 22]

def raise (actor : Actor) (signal : Int) : Actor :=
  if signal = terminateNumber then actor.request
  else if harmless.contains signal then actor
  else if halting.contains signal then { actor with wakes := none }
  else actor.finish (.signal signal)

/-- Perform one action; tells whether the program that started the process is asked to stop. -/
def perform (actor : Actor) (now : Duration) : Action → Actor × Bool
  | .print stream bytes => (actor.write stream bytes, false)
  | .printArgs =>
      let text := String.join (actor.args.map fun arg => "arg:" ++ arg ++ "\n")
      (actor.write .stdout (Utf8.encode text), false)
  | .printVariable name =>
      let value := (actor.env.value? name).getD ""
      (actor.write .stdout (Utf8.encode (name ++ "=" ++ value ++ "\n")), false)
  | .sleep time => ({ actor with wakes := some ⟨now.nanos + time.nanos⟩ }, false)
  | .exit code => (actor.finish (.code code), false)
  | .raise signal => (actor.raise signal, false)
  | .interrupt => (actor, true)
  | .hold => ({ actor with keeper := .child }, false)
  | .ignoreRequests => ({ actor with disposition := .ignore }, false)
  | .onRequest bytes code => ({ actor with disposition := .handle bytes code }, false)

/-- Perform the script up to the given time, as long as the process is awake. -/
def advance (now : Duration) : List Action → Actor → Bool → Actor × Bool
  | script, actor, asked =>
      match actor.wakes with
      | none => (actor, asked)
      | some time =>
          if now.nanos < time.nanos then ({ actor with script }, asked)
          else match script with
            | [] => (actor.finish (.code 0), asked)
            | action :: rest =>
                let (actor, asks) := actor.perform time action
                advance now rest actor (asked || asks)

def catchUp (actor : Actor) (now : Duration) : Actor × Bool :=
  advance now actor.script actor false

end Actor

end Simulation

end Rendezvous
