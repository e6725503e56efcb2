import Rendezvous.Files.Search
import Rendezvous.Output.Buffer
import Rendezvous.Simulation.Script

/-!
A simulated operating system.

Its clock only moves while the program waits, and then in one step to the next
time at which a process has something to do.  Programs are scripts that belong
to executable files.
-/

set_option autoImplicit false

namespace Rendezvous

/-- The state of a simulated operating system. -/
structure Simulation where
  clock : Duration := .zero
  surroundings : Surroundings
  /-- The scripts of executable files, by place. -/
  programs : List (List String × List Simulation.Action) := []
  /-- The processes in start order. -/
  actors : Array Simulation.Actor := #[]
  /-- Whether the program was asked to stop. -/
  interrupted : Bool := false
  deriving Repr

namespace Simulation

/-- How long a process takes from its launch to its first action. -/
def startTime : Duration := .ofMillis 2

/-- The process ids that are given out follow this one. -/
def firstPid : Nat := 1000

def actor? (simulation : Simulation) (index : Nat) : Option Actor :=
  simulation.actors[index]?

def update (simulation : Simulation) (index : Nat) (change : Actor → Actor) : Simulation :=
  { simulation with actors := simulation.actors.modify index change }

/-- Let every process do what is due at a time. -/
def catchUp (simulation : Simulation) (now : Duration) : Simulation :=
  let stepped := simulation.actors.map fun actor => actor.catchUp now
  { simulation with
    clock := now
    actors := stepped.map Prod.fst
    interrupted := simulation.interrupted || stepped.any Prod.snd }

/-- The next time at which a process has something to do. -/
def nextWake? (simulation : Simulation) : Option Duration :=
  (simulation.actors.filterMap Actor.wakes).foldl
    (fun earliest time =>
      match earliest with
      | none => some time
      | some other => some (if time.nanos < other.nanos then time else other)) none

def firstReady? (simulation : Simulation) (watched : List (Nat × Stream)) :
    Option (Nat × Stream) :=
  watched.find? fun (index, stream) =>
    (simulation.actor? index).any fun actor => (actor.pipe stream).isReady

def read (index : Nat) (stream : Stream) (simulation : Simulation) : ReadOutcome × Simulation :=
  match simulation.actor? index with
  | none => (.endOfFile, simulation)
  | some actor =>
      let (outcome, pipe) := (actor.pipe stream).read
      (outcome, simulation.update index fun actor => actor.setPipe stream pipe)

/-- How many things the processes have yet to do. -/
def pendingActions (simulation : Simulation) : Nat :=
  simulation.actors.foldl (fun total actor => total + actor.script.length + 1) 0

/--
Move the clock to the given time, or to the first time at which a condition
holds.  Every move to the time of a process takes away one of its actions, which
bounds the number of moves.
-/
def moveUntil (stop : Simulation → Bool) (time : Duration) : Nat → Simulation → Simulation
  | 0, simulation => simulation.catchUp time
  | moves + 1, simulation =>
      if stop simulation then simulation
      else match simulation.nextWake? with
        | none => simulation.catchUp time
        | some next =>
            if time.nanos < next.nanos then simulation.catchUp time
            else moveUntil stop time moves
              (simulation.catchUp ⟨Nat.max next.nanos simulation.clock.nanos⟩)

/-- Let what is due now happen, then move the clock until a condition holds, for a time at most. -/
def waitUntil (stop : Simulation → Bool) (budget : Duration) (simulation : Simulation) :
    Simulation :=
  let simulation := simulation.catchUp simulation.clock
  simulation.moveUntil stop ⟨simulation.clock.nanos + budget.nanos⟩
    (simulation.pendingActions + 1)

def wait (watched : List (Nat × Stream)) (budget : Duration) (attentive : Bool)
    (simulation : Simulation) : Wake × Simulation :=
  let stop (simulation : Simulation) : Bool :=
    (attentive && simulation.interrupted) || (simulation.firstReady? watched).isSome
  let simulation := simulation.waitUntil stop budget
  if attentive && simulation.interrupted then
    (.interrupted, { simulation with interrupted := false })
  else match simulation.firstReady? watched with
    | none => (.elapsed, simulation)
    | some (index, stream) =>
        let (outcome, simulation) := simulation.read index stream
        (.ready index stream outcome, simulation)

/-- A simulated wait is woken by none but the streams that it waits for. -/
theorem mem_of_wait_eq_ready {watched : List (Nat × Stream)} {budget : Duration}
    {attentive : Bool} {simulation : Simulation} {index : Nat} {stream : Stream}
    {outcome : ReadOutcome}
    (woken : (simulation.wait watched budget attentive).1 = .ready index stream outcome) :
    (index, stream) ∈ watched := by
  unfold wait at woken
  dsimp only at woken
  split at woken
  · cases woken
  · split at woken
    · cases woken
    · next first found =>
        cases woken
        exact List.mem_of_find?_eq_some found

/-- How a process has ended; somebody else may have asked for that before. -/
def status (index : Nat) (simulation : Simulation) :
    Except SystemError (Option ExitStatus) × Simulation :=
  let simulation := simulation.catchUp simulation.clock
  match simulation.actor? index with
  | none => (.error .noChild, simulation)
  | some actor => (if actor.isReaped then .error .noChild else .ok actor.status, simulation)

/-- Wait for the end of a process. -/
def awaitExit (index : Nat) (budget : Duration) (simulation : Simulation) :
    Except SystemError (Option ExitStatus) × Simulation :=
  let ended (simulation : Simulation) : Bool :=
    (simulation.actor? index).all fun actor => actor.status.isSome
  (simulation.waitUntil ended budget).status index

/-- Send a signal to a process and what it has started. -/
def signalGroup (index : Nat) (signal : StopSignal) (simulation : Simulation) :
    Except SystemError Unit × Simulation :=
  match simulation.actor? index with
  | none => (.error .noProcess, simulation)
  | some actor =>
      if actor.isReaped then (.error .noProcess, simulation)
      else (.ok (), simulation.update index fun actor => actor.receive signal)

/-- Kill a process itself. -/
def killLeader (index : Nat) (simulation : Simulation) : Except SystemError Unit × Simulation :=
  match simulation.actor? index with
  | none => (.error .noProcess, simulation)
  | some actor =>
      if actor.isReaped then (.error .noProcess, simulation)
      else
        (.ok (), simulation.update index fun actor => actor.finish (.signal Actor.killNumber))

def executable (files : FileTree) (path : String) : Except SystemError (List String) := do
  match ← files.stat path with
  | (names, .file _ true) => return names
  | _ => throw .denied

/--
The place of a program.  A name without a slash is searched for in the search
path that the process will have.
-/
def programPlace (files : FileTree) (searchPath program : String) :
    Except SystemError (List String) :=
  if program.toList.contains '/' then executable files program
  else
    let tries := (Surroundings.directoriesOf searchPath).map fun directory =>
      executable files (Path.join directory program)
    match tries.find? Except.toBool with
    | some found => found
    | none =>
        if tries.any fun found => found.toOption.isNone && found matches .error (.numbered 13)
        then .error .denied
        else .error .noEntry

/-- The interpreter that the first line of a script names. -/
def interpreter? (content : List UInt8) : Option String :=
  match (Utf8.decodeLossy (content.takeWhile (· ≠ OutputBuffer.newline))).toList with
  | '#' :: '!' :: rest =>
      some (String.ofList ((rest.dropWhile (· = ' ')).takeWhile (· ≠ ' ')))
  | _ => none

def script (simulation : Simulation) (searchPath program : String) :
    Except SystemError (List Action) := do
  let files := simulation.surroundings.files
  let names ← programPlace files searchPath program
  match simulation.programs.lookup names, files.entry? names with
  | some script, _ => return script
  | none, some (.file content _) =>
      match interpreter? content with
      | some path =>
          let _ ← executable files path
          return []
      | none => throw .badFormat
  | none, _ => throw .badFormat

def launch (line : CommandLine) (added : Variables) (simulation : Simulation) :
    Except SystemError Nat × Simulation :=
  let env := simulation.surroundings.env ++ added
  match simulation.script ((env.value? "PATH").getD "") line.program with
  | .error cause => (.error cause, simulation)
  | .ok script =>
      let wakes := some ⟨simulation.clock.nanos + startTime.nanos⟩
      let actor : Actor := { args := line.args, env, script, wakes }
      (.ok (firstPid + simulation.actors.size),
        { simulation with actors := simulation.actors.push actor })

def world : World Simulation where
  now := clock
  launch := launch
  status := status
  read := read
  wait := wait
  ready_mem _ _ _ _ _ _ _ woken := mem_of_wait_eq_ready woken
  awaitExit := awaitExit
  signalGroup := signalGroup
  killLeader := killLeader

def sleepTime (script : List Action) : Nat :=
  script.foldl (fun total action => match action with
    | .sleep time => total + time.nanos
    | _ => total) 0

/--
More passes than a wait of a run can take: each pass either moves the clock by
the length of a poll, or reads something that a process has printed or done.
-/
def passBound (simulation : Simulation) : Nat :=
  let scripts := simulation.programs.map Prod.snd
  let longest := scripts.foldl (fun total script => total + sleepTime script) 0
  let actions := scripts.foldl (fun total script => total + script.length) 0
  longest / 10000000 + 100 * actions + 10000

/-- The files of a system on which nothing is installed. -/
def bareFiles (directory : String) : FileTree :=
  let directories := ["/tmp", "/etc", "/dev", "/root", "/home", "/var", directory]
  let empty : FileTree := ⟨[], Path.steps directory⟩
  ["/bin/sh", "/usr/bin/env", "/usr/bin/sh"].foldl (fun files path => files.addFile path [] true)
    (directories.foldl FileTree.addDirectory empty)

/-- Make an executable file whose script is given. -/
def install (simulation : Simulation) (path : String) (script : List Action) : Simulation :=
  let ⟨files, env⟩ := simulation.surroundings
  { simulation with
    surroundings := ⟨files.addFile path [] true, env⟩
    programs := (files.namesOf path, script) :: simulation.programs }

/-- A process that is driven from outside and whose streams somebody else keeps open. -/
def addPuppet (simulation : Simulation) (disposition : Disposition) : Simulation :=
  { simulation with
    actors := simulation.actors.push { disposition, keeper := .outsider } }

def feed (simulation : Simulation) (index : Nat) (stream : Stream) (bytes : List UInt8) :
    Simulation :=
  simulation.update index fun actor => actor.write stream bytes

def closePipe (simulation : Simulation) (index : Nat) (stream : Stream) : Simulation :=
  simulation.update index fun actor =>
    actor.setPipe stream { actor.pipe stream with isClosed := true }

/-- Let reading a stream fail behind what was written. -/
def breakPipe (simulation : Simulation) (index : Nat) (stream : Stream) : Simulation :=
  simulation.update index fun actor =>
    actor.setPipe stream { actor.pipe stream with isBroken := true }

def finish (simulation : Simulation) (index : Nat) (status : ExitStatus) : Simulation :=
  simulation.update index fun actor => actor.finish status

/-- Kill a process and ask for its end in place of the program. -/
def steal (simulation : Simulation) (index : Nat) : Simulation :=
  simulation.update index fun actor =>
    { actor.finish (.signal Actor.killNumber) with isReaped := true }

end Simulation

end Rendezvous
