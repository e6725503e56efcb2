import Rendezvous.Session

/-!
Stopping processes.

A process is asked to stop first and killed if it does not.  Signals go to the
process and everything it has started.  A process whose end is recorded gets no
signal, so it keeps its own end.
-/

set_option autoImplicit false

namespace Rendezvous

/-- What it took to stop a process. -/
inductive StopOutcome where
  | alreadyExited
  /-- It ended after it was asked to. -/
  | terminated
  | killed
  /-- It did not even end when it was killed. -/
  | unresponsive
  deriving DecidableEq, Repr, Inhabited

namespace StopOutcome

def name : StopOutcome → String
  | .alreadyExited => "AlreadyExited"
  | .terminated => "Terminated"
  | .killed => "Killed"
  | .unresponsive => "Unresponsive"

end StopOutcome

namespace Session

variable {σ : Type}

/-- How long a killed process may take to end. -/
def killWait : Duration := .ofParts 5 0

/-- A signal for processes that are gone is no error. -/
def ignoreMissing : Except SystemError Unit → Except Error Unit
  | .ok () => .ok ()
  | .error cause => if cause = .noProcess then .ok () else .error (.system cause)

/-- Ask a process to stop, unless its end is recorded. -/
def terminateProcess (world : World σ) (index : Nat) (process : RoleProcess) (outside : σ) :
    Except Error Unit × RoleProcess × σ :=
  if process.isAlive then
    let (sent, outside) := world.signalGroup index .terminate outside
    (ignoreMissing sent, process.requestStop, outside)
  else (.ok (), process, outside)

/-- Kill a process, unless its end is recorded. -/
def killProcess (world : World σ) (index : Nat) (process : RoleProcess) (outside : σ) :
    Except Error Unit × RoleProcess × σ :=
  if process.isAlive then
    let (sent, outside) := world.signalGroup index .kill outside
    match ignoreMissing sent with
    | .error cause => (.error cause, process.requestStop, outside)
    | .ok () =>
        let (sent, outside) := world.killLeader index outside
        (sent.mapError .system, process.requestStop, outside)
  else (.ok (), process, outside)

/-- Wait for the end of a process and record it. -/
def awaitProcess (world : World σ) (index : Nat) (budget : Duration) (process : RoleProcess)
    (outside : σ) : Except Error (Option ExitStatus) × RoleProcess × σ :=
  match process.exitStatus? with
  | some status => (.ok (some status), process, outside)
  | none =>
      match world.awaitExit index budget outside with
      | (.ok (some status), outside) =>
          (.ok (some status), process.noticeExit (world.now outside) status, outside)
      | (.ok none, outside) => (.ok none, process, outside)
      | (.error cause, outside) => (.error (.system cause), process, outside)

/-- Kill what a process has started and left behind. -/
def reapGroup (world : World σ) (index : Nat) (process : RoleProcess) (outside : σ) : σ :=
  if process.isAlive then outside else (world.signalGroup index .kill outside).2

/-- Kill a process that was asked to stop in vain. -/
def stopByKill (world : World σ) (index : Nat) (process : RoleProcess) (outside : σ) :
    Except Error StopOutcome × RoleProcess × σ :=
  match killProcess world index process outside with
  | (.error cause, process, outside) => (.error cause, process, outside)
  | (.ok (), process, outside) =>
      match awaitProcess world index killWait process outside with
      | (.error cause, process, outside) => (.error cause, process, outside)
      | (.ok (some _), process, outside) =>
          (.ok .killed, process, reapGroup world index process outside)
      | (.ok none, process, outside) => (.ok .unresponsive, process, outside)

/-- Stop a process: ask it to, wait for the grace period, then kill it. -/
def stopProcess (world : World σ) (index : Nat) (grace : Duration) (process : RoleProcess)
    (outside : σ) : Except Error StopOutcome × RoleProcess × σ :=
  match checkExit world index process outside with
  | (.error cause, outside) => (.error cause, process, outside)
  | (.ok process, outside) =>
      if process.isAlive then
        match terminateProcess world index process outside with
        | (.error cause, process, outside) => (.error cause, process, outside)
        | (.ok (), process, outside) =>
            match awaitProcess world index grace process outside with
            | (.error cause, process, outside) => (.error cause, process, outside)
            | (.ok (some _), process, outside) =>
                (.ok .terminated, process, reapGroup world index process outside)
            | (.ok none, process, outside) => stopByKill world index process outside
      else (.ok .alreadyExited, process, reapGroup world index process outside)

def withProcess {α : Type} (index : Nat)
    (action : RoleProcess → σ → Except Error α × RoleProcess × σ) (session : Session σ) :
    Except Error α × Session σ :=
  match session.processes[index]? with
  | none => (.error (.internal s!"there is no process {index}"), session)
  | some process =>
      let (outcome, process, outside) := action process session.outside
      (outcome, { session with processes := session.processes.set index process, outside })

/-- Ask how a process has ended. -/
def pollExit (world : World σ) (index : Nat) :
    Session σ → Except Error (Option ExitStatus) × Session σ :=
  withProcess index fun process outside =>
    match checkExit world index process outside with
    | (.error cause, outside) => (.error cause, process, outside)
    | (.ok process, outside) => (.ok process.exitStatus?, process, outside)

/-- Wait for the end of a process, for the given time at most. -/
def awaitExit (world : World σ) (index : Nat) (budget : Duration) :
    Session σ → Except Error (Option ExitStatus) × Session σ :=
  withProcess index (awaitProcess world index budget)

def terminate (world : World σ) (index : Nat) : Session σ → Except Error Unit × Session σ :=
  withProcess index (terminateProcess world index)

def kill (world : World σ) (index : Nat) : Session σ → Except Error Unit × Session σ :=
  withProcess index (killProcess world index)

def stop (world : World σ) (index : Nat) (grace : Duration) :
    Session σ → Except Error StopOutcome × Session σ :=
  withProcess index (stopProcess world index grace)

end Session

end Rendezvous
