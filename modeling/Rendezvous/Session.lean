import Rendezvous.Error
import Rendezvous.RoleProcess
import Rendezvous.World

/-!
Reading the output of all processes together.

`Session.poll` is the one place where the program waits: it notes which
processes have ended, waits until a stream has something, and then reads every
stream of every process as far as it goes without waiting.  No process is
stopped by a full pipe while another is watched.
-/

set_option autoImplicit false

namespace Rendezvous

/-- The processes that have been started and the world they live in. -/
structure Session (σ : Type) where
  outside : σ
  /-- In start order. -/
  processes : List RoleProcess := []
  nextSeq : Nat := 0

namespace Session

variable {σ : Type}

/-- The longest single wait. -/
def pollInterval : Duration := .ofMillis 25

/-- How often a stream is read in one sweep; a talkative process does not hold up the others. -/
def sweepReads : Nat := 64

def now (world : World σ) (session : Session σ) : Duration :=
  world.now session.outside

/-- The process of a role. -/
def process? (session : Session σ) (role : Role) : Option RoleProcess :=
  session.processes.find? fun process => process.role = role

theorem process?_eq_some {session : Session σ} {role : Role} {process : RoleProcess}
    (found : session.process? role = some process) :
    process ∈ session.processes ∧ process.role = role := by
  rw [process?] at found
  exact ⟨List.mem_of_find?_eq_some found, by simpa using List.find?_some found⟩

theorem exists_process? {session : Session σ} {role : Role}
    (started : role ∈ session.processes.map RoleProcess.role) :
    ∃ process, session.process? role = some process := by
  obtain ⟨process, membership, same⟩ := List.mem_map.mp started
  exact Option.isSome_iff_exists.mp
    (List.find?_isSome.mpr ⟨process, membership, decide_eq_true same⟩)

theorem process?_eq_none {session : Session σ} {role : Role}
    (absent : role ∉ session.processes.map RoleProcess.role) : session.process? role = none := by
  apply List.find?_eq_none.mpr
  intro process membership same
  exact absent (List.mem_map.mpr ⟨process, membership, of_decide_eq_true same⟩)

/-- Ask how a process has ended, unless that is known. -/
def checkExit (world : World σ) (index : Nat) (process : RoleProcess) (outside : σ) :
    Except Error RoleProcess × σ :=
  if process.isAlive then
    match world.status index outside with
    | (.ok (some status), outside) =>
        (.ok (process.noticeExit (world.now outside) status), outside)
    | (.ok none, outside) => (.ok process, outside)
    | (.error cause, outside) => (.error (.system cause), outside)
  else (.ok process, outside)

/-- Ask how the processes from an index on have ended; the first that cannot be asked ends this. -/
def checkExitsFrom (world : World σ) :
    Nat → List RoleProcess → σ → Except Error Unit × List RoleProcess × σ
  | _, [], outside => (.ok (), [], outside)
  | index, process :: rest, outside =>
      match checkExit world index process outside with
      | (.error cause, outside) => (.error cause, process :: rest, outside)
      | (.ok process, outside) =>
          let (outcome, rest, outside) := checkExitsFrom world (index + 1) rest outside
          (outcome, process :: rest, outside)

/-- Ask how every process has ended. -/
def checkExits (world : World σ) (session : Session σ) : Except Error Unit × Session σ :=
  let (outcome, processes, outside) := checkExitsFrom world 0 session.processes session.outside
  (outcome, { session with processes, outside })

/-- Ask how every process has ended; one that cannot be asked does not keep the others from it. -/
def refreshExitsFrom (world : World σ) : Nat → List RoleProcess → σ → List RoleProcess × σ
  | _, [], outside => ([], outside)
  | index, process :: rest, outside =>
      let (checked, outside) := checkExit world index process outside
      let (rest, outside) := refreshExitsFrom world (index + 1) rest outside
      ((checked.toOption.getD process) :: rest, outside)

def refreshExits (world : World σ) (session : Session σ) : Session σ :=
  let (processes, outside) := refreshExitsFrom world 0 session.processes session.outside
  { session with processes, outside }

/-- What a stream gave, once it was read. -/
def accept (outcome : ReadOutcome) (stream : OutputStream) (seq : Nat) : OutputStream × Nat :=
  match outcome with
  | .chunk bytes => stream.push bytes seq
  | .endOfFile | .failed => stream.close seq
  | .interrupted | .notReady => (stream, seq)

/-- Read a stream until it has nothing, it ends, or it has been read often enough. -/
def sweepStream (world : World σ) (index : Nat) (key : Stream) :
    Nat → OutputStream → Nat → σ → OutputStream × Nat × σ
  | 0, stream, seq, outside => (stream, seq, outside)
  | reads + 1, stream, seq, outside =>
      if stream.isOpen then
        match world.read index key outside with
        | (.notReady, outside) => (stream, seq, outside)
        | (outcome, outside) =>
            let (stream, seq) := accept outcome stream seq
            sweepStream world index key reads stream seq outside
      else (stream, seq, outside)

def sweepProcess (world : World σ) (index : Nat) (process : RoleProcess) (seq : Nat)
    (outside : σ) : RoleProcess × Nat × σ :=
  let (stdout, seq, outside) :=
    sweepStream world index .stdout sweepReads process.stdout seq outside
  let (stderr, seq, outside) :=
    sweepStream world index .stderr sweepReads process.stderr seq outside
  ({ process with stdout, stderr }, seq, outside)

/-- Read the streams of the processes from an index on. -/
def sweepFrom (world : World σ) :
    Nat → List RoleProcess → Nat → σ → List RoleProcess × Nat × σ
  | _, [], seq, outside => ([], seq, outside)
  | index, process :: rest, seq, outside =>
      let (process, seq, outside) := sweepProcess world index process seq outside
      let (rest, seq, outside) := sweepFrom world (index + 1) rest seq outside
      (process :: rest, seq, outside)

/-- Read every stream as far as it goes without waiting. -/
def sweep (world : World σ) (session : Session σ) : Session σ :=
  let (processes, nextSeq, outside) :=
    sweepFrom world 0 session.processes session.nextSeq session.outside
  ⟨outside, processes, nextSeq⟩

def openStreams (session : Session σ) : List (Nat × Stream) :=
  session.processes.zipIdx.flatMap fun (process, index) =>
    process.openStreams.map fun stream => (index, stream)

/-- The streams that a pass waits for; without time to wait there are none. -/
def watched (budget : Duration) (session : Session σ) : List (Nat × Stream) :=
  if budget = .zero then [] else session.openStreams

/-- What the wait gave for one of the streams. -/
def deliver (session : Session σ) (index : Nat) (key : Stream) (outcome : ReadOutcome) :
    Session σ :=
  match session.processes[index]? with
  | none => session
  | some process =>
      let (stream, nextSeq) := accept outcome (process.stream key) session.nextSeq
      { session with
        processes := session.processes.set index (process.setStream key stream)
        nextSeq }

/-- What follows a wait.  Only an attentive pass is ended by the user, before it reads anything. -/
def afterWait (world : World σ) (attentive : Bool) (wake : Wake) (session : Session σ) :
    Except Error Unit × Session σ :=
  match wake with
  | .elapsed => (.ok (), session.sweep world)
  | .ready index key outcome => (.ok (), (session.deliver index key outcome).sweep world)
  | .interrupted =>
      if attentive then (.error .interrupted, session) else (.ok (), session.sweep world)

/--
One pass: note which processes have ended, wait until a stream has something,
and read what there is.
-/
def poll (world : World σ) (attentive : Bool) (budget : Duration) (session : Session σ) :
    Except Error Unit × Session σ :=
  match session.checkExits world with
  | (.error cause, session) => (.error cause, session)
  | (.ok (), session) =>
      let woken := world.wait (session.watched budget) budget attentive session.outside
      { session with outside := woken.2 }.afterWait world attentive woken.1

/-- One pass without waiting. -/
def drain (world : World σ) (session : Session σ) : Except Error Unit × Session σ :=
  session.poll world false .zero

/-- Take every complete line, in the order of their numbers. -/
def takeLines (session : Session σ) : List Line × Session σ :=
  let taken := session.processes.map RoleProcess.takeLines
  let lines := taken.flatMap Prod.fst
  (lines.mergeSort fun line other => decide (line.seq ≤ other.seq),
    { session with processes := taken.map Prod.snd })

/-- Give up on the open streams of some processes. -/
def closeFrom : List RoleProcess → Nat → List RoleProcess × Nat
  | [], seq => ([], seq)
  | process :: rest, seq =>
      let (process, seq) := process.closeStreams seq
      let (rest, seq) := closeFrom rest seq
      (process :: rest, seq)

/-- Give up on every open stream. -/
def closeAll (session : Session σ) : Session σ :=
  let (processes, nextSeq) := closeFrom session.processes session.nextSeq
  { session with processes, nextSeq }

end Session

end Rendezvous
