import Rendezvous.CommandLine
import Rendezvous.Duration
import Rendezvous.Exit
import Rendezvous.Output.Buffer
import Rendezvous.Output.History

/-!
A started process, as far as it has been observed.

The end of a process is recorded once, when it is noticed; whether the process
had been asked to stop by then decides how its end is reported.
-/

set_option autoImplicit false

namespace Rendezvous

/-- The end of a process, as it was noticed. -/
structure ExitRecord where
  status : ExitStatus
  noticed : Duration
  /-- Whether the process had been asked to stop. -/
  afterStop : Bool
  deriving DecidableEq, Repr, Inhabited

/-- An output stream of a process and what has arrived from it. -/
structure OutputStream where
  isOpen : Bool := true
  buffer : OutputBuffer := {}
  deriving DecidableEq, Repr, Inhabited

namespace OutputStream

/-- Give up on the stream; an unfinished line becomes a line. -/
def close (stream : OutputStream) (seq : Nat) : OutputStream × Nat :=
  let (buffer, seq) := stream.buffer.finish seq
  (⟨false, buffer⟩, seq)

def push (stream : OutputStream) (bytes : List UInt8) (seq : Nat) : OutputStream × Nat :=
  let (buffer, seq) := stream.buffer.push bytes seq
  ({ stream with buffer }, seq)

/-- Give up on the stream if that has not happened. -/
def closeIfOpen (stream : OutputStream) (seq : Nat) : OutputStream × Nat :=
  if stream.isOpen then stream.close seq else (stream, seq)

end OutputStream

/-- A started process. -/
structure RoleProcess where
  role : Role
  pid : Nat
  commandLine : CommandLine
  startedAt : Duration
  stdout : OutputStream := {}
  stderr : OutputStream := {}
  exit : Option ExitRecord := none
  stopRequested : Bool := false
  history : History
  deriving Repr, Inhabited

namespace RoleProcess

def started (role : Role) (pid : Nat) (commandLine : CommandLine) (now : Duration)
    (historyLines : Nat) : RoleProcess :=
  { role, pid, commandLine, startedAt := now, history := .empty historyLines }

def stream (process : RoleProcess) : Stream → OutputStream
  | .stdout => process.stdout
  | .stderr => process.stderr

def setStream (process : RoleProcess) : Stream → OutputStream → RoleProcess
  | .stdout, stream => { process with stdout := stream }
  | .stderr, stream => { process with stderr := stream }

@[simp]
theorem setStream_stream (process : RoleProcess) (key : Stream) :
    process.setStream key (process.stream key) = process := by
  cases key <;> rfl

@[simp]
theorem stream_setStream_same (process : RoleProcess) (key : Stream) (stream : OutputStream) :
    (process.setStream key stream).stream key = stream := by
  cases key <;> rfl

theorem stream_setStream_other (process : RoleProcess) {key other : Stream}
    (stream : OutputStream) (different : other ≠ key) :
    (process.setStream key stream).stream other = process.stream other := by
  cases key <;> cases other <;> first | rfl | exact absurd rfl different

@[simp]
theorem setStream_setStream (process : RoleProcess) (key : Stream) (first second : OutputStream) :
    (process.setStream key first).setStream key second = process.setStream key second := by
  cases key <;> rfl

def openStreams (process : RoleProcess) : List Stream :=
  Stream.all.filter fun stream => (process.stream stream).isOpen

def streamsClosed (process : RoleProcess) : Bool :=
  process.openStreams.isEmpty

/-- Whether a complete line waits to be taken. -/
def hasPendingLines (process : RoleProcess) : Bool :=
  Stream.all.any fun stream => (process.stream stream).buffer.hasLines

/-- Whether no end has been noticed. -/
def isAlive (process : RoleProcess) : Bool :=
  process.exit.isNone

def exitStatus? (process : RoleProcess) : Option ExitStatus :=
  process.exit.map ExitRecord.status

/--
Whether the process has ended and nothing more is awaited from it: both streams
are closed, or the end was noticed long enough ago.  Another process may hold
the streams open for as long as it likes.
-/
def isFinished (process : RoleProcess) (now linger : Duration) : Bool :=
  match process.exit with
  | some record => process.streamsClosed || linger.nanos ≤ now.nanos - record.noticed.nanos
  | none => false

def exitState (process : RoleProcess) : ExitState :=
  match process.exit with
  | none => .running
  | some record =>
      if record.afterStop then .ofStopped record.status else .ofStatus record.status

/-- Record the end of the process, unless it is recorded already. -/
def noticeExit (process : RoleProcess) (now : Duration) (status : ExitStatus) : RoleProcess :=
  match process.exit with
  | some _ => process
  | none => { process with exit := some ⟨status, now, process.stopRequested⟩ }

def requestStop (process : RoleProcess) : RoleProcess :=
  { process with stopRequested := true }

/-- The complete lines of one stream, and the process without them. -/
def takeStream (process : RoleProcess) (stream : Stream) : List Line × RoleProcess :=
  let output := process.stream stream
  let (lines, buffer) := output.buffer.popLines
  (lines.map fun line => ⟨line.seq, process.role, stream, line.text⟩,
    process.setStream stream { output with buffer })

/-- The complete lines of both streams in the order of their numbers; they enter the history. -/
def takeLines (process : RoleProcess) : List Line × RoleProcess :=
  let (first, process) := process.takeStream .stdout
  let (second, process) := process.takeStream .stderr
  let lines := (first ++ second).mergeSort fun line other => decide (line.seq ≤ other.seq)
  (lines, { process with history := lines.foldl History.push process.history })

/-- Give up on the streams that are open. -/
def closeStreams (process : RoleProcess) (seq : Nat) : RoleProcess × Nat :=
  let (stdout, seq) := process.stdout.closeIfOpen seq
  let (stderr, seq) := process.stderr.closeIfOpen seq
  ({ process with stdout, stderr }, seq)

/-- A recorded end is final. -/
theorem noticeExit_of_exit {process : RoleProcess} {record : ExitRecord}
    (ended : process.exit = some record) (now : Duration) (status : ExitStatus) :
    process.noticeExit now status = process := by
  simp [noticeExit, ended]

end RoleProcess

end Rendezvous
