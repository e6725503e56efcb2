import Rendezvous.Handshake
import Rendezvous.RunResult
import Rendezvous.Scenario
import Rendezvous.Session.Control

/-!
A run of a scenario.

`drive` starts the server, waits for its marker, starts the client and the
helper, and waits for the client.  Whatever ends it, `teardown` follows and
leaves no process behind, and only then `aggregate` comes to a verdict.
-/

set_option autoImplicit false

namespace Rendezvous

/-- Where a run stands. -/
inductive Phase where
  | init
  | serverStarting
  | awaitingHandshake
  | clientStarting
  | running
  | teardown
  | done
  | failed
  deriving DecidableEq, Repr, Inhabited

namespace Phase

def name : Phase → String
  | .init => "INIT"
  | .serverStarting => "SERVER_STARTING"
  | .awaitingHandshake => "AWAITING_HANDSHAKE"
  | .clientStarting => "CLIENT_STARTING"
  | .running => "RUNNING"
  | .teardown => "TEARDOWN"
  | .done => "DONE"
  | .failed => "FAILED"

instance : ToString Phase := ⟨name⟩

def changes (phases : List Phase) : List String :=
  (phases.zip (phases.drop 1)).map fun (before, after) => s!"{before} -> {after}"

end Phase

/-- A run between two steps. -/
structure Run (σ : Type) where
  session : Session σ
  transcript : Transcript
  startedAt : Duration
  /-- The phases that were entered, in order. -/
  phases : List Phase := []
  handshakeSatisfied : Bool := false
  failures : List Failure := []
  teardownFailures : List TeardownFailure := []

namespace Run

variable {σ : Type}

def start (world : World σ) (transcript : Transcript) (outside : σ) : Run σ :=
  { session := { outside }, transcript, startedAt := world.now outside }

/-- The transcript of a scenario: it keeps as many findings as a failure shows lines. -/
def transcriptOf (scenario : Scenario) : Transcript :=
  .start scenario.scanner scenario.quiet scenario.tailLines

def enter (run : Run σ) (phase : Phase) : Run σ :=
  { run with phases := run.phases ++ [phase] }

def now (world : World σ) (run : Run σ) : Duration :=
  run.session.now world

def process? (run : Run σ) (role : Role) : Option RoleProcess :=
  run.session.process? role

def exitState (run : Run σ) (role : Role) : ExitState :=
  ((run.process? role).map RoleProcess.exitState).getD .notStarted

def launch (world : World σ) (scenario : Scenario) (role : Role) (run : Run σ) :
    Except Error Unit × Run σ :=
  match scenario.roles.get role with
  | none => (.error (.internal s!"{role} is not configured"), run)
  | some _ =>
      match scenario.commandLine role with
      | .error cause => (.error cause, run)
      | .ok commandLine =>
          match world.launch commandLine (scenario.envOf role) run.session.outside with
          | (.error cause, outside) =>
              (.error (.launchFailed role commandLine.program cause),
                { run with session := { run.session with outside } })
          | (.ok pid, outside) =>
              let process :=
                RoleProcess.started role pid commandLine (world.now outside) scenario.historyLines
              (.ok (), { run with session := { run.session with
                outside, processes := run.session.processes ++ [process] } })

def relayLines (run : Run σ) : Run σ :=
  let (lines, session) := run.session.takeLines
  { run with session, transcript := run.transcript.observeAll lines }

/-- A condition on the processes at a point in time. -/
abbrev Condition := List RoleProcess → Duration → Bool

/-- One pass of a wait: poll for what is left of the time, and relay what came of it. -/
def pass (world : World σ) (attentive : Bool) (deadline : Deadline) (run : Run σ) :
    Except Error Unit × Run σ :=
  let budget := deadline.slice (run.now world) Session.pollInterval
  match run.session.poll world attentive budget with
  | (.error cause, session) => (.error cause, { run with session })
  | (.ok (), session) => (.ok (), relayLines { run with session })

/--
Passes until a condition holds or the deadline has expired, one at least; tells
whether the condition held.  When no more passes are allowed, time is up.
-/
def drainUntil (world : World σ) (attentive : Bool) (deadline : Deadline) (done : Condition) :
    Nat → Run σ → Except Error Bool × Run σ
  | more, run =>
      match run.pass world attentive deadline with
      | (.error cause, run) => (.error cause, run)
      | (.ok (), run) =>
          if done run.session.processes (run.now world) then (.ok true, run)
          else if deadline.isExpired (run.now world) then (.ok false, run)
          else match more with
            | 0 => (.ok false, run)
            | more + 1 => drainUntil world attentive deadline done more run

theorem drainUntil_of_failed {world : World σ} {attentive : Bool} {deadline : Deadline}
    {run next : Run σ} {cause : Error}
    (failed : run.pass world attentive deadline = (.error cause, next)) (done : Condition)
    (more : Nat) : drainUntil world attentive deadline done more run = (.error cause, next) := by
  rw [drainUntil]
  simp only [failed]

/-- What follows a pass that did not fail. -/
theorem drainUntil_of_passed {world : World σ} {attentive : Bool} {deadline : Deadline}
    {run next : Run σ} (passed : run.pass world attentive deadline = (.ok (), next))
    (done : Condition) (more : Nat) :
    drainUntil world attentive deadline done more run =
      if done next.session.processes (next.now world) then (.ok true, next)
      else if deadline.isExpired (next.now world) then (.ok false, next)
      else match more with
        | 0 => (.ok false, next)
        | more + 1 => drainUntil world attentive deadline done more next := by
  rw [drainUntil]
  simp only [passed]

/-- The client has ended and nothing more is awaited from it. -/
def clientFinished : Condition := fun processes now =>
  (processes.filter fun process => process.role = .client).all fun process =>
    process.isFinished now Handshake.linger

def serverEnded : Condition := fun processes _ =>
  (processes.filter fun process => process.role = .server).all fun process => !process.isAlive

def allEnded : Condition := fun processes _ =>
  processes.all fun process => !process.isAlive

def serverTarget (world : World σ) (scenario : Scenario) (run : Run σ) : Handshake.Target :=
  ⟨.server, scenario.marker, .after (run.now world) scenario.timeouts.handshake, true⟩

def awaitServer (world : World σ) (scenario : Scenario) (more : Nat) (run : Run σ) :
    Except Error Unit × Run σ :=
  let target := run.serverTarget world scenario
  let (outcome, session, transcript) := Handshake.await world target more run.session run.transcript
  let run := { run with session, transcript }
  match outcome.bind fun state => state.toResult .server scenario.marker target.deadline with
  | .error cause => (.error cause, run)
  | .ok () => (.ok (), { run with handshakeSatisfied := true })

def awaitClient (world : World σ) (scenario : Scenario) (more : Nat) (run : Run σ) :
    Except Error Unit × Run σ :=
  let deadline := Deadline.after (run.now world) scenario.timeouts.run
  match drainUntil world true deadline clientFinished more run with
  | (.error cause, run) => (.error cause, run)
  | (.ok true, run) => (.ok (), run)
  | (.ok false, run) => (.error (.runTimeout .client deadline.budget.toSeconds), run)

/-- Start the client and, if it takes part, the helper. -/
def launchClients (world : World σ) (scenario : Scenario) (run : Run σ) :
    Except Error Unit × Run σ :=
  match run.launch world scenario .client with
  | (.error cause, run) => (.error cause, run)
  | (.ok (), run) =>
      if scenario.hasHelper then run.launch world scenario .clientHelper else (.ok (), run)

/-- From the start of the server to the end of the client. -/
def drive (world : World σ) (scenario : Scenario) (more : Nat) (run : Run σ) :
    Except Error Unit × Run σ :=
  match (run.enter .serverStarting).launch world scenario .server with
  | (.error cause, run) => (.error cause, run)
  | (.ok (), run) =>
      match (run.enter .awaitingHandshake).awaitServer world scenario more with
      | (.error cause, run) => (.error cause, run)
      | (.ok (), run) =>
          match (run.enter .clientStarting).launchClients world scenario with
          | (.error cause, run) => (.error cause, run)
          | (.ok (), run) => (run.enter .running).awaitClient world scenario more

/-- The last lines of the output of a role. -/
def tail (scenario : Scenario) (run : Run σ) (role : Role) : List String :=
  match run.process? role with
  | none => []
  | some process => (process.history.tail scenario.tailLines).map Line.text

def recordError (scenario : Scenario) (cause : Error) (run : Run σ) : Run σ :=
  let failure : Failure := {
    kind := .ofError cause
    role := cause.role?
    reason := cause.message
    tail := (cause.role?.map (run.tail scenario)).getD [] }
  { run with failures := run.failures ++ [failure] }

/-- Do something to every living process, the last one first. -/
def forLiving (action : Nat → RoleProcess → σ → RoleProcess × σ) :
    List (RoleProcess × Nat) → σ → List RoleProcess × σ
  | [], outside => ([], outside)
  | (process, index) :: rest, outside =>
      let (rest, outside) := forLiving action rest outside
      if process.isAlive then
        let (process, outside) := action index process outside
        (process :: rest, outside)
      else (process :: rest, outside)

/-- Do something to every living process of a run, the last one first. -/
def eachLiving (action : Nat → RoleProcess → σ → RoleProcess × σ) (run : Run σ) : Run σ :=
  let (processes, outside) :=
    forLiving action run.session.processes.zipIdx run.session.outside
  { run with session := { run.session with processes, outside } }

/-- Ask every living process to stop, the last one first. -/
def terminateAll (world : World σ) (run : Run σ) : Run σ :=
  run.eachLiving fun index process outside =>
    (Session.terminateProcess world index process outside).2

/-- Kill every living process, the last one first. -/
def killAll (world : World σ) (run : Run σ) : Run σ :=
  run.eachLiving fun index process outside =>
    (Session.killProcess world index process outside).2

/--
Drain until every process has ended.  If the processes cannot be asked, the time
is waited out and each of them is asked once more.
-/
def drainUntilEnded (world : World σ) (deadline : Deadline) (more : Nat) (run : Run σ) :
    Bool × Run σ :=
  match drainUntil world false deadline allEnded more run with
  | (.ok ended, run) => (ended, run)
  | (.error _, run) =>
      let outside := world.pause (deadline.remaining (run.now world)) run.session.outside
      let session := ({ run.session with outside } : Session σ).refreshExits world
      (allEnded session.processes (session.now world), { run with session })

/-- Note every process that could not be stopped. -/
def reportSurvivors (run : Run σ) : Run σ :=
  let survivors := run.session.processes.filter RoleProcess.isAlive
  { run with
    teardownFailures := run.teardownFailures ++ survivors.map fun process =>
      ⟨process.role, some process.pid,
        s!"still running {Session.killWait.seconds}s after SIGKILL"⟩ }

/-- Ask how every process has ended; one that cannot be asked does not keep the others from it. -/
def refresh (world : World σ) (run : Run σ) : Run σ :=
  { run with session := run.session.refreshExits world }

/-- Ask every living process to stop, and wait for the end of all. -/
def requestStops (world : World σ) (scenario : Scenario) (more : Nat) (run : Run σ) :
    Bool × Run σ :=
  let run := run.terminateAll world
  run.drainUntilEnded world (.after (run.now world) scenario.timeouts.stopGrace) more

/-- Kill every living process, and wait for the end of all. -/
def killStragglers (world : World σ) (more : Nat) (run : Run σ) : Bool × Run σ :=
  let run := run.killAll world
  run.drainUntilEnded world (.after (run.now world) Session.killWait) more

/--
Ask every living process to stop, and kill those that do not in time; tells
whether all of them have ended.
-/
def endAll (world : World σ) (scenario : Scenario) (more : Nat) (run : Run σ) : Bool × Run σ :=
  let run := run.refresh world
  if allEnded run.session.processes (run.now world) then (true, run)
  else match run.requestStops world scenario more with
    | (true, run) => (true, run)
    | (false, run) => run.killStragglers world more

/-- End every process, and note those that could not be ended. -/
def stopAll (world : World σ) (scenario : Scenario) (more : Nat) (run : Run σ) : Run σ :=
  let (ended, run) := run.endAll world scenario more
  if ended then run else run.reportSurvivors

/-- After a drive that went well the server may still exit on its own. -/
def awaitServerExit (world : World σ) (scenario : Scenario) (more : Nat) (run : Run σ) : Run σ :=
  if (run.process? .server).any RoleProcess.isAlive then
    let deadline := Deadline.after (run.now world) scenario.timeouts.serverExit
    (drainUntil world false deadline serverEnded more run).2
  else run

/-- Take what is left of the output: a last pass, then all streams are given up. -/
def collectRest (world : World σ) (run : Run σ) : Run σ :=
  let (_, session) := run.session.drain world
  relayLines { run with session := session.closeAll }

/-- Kill what some processes have started and left behind, in start order. -/
def reapEach (world : World σ) : List (RoleProcess × Nat) → σ → σ
  | [], outside => outside
  | (process, index) :: rest, outside =>
      reapEach world rest (Session.reapGroup world index process outside)

/-- Kill what the processes have started and left behind. -/
def reapGroups (world : World σ) (run : Run σ) : Run σ :=
  let outside := reapEach world run.session.processes.zipIdx run.session.outside
  { run with session := { run.session with outside } }

/-- The teardown begins; after a drive that went well the server may exit on its own. -/
def windDown (world : World σ) (scenario : Scenario) (more : Nat) (wentWell : Bool)
    (run : Run σ) : Run σ :=
  let run := run.enter .teardown
  if wentWell then run.awaitServerExit world scenario more else run

/-- End every process and take the rest of the output. -/
def teardown (world : World σ) (scenario : Scenario) (more : Nat) (wentWell : Bool)
    (run : Run σ) : Run σ :=
  let run := run.windDown world scenario more wentWell
  ((run.stopAll world scenario more).collectRest world).reapGroups world

def report (run : Run σ) (role : Role) : RoleReport :=
  match run.process? role with
  | some process =>
      ⟨role, some process.pid, some process.commandLine.display, process.exitState⟩
  | none => ⟨role, none, none, .notStarted⟩

def hasFailureOf (run : Run σ) (role : Role) : Bool :=
  run.failures.any fun failure => failure.role = some role

def fail (scenario : Scenario) (kind : FailureKind) (role : Role) (reason : String)
    (run : Run σ) : Run σ :=
  { run with failures := run.failures ++ [⟨kind, some role, reason, run.tail scenario role⟩] }

/-- Record a role that ended on its own with a failure status. -/
def judgeExit (scenario : Scenario) (run : Run σ) (report : RoleReport) : Run σ :=
  if report.exit.isFailure && !run.hasFailureOf report.role then
    run.fail scenario (.ofExit report.role) report.role
      s!"{report.role} exited with {report.exit}"
  else run

/-- Record a client that did not end well although nothing else has failed. -/
def judgeClient (scenario : Scenario) (run : Run σ) : Run σ :=
  let client := run.exitState .client
  if run.failures.isEmpty && !client.isClean then
    run.fail scenario .clientFailure .client s!"client did not exit cleanly ({client})"
  else run

def errorTextReason (run : Run σ) (role : Role) : String :=
  match run.transcript.findings.find? fun finding => finding.role = role with
  | some finding =>
      s!"{role} printed error text: matched '{finding.pattern}' in \"{finding.line}\""
  | none => s!"{role} printed error text"

/-- Record a role that printed error text. -/
def judgeOutput (scenario : Scenario) (run : Run σ) (role : Role) : Run σ :=
  if run.transcript.hasErrorText role && !run.hasFailureOf role then
    run.fail scenario .errorText role (run.errorTextReason role)
  else run

/-- Record what failed about the ends of the processes, which matter once the marker was found. -/
def judgeExits (scenario : Scenario) (run : Run σ) : Run σ :=
  if run.handshakeSatisfied then
    ((scenario.activeRoles.map run.report).foldl (judgeExit scenario) run).judgeClient scenario
  else run

/-- Record what failed about the output of the processes, unless error text is tolerated. -/
def judgeOutputs (scenario : Scenario) (run : Run σ) : Run σ :=
  if run.transcript.hasAnyErrorText && !scenario.tolerateErrorText then
    Role.all.foldl (judgeOutput scenario) run
  else run

/-- Record everything that failed besides the drive. -/
def judge (scenario : Scenario) (run : Run σ) : Run σ :=
  (run.judgeExits scenario).judgeOutputs scenario

def passed (run : Run σ) : Bool :=
  run.handshakeSatisfied && run.failures.isEmpty && (run.exitState .client).isClean

/-- Come to a verdict once every process has ended. -/
def aggregate (world : World σ) (scenario : Scenario) (run : Run σ) : RunResult × Run σ :=
  let roles := scenario.activeRoles.map run.report
  let run := run.judge scenario
  let passed := run.passed
  let run := run.enter (if passed then .done else .failed)
  let observed := run.transcript.hasAnyErrorText
  ({ passed
     roles
     handshakeSatisfied := run.handshakeSatisfied
     errorTextObserved := observed
     errorTextTolerated := observed && scenario.tolerateErrorText
     findings := run.transcript.findings.toList
     findingsDropped := run.transcript.dropped
     failures := run.failures
     teardownFailures := run.teardownFailures
     liveAfterTeardown := (run.session.processes.filter RoleProcess.isAlive).length
     elapsedSeconds :=
       (Duration.mk ((run.now world).nanos - run.startedAt.nanos)).toSeconds }, run)

/-- Drive a scenario and record what ended the drive; tells whether it went well. -/
def driven (world : World σ) (scenario : Scenario) (more : Nat) (run : Run σ) : Bool × Run σ :=
  match run.drive world scenario more with
  | (.ok (), run) => (true, run)
  | (.error cause, run) => (false, run.recordError scenario cause)

/-- Drive a scenario and leave nothing of it behind. -/
def settle (world : World σ) (scenario : Scenario) (more : Nat) (run : Run σ) : Run σ :=
  let (wentWell, run) := run.driven world scenario more
  run.teardown world scenario more wentWell

/-- Run a scenario to its end; each wait may take so many more passes than one. -/
def complete (world : World σ) (scenario : Scenario) (more : Nat) (run : Run σ) :
    RunResult × Run σ :=
  (run.settle world scenario more).aggregate world scenario

end Run

end Rendezvous
