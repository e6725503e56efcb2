import Rendezvous.Error
import Rendezvous.Transcript

/-!
The outcome of a run: what happened to each role, everything that failed, and
the verdict.
-/

set_option autoImplicit false

namespace Rendezvous

/-- Why a run failed. -/
inductive FailureKind where
  | config
  | launchFailure
  | handshakeTimeout
  | serverCrash
  | handshakeErrorText
  | clientFailure
  | serverFailure
  | helperFailure
  | errorText
  | runTimeout
  | interrupted
  | internal
  deriving DecidableEq, Repr, Inhabited

namespace FailureKind

def all : List FailureKind :=
  [.config, .launchFailure, .handshakeTimeout, .serverCrash, .handshakeErrorText, .clientFailure,
    .serverFailure, .helperFailure, .errorText, .runTimeout, .interrupted, .internal]

def name : FailureKind → String
  | .config => "config"
  | .launchFailure => "launch-failure"
  | .handshakeTimeout => "handshake-timeout"
  | .serverCrash => "server-crash"
  | .handshakeErrorText => "handshake-error-text"
  | .clientFailure => "client-failure"
  | .serverFailure => "server-failure"
  | .helperFailure => "helper-failure"
  | .errorText => "error-text"
  | .runTimeout => "run-timeout"
  | .interrupted => "interrupted"
  | .internal => "internal"

def ofName? (text : String) : Option FailureKind :=
  all.find? (·.name = text)

/-- The kind of a fatal error of a run. -/
def ofError : Error → FailureKind
  | .launchFailed _ _ _ => .launchFailure
  | .handshakeTimeout _ _ _ => .handshakeTimeout
  | .exitBeforeHandshake _ _ _ => .serverCrash
  | .errorTextBeforeHandshake _ _ _ => .handshakeErrorText
  | .runTimeout _ _ => .runTimeout
  | .interrupted => .interrupted
  | cause => if cause.isConfiguration then .config else .internal

/-- The kind of a role that ended on its own with a failure status. -/
def ofExit : Role → FailureKind
  | .server => .serverFailure
  | .client => .clientFailure
  | .clientHelper => .helperFailure

end FailureKind

/-- A reason why a run did not pass. -/
structure Failure where
  kind : FailureKind
  role : Option Role
  reason : String
  /-- The last lines of the output of the role. -/
  tail : List String
  deriving DecidableEq, Repr, Inhabited

/-- A process that could not be stopped. -/
structure TeardownFailure where
  role : Role
  pid : Option Nat
  reason : String
  deriving DecidableEq, Repr, Inhabited

/-- What happened to a role. -/
structure RoleReport where
  role : Role
  pid : Option Nat
  /-- How the role was started, if it was. -/
  commandLine : Option String
  exit : ExitState
  deriving DecidableEq, Repr, Inhabited

/-- The outcome of a run. -/
structure RunResult where
  passed : Bool
  roles : List RoleReport
  handshakeSatisfied : Bool
  errorTextObserved : Bool
  errorTextTolerated : Bool
  findings : List Finding
  findingsDropped : Nat
  failures : List Failure
  teardownFailures : List TeardownFailure
  liveAfterTeardown : Nat
  elapsedSeconds : Binary64
  deriving DecidableEq, Repr, Inhabited

namespace RunResult

def exitCode (result : RunResult) : Nat :=
  if result.passed then 0 else 1

/-- What happened to a role, if it took part. -/
def role? (result : RunResult) (role : Role) : Option RoleReport :=
  result.roles.find? fun report => report.role = role

def exitState (result : RunResult) (role : Role) : ExitState :=
  ((result.role? role).map RoleReport.exit).getD .notStarted

def hasFailure (result : RunResult) (kind : FailureKind) : Bool :=
  result.failures.any fun failure => failure.kind = kind

end RunResult

end Rendezvous
