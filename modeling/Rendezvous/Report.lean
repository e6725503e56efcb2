import Rendezvous.Files.Tree
import Rendezvous.Json
import Rendezvous.RunResult

/-!
The report of a run as a JSON document.
-/

set_option autoImplicit false

namespace Rendezvous

namespace Report

def ofRole (role : Role) : Json := .text role.name

/-- The state of a process: its name, and the numbers that belong to it. -/
def ofExit : ExitState → Json
  | .notStarted => .object [("state", .text "not-started")]
  | .running => .object [("state", .text "running")]
  | .exited code => .object [("state", .text "exited"), ("code", .integer code)]
  | .signaled signal => .object [("state", .text "signaled"), ("signal", .integer signal)]
  | .stopped code signal =>
      .object [
        ("state", .text "stopped"),
        ("code", .ofOption .integer code),
        ("signal", .ofOption .integer signal)]

def ofRoleReport (report : RoleReport) : Json :=
  .object [
    ("role", ofRole report.role),
    ("pid", .ofOption .ofNat report.pid),
    ("command_line", .ofOption .text report.commandLine),
    ("exit", ofExit report.exit)]

def ofFinding (finding : Finding) : Json :=
  .object [
    ("role", ofRole finding.role),
    ("stream", .text finding.stream.name),
    ("pattern", .text finding.pattern),
    ("line", .text finding.line)]

def ofFailure (failure : Failure) : Json :=
  .object [
    ("kind", .text failure.kind.name),
    ("role", .ofOption ofRole failure.role),
    ("reason", .text failure.reason),
    ("tail", .array (failure.tail.map .text))]

def ofTeardownFailure (failure : TeardownFailure) : Json :=
  .object [
    ("role", ofRole failure.role),
    ("pid", .ofOption .ofNat failure.pid),
    ("reason", .text failure.reason)]

def ofResult (result : RunResult) : Json :=
  .object [
    ("passed", .boolean result.passed),
    ("roles", .array (result.roles.map ofRoleReport)),
    ("handshake_satisfied", .boolean result.handshakeSatisfied),
    ("error_text_observed", .boolean result.errorTextObserved),
    ("error_text_tolerated", .boolean result.errorTextTolerated),
    ("findings", .array (result.findings.map ofFinding)),
    ("findings_dropped", .ofNat result.findingsDropped),
    ("failures", .array (result.failures.map ofFailure)),
    ("teardown_failures", .array (result.teardownFailures.map ofTeardownFailure)),
    ("live_after_teardown", .ofNat result.liveAfterTeardown),
    ("elapsed_secs", .number result.elapsedSeconds)]

def text (result : RunResult) : String := (ofResult result).pretty ++ "\n"

def write (path : String) (result : RunResult) (files : FileTree) : Except Error FileTree :=
  (files.write path (Utf8.encode (text result))).mapError fun cause =>
    .fileWrite path cause.message

end Report

end Rendezvous
