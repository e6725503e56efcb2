import Rendezvous.Decimal.Notation
import Rendezvous.Exit
import Rendezvous.Role
import Rendezvous.ArgSlice
import Rendezvous.SystemError
import Rendezvous.Timeout

/-!
Everything that can go wrong, as causes, and the wording of each.

`SettingError` is a setting that cannot be used and `Error` a fatal condition
of the program.
-/

set_option autoImplicit false

namespace Rendezvous

/-- A setting that cannot be used. -/
inductive SettingError where
  /-- Distributed mode was asked for without a launcher. -/
  | launcherNotGiven
  | launcherNotFound (path : String)
  /-- A command line was asked for in distributed mode without a launcher. -/
  | launcherMissing
  | serialProcessCount (role : Role) (count : Nat)
  /-- A role has no process in distributed mode. -/
  | noProcess (role : Role)
  /-- The slice of a role is not within the trailing arguments. -/
  | sliceOutside (role : Role) (slice : ArgSlice) (length : Nat)
  /-- The role is not part of the run. -/
  | roleNotConfigured (role : Role)
  /-- A name that an environment cannot hold. -/
  | variableName (name : String)
  /-- A number of seconds that is not a duration. -/
  | seconds (timeout : Timeout) (value : Binary64)
  /-- A handshake marker of white space. -/
  | blankMarker
  | other (text : String)
  deriving DecidableEq, Repr

namespace SettingError

def message : SettingError → String
  | .launcherNotGiven =>
      "distributed mode requires a launcher; pass --launcher <path> or --serial"
  | .launcherNotFound path => s!"launcher '{path}' not found"
  | .launcherMissing => "distributed mode requires a launcher"
  | .serialProcessCount role count =>
      s!"{role} process count must be 1 in serial mode, got {count}"
  | .noProcess role => s!"{role} process count must be at least 1"
  | .sliceOutside role slice length =>
      s!"{role} argument slice {slice} is outside the {length} trailing arguments"
  | .roleNotConfigured role => s!"{role} is not configured for this run"
  | .variableName name => s!"invalid environment variable name '{name}'"
  | .seconds timeout value =>
      s!"{timeout.name} must be a non-negative number of seconds, got {value.toText}"
  | .blankMarker => "handshake marker must not be empty"
  | .other text => text

end SettingError

/-- A fatal condition. -/
inductive Error where
  | setting (cause : SettingError)
  /-- The configuration file does not have the form it must have. -/
  | settingsFile (reason : String)
  | unmatchedQuote (quote : Char) (input : String)
  | missingPath (role : Role)
  | executableNotFound (role : Role) (path : String)
  | launchFailed (role : Role) (program : String) (cause : SystemError)
  | handshakeTimeout (role : Role) (marker : String) (seconds : Binary64)
  | exitBeforeHandshake (role : Role) (marker : String) (status : String)
  | errorTextBeforeHandshake (role : Role) (pattern line : String)
  | runTimeout (role : Role) (seconds : Binary64)
  | interrupted
  | processNotTracked (role : Role)
  | system (cause : SystemError)
  | fileRead (path reason : String)
  | fileWrite (path reason : String)
  | json (reason : String)
  | internal (reason : String)
  deriving DecidableEq, Repr

namespace Error

def message : Error → String
  | .setting cause => s!"Configuration error: {cause.message}"
  | .settingsFile reason => s!"Invalid configuration file: {reason}"
  | .unmatchedQuote quote input => s!"Unmatched {quote} quote in '{input}'"
  | .missingPath role =>
      s!"Required {role} executable path is missing. " ++
        s!"Pass --{role} <path> or set it in the config file"
  | .executableNotFound role path => s!"{role} executable '{path}' not found"
  | .launchFailed role program cause => s!"Failed to launch {role} ({program}): {cause.message}"
  | .handshakeTimeout role marker seconds =>
      s!"{role} did not print '{marker}' within {seconds.toFixed 1} seconds"
  | .exitBeforeHandshake role marker status =>
      s!"{role} exited with {status} before printing '{marker}'"
  | .errorTextBeforeHandshake role pattern line =>
      s!"{role} reported an error before the handshake: matched '{pattern}' in \"{line}\""
  | .runTimeout role seconds => s!"{role} did not finish within {seconds.toFixed 1} seconds"
  | .interrupted => "Interrupted"
  | .processNotTracked role => s!"{role} process is not running"
  | .system cause => s!"IO error: {cause.message}"
  | .fileRead path reason => s!"Failed to read file '{path}': {reason}"
  | .fileWrite path reason => s!"Failed to write file '{path}': {reason}"
  | .json reason => s!"JSON error: {reason}"
  | .internal reason => s!"Internal error: {reason}"

def role? : Error → Option Role
  | .missingPath role | .executableNotFound role _ | .launchFailed role _ _
  | .handshakeTimeout role _ _ | .exitBeforeHandshake role _ _
  | .errorTextBeforeHandshake role _ _ | .runTimeout role _ | .processNotTracked role => some role
  | _ => none

/-- Whether the error arises before any process is started. -/
def isConfiguration : Error → Bool
  | .setting _ | .settingsFile _ | .unmatchedQuote _ _ | .missingPath _
  | .executableNotFound _ _ | .fileRead _ _ => true
  | _ => false

/-- The text of an error that is wrapped in this one. -/
def source? : Error → Option String
  | .launchFailed _ _ cause => some cause.message
  | .system cause => some cause.message
  | .json reason => some reason
  | _ => none

end Error

end Rendezvous
