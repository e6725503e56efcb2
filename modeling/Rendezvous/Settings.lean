import Rendezvous.Role
import Rendezvous.Variables
import Rendezvous.Timeout

/-!
The settings of a configuration file.

Everything is optional in the file; the values here are what holds where it
says nothing.  What was built into the program about the launcher lies below the
file.  The command line overrides the settings, see `Rendezvous.Scenario`.
-/

set_option autoImplicit false

namespace Rendezvous

/-- The program that starts several processes of a role at once. -/
structure LauncherSettings where
  path : Option String := none
  /-- The flag in front of the process count. -/
  countFlag : Option String := none
  /-- Flags in front of the executable. -/
  preflags : Option String := none
  /-- Flags behind the executable. -/
  postflags : Option String := none
  deriving DecidableEq, Repr, Inhabited

namespace LauncherSettings

/-- What is said above, and what is said below where nothing is said above. -/
def backedBy (upper lower : LauncherSettings) : LauncherSettings where
  path := upper.path.or lower.path
  countFlag := upper.countFlag.or lower.countFlag
  preflags := upper.preflags.or lower.preflags
  postflags := upper.postflags.or lower.postflags

end LauncherSettings

structure RoleSettings where
  path : Option String := none
  processes : Option Nat := none
  preflags : Option String := none
  postflags : Option String := none
  /-- Variables for this role only, sorted by name. -/
  env : Variables := []
  deriving DecidableEq, Repr, Inhabited

/-- Which output counts as an error. -/
structure ScanSettings where
  patterns : List String := []
  /-- Whether the patterns replace the built-in ones. -/
  replaceDefaults : Bool := false
  /-- Whether error text leaves the verdict as it is. -/
  tolerateErrorText : Bool := false
  deriving DecidableEq, Repr, Inhabited

/-- How much output is kept. -/
structure OutputSettings where
  /-- How many lines a failure shows. -/
  tailLines : Nat := 20
  /-- How many lines are kept for each process. -/
  historyLines : Nat := 10000
  deriving DecidableEq, Repr, Inhabited

/-- The backend that the processes are told to use. -/
structure BackendSettings where
  name : Option String := none
  variableName : String := "PAIRTEST_BACKEND"
  deriving DecidableEq, Repr, Inhabited

/-- The timeouts that hold if nothing is said, in seconds. -/
def defaultTimeouts : TimeoutTable Binary64 where
  handshake := Binary64.ofNat 30
  serverExit := Binary64.ofNat 10
  run := Binary64.ofNat 900
  stopGrace := Binary64.ofNat 3

/-- All settings of a configuration file. -/
structure Settings where
  launcher : LauncherSettings := {}
  roles : RoleTable RoleSettings := .replicate {}
  /-- In seconds. -/
  timeouts : TimeoutTable Binary64 := defaultTimeouts
  /-- The text that tells that the server is ready. -/
  marker : String := "READY"
  scan : ScanSettings := {}
  output : OutputSettings := {}
  /-- Variables for every role, sorted by name. -/
  env : Variables := []
  backend : BackendSettings := {}
  /-- Whether the roles run without the launcher. -/
  serial : Bool := false
  deriving DecidableEq, Repr, Inhabited

namespace Settings

/-- The settings, above what holds of the launcher where they say nothing about it. -/
def above (settings : Settings) (builtIn : LauncherSettings) : Settings :=
  { settings with launcher := settings.launcher.backedBy builtIn }

end Settings

end Rendezvous
