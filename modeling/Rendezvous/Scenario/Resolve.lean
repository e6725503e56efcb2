import Rendezvous.CommandLine.Words
import Rendezvous.RunOptions
import Rendezvous.Scenario

/-!
From options and settings to a scenario.

The command line overrides the settings and the settings override what is
built in.  `resolve` checks everything that can be checked before a process is
started; the first thing found wrong is its error.
-/

set_option autoImplicit false

namespace Rendezvous

namespace Scenario

/-- The flag in front of the process count if nothing is said. -/
def defaultCountFlag : String := "-n"

/-- Serial mode is chosen by either side; the command line can also choose distributed mode. -/
def modeOf (options : RunOptions) (settings : Settings) : Mode :=
  if options.distributed then .distributed
  else if options.serial || settings.serial then .serial
  else .distributed

/-- The path of the launcher, which has to be there in distributed mode only. -/
def launcherPath (locate : String → Option String) (mode : Mode) (path : Option String) :
    Except Error (Option String) :=
  match mode, path with
  | .serial, path => .ok path
  | .distributed, none => .error (.setting .launcherNotGiven)
  | .distributed, some path =>
      match locate path with
      | some found => .ok (some found)
      | none => .error (.setting (.launcherNotFound path))

def checkProcesses (mode : Mode) (role : Role) (count : Nat) : Except Error Unit :=
  match mode with
  | .serial => if count = 1 then .ok () else .error (.setting (.serialProcessCount role count))
  | .distributed => if count = 0 then .error (.setting (.noProcess role)) else .ok ()

/-- Variables with names that an environment can hold. -/
def checkVariables (env : Variables) : Except Error Unit :=
  match env.badName? with
  | some name => .error (.setting (.variableName name))
  | none => .ok ()

def splitFlags (flags : String) : Except Error (List String) :=
  (Words.split flags).mapError fun quote => .unmatchedQuote quote flags

def durationOf (timeout : Timeout) (seconds : Binary64) : Except Error Duration :=
  match Duration.ofSeconds? seconds with
  | some duration => .ok duration
  | none => .error (.setting (.seconds timeout seconds))

/-- The flags in front of the executable of a role. -/
def preflagsOf (options : RunOptions) (settings : Settings) (role : Role) : String :=
  ((options.roles.get role).preflags.or (options.preflags.or
    ((settings.roles.get role).preflags.or settings.launcher.preflags))).getD ""

/-- The flags behind the executable of a role. -/
def postflagsOf (options : RunOptions) (settings : Settings) (role : Role) : String :=
  ((options.roles.get role).postflags.or (options.postflags.or
    ((settings.roles.get role).postflags.or settings.launcher.postflags))).getD ""

/-- The path of a role's executable; only the helper may be without one. -/
def pathOf (options : RunOptions) (settings : Settings) (role : Role) :
    Except Error (Option String) :=
  match (options.roles.get role).path.or (settings.roles.get role).path, role with
  | some path, _ => .ok (some path)
  | none, .clientHelper => .ok none
  | none, _ => .error (.missingPath role)

def planOf (locate : String → Option String) (options : RunOptions) (settings : Settings)
    (role : Role) (path : String) : Except Error RolePlan := do
  let given := options.roles.get role
  let configured := settings.roles.get role
  let some executable := locate path | throw (.executableNotFound role path)
  let processes := (given.processes.or configured.processes).getD 1
  checkProcesses (modeOf options settings) role processes
  let args := given.args.getD (.all options.tail.length)
  if (args.select? options.tail).isNone then
    throw (.setting (.sliceOutside role args options.tail.length))
  let env := configured.env ++ given.env
  checkVariables env
  let preflags ← splitFlags (preflagsOf options settings role)
  let postflags ← splitFlags (postflagsOf options settings role)
  return { executable, processes, preflags, postflags, args, env }

/-- The plan of a role, or none if it does not take part. -/
def resolveRole (locate : String → Option String) (options : RunOptions) (settings : Settings)
    (role : Role) : Except Error (Option RolePlan) := do
  match ← pathOf options settings role with
  | none => return none
  | some path => some <$> planOf locate options settings role path

/-- The variable that tells the processes which backend to use. -/
def backendVariable (options : RunOptions) (settings : Settings) : Variables :=
  match options.backend.or settings.backend.name with
  | some name => [(settings.backend.variableName, name)]
  | none => []

/-- The marker of the handshake, which is not blank. -/
def checkMarker (marker : String) : Except Error Unit :=
  if Text.trim marker.toList = [] then .error (.setting .blankMarker) else .ok ()

/-- The scenario that options and settings describe, if nothing about them is wrong. -/
def ofSettings (locate : String → Option String) (options : RunOptions) (settings : Settings) :
    Except Error Scenario := do
  let mode := modeOf options settings
  let path ← launcherPath locate mode (options.launcher.or settings.launcher.path)
  let countFlag := (options.countFlag.or settings.launcher.countFlag).getD defaultCountFlag
  let roles ← RoleTable.build (resolveRole locate options settings)
  let env := settings.env ++ options.env ++ backendVariable options settings
  checkVariables env
  let timeouts ← TimeoutTable.build fun timeout =>
    durationOf timeout ((options.timeouts.get timeout).getD (settings.timeouts.get timeout))
  let marker := options.marker.getD settings.marker
  checkMarker marker
  return {
    mode
    launcher := ⟨path, countFlag⟩
    roles
    tail := options.tail
    env
    timeouts
    marker
    scanner := Scanner.configured settings.scan options.patterns
    tolerateErrorText := options.tolerateErrorText || settings.scan.tolerateErrorText
    quiet := options.quiet
    tailLines := settings.output.tailLines
    historyLines := Nat.max settings.output.historyLines 1 }

/--
Decide everything that is decided before a process is started.  Launcher defaults
may have been built into the program.
-/
def resolve (locate : String → Option String) (options : RunOptions) (settings : Settings)
    (builtIn : LauncherSettings := {}) : Except Error Scenario :=
  ofSettings locate options (settings.above builtIn)

end Scenario

end Rendezvous
