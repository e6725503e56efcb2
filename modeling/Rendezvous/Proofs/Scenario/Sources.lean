import Mathlib.Data.List.Basic
import Rendezvous.Scenario.Resolve

/-!
Where the values of a scenario come from.

A value may be given on the command line, in the settings or in what was built
into the program.  For each value there is a list of places that can give it, and
the first of them that does is the one that counts.  `Sources.resolve_eq` shows a
scenario as it is made of these values.
-/

set_option autoImplicit false

namespace Rendezvous

universe u

/-- All that is known before a scenario is resolved. -/
structure Sources where
  options : RunOptions
  settings : Settings
  builtIn : LauncherSettings

namespace Sources

/-- What the first of some places says that says anything. -/
def firstGiven {α : Type u} (places : List (Option α)) : Option α :=
  places.findSome? id

@[simp]
theorem firstGiven_nil {α : Type u} : firstGiven ([] : List (Option α)) = none := rfl

@[simp]
theorem firstGiven_cons {α : Type u} (place : Option α) (places : List (Option α)) :
    firstGiven (place :: places) = place.or (firstGiven places) := by
  cases place <;> rfl

variable (sources : Sources)

def resolve (locate : String → Option String) : Except Error Scenario :=
  Scenario.resolve locate sources.options sources.settings sources.builtIn

/-- The settings with what was built in below them. -/
def below : Settings :=
  sources.settings.above sources.builtIn

def mode : Mode :=
  Scenario.modeOf sources.options sources.below

/-- Both sides can ask for serial mode, and the command line can refuse it. -/
def Serial : Prop :=
  sources.options.distributed = false ∧
    (sources.options.serial = true ∨ sources.settings.serial = true)

def launcher : Option String :=
  firstGiven [sources.options.launcher, sources.settings.launcher.path, sources.builtIn.path]

def countFlag : String :=
  (firstGiven [sources.options.countFlag, sources.settings.launcher.countFlag,
    sources.builtIn.countFlag]).getD "-n"

def path (role : Role) : Option String :=
  firstGiven [(sources.options.roles.get role).path, (sources.settings.roles.get role).path]

def processes (role : Role) : Nat :=
  (firstGiven [(sources.options.roles.get role).processes,
    (sources.settings.roles.get role).processes]).getD 1

def preflags (role : Role) : String :=
  (firstGiven [(sources.options.roles.get role).preflags, sources.options.preflags,
    (sources.settings.roles.get role).preflags, sources.settings.launcher.preflags,
    sources.builtIn.preflags]).getD ""

def postflags (role : Role) : String :=
  (firstGiven [(sources.options.roles.get role).postflags, sources.options.postflags,
    (sources.settings.roles.get role).postflags, sources.settings.launcher.postflags,
    sources.builtIn.postflags]).getD ""

def slice (role : Role) : ArgSlice :=
  (sources.options.roles.get role).args.getD (.all sources.options.tail.length)

/-- The variables of one role only. -/
def roleEnv (role : Role) : Variables :=
  (sources.settings.roles.get role).env ++ (sources.options.roles.get role).env

def backend : Option String :=
  firstGiven [sources.options.backend, sources.settings.backend.name]

/-- The variables of every role; the one that names the backend is the last of them. -/
def env : Variables :=
  sources.settings.env ++ sources.options.env ++
    sources.backend.toList.map fun name => (sources.settings.backend.variableName, name)

def seconds (timeout : Timeout) : Binary64 :=
  (sources.options.timeouts.get timeout).getD (sources.settings.timeouts.get timeout)

def marker : String :=
  sources.options.marker.getD sources.settings.marker

/-- The plan of a role with what was found for it. -/
def plan (role : Role) (executable : String) (preflags postflags : List String) : RolePlan where
  executable
  processes := sources.processes role
  preflags
  postflags
  args := sources.slice role
  env := sources.roleEnv role

/-- The scenario with what was found for it. -/
def scenario (path : Option String) (roles : RoleTable (Option RolePlan))
    (timeouts : TimeoutTable Duration) : Scenario where
  mode := sources.mode
  launcher := ⟨path, sources.countFlag⟩
  roles
  tail := sources.options.tail
  env := sources.env
  timeouts
  marker := sources.marker
  scanner := Scanner.configured sources.settings.scan sources.options.patterns
  tolerateErrorText :=
    sources.options.tolerateErrorText || sources.settings.scan.tolerateErrorText
  quiet := sources.options.quiet
  tailLines := sources.settings.output.tailLines
  historyLines := Nat.max sources.settings.output.historyLines 1

theorem mode_eq_serial_iff : sources.mode = .serial ↔ sources.Serial := by
  have same : sources.below.serial = sources.settings.serial := rfl
  rw [mode, Scenario.modeOf, Serial, same]
  cases sources.options.distributed <;> cases sources.options.serial <;>
    cases sources.settings.serial <;> simp

theorem mode_eq_distributed_iff : sources.mode = .distributed ↔ ¬ sources.Serial := by
  rw [← mode_eq_serial_iff]
  cases sources.mode <;> simp

theorem launcher_eq :
    sources.options.launcher.or sources.below.launcher.path = sources.launcher := by
  simp [below, Settings.above, LauncherSettings.backedBy, launcher]

theorem countFlag_eq : (sources.options.countFlag.or sources.below.launcher.countFlag).getD
    Scenario.defaultCountFlag = sources.countFlag := by
  simp [below, Settings.above, LauncherSettings.backedBy, countFlag, Scenario.defaultCountFlag]

theorem path_eq (role : Role) :
    (sources.options.roles.get role).path.or (sources.below.roles.get role).path =
      sources.path role := by
  simp [path, below, Settings.above]

theorem processes_eq (role : Role) :
    ((sources.options.roles.get role).processes.or
      (sources.below.roles.get role).processes).getD 1 = sources.processes role := by
  simp [processes, below, Settings.above]

theorem preflagsOf_eq (role : Role) :
    Scenario.preflagsOf sources.options sources.below role = sources.preflags role := by
  simp [Scenario.preflagsOf, below, Settings.above, LauncherSettings.backedBy, preflags]

theorem postflagsOf_eq (role : Role) :
    Scenario.postflagsOf sources.options sources.below role = sources.postflags role := by
  simp [Scenario.postflagsOf, below, Settings.above, LauncherSettings.backedBy, postflags]

theorem backendVariable_eq : Scenario.backendVariable sources.options sources.below =
    sources.backend.toList.map fun name => (sources.settings.backend.variableName, name) := by
  have chosen : sources.options.backend.or sources.below.backend.name = sources.backend := by
    simp [backend, below, Settings.above]
  rw [Scenario.backendVariable, chosen]
  cases sources.backend <;> rfl

/-- The plan of a role, by the values that the sources give. -/
theorem planOf_eq (locate : String → Option String) (role : Role) (path : String) :
    Scenario.planOf locate sources.options sources.below role path = do
      let some executable := locate path | throw (.executableNotFound role path)
      Scenario.checkProcesses sources.mode role (sources.processes role)
      if ((sources.slice role).select? sources.options.tail).isNone then
        throw (.setting (.sliceOutside role (sources.slice role) sources.options.tail.length))
      Scenario.checkVariables (sources.roleEnv role)
      let preflags ← Scenario.splitFlags (sources.preflags role)
      let postflags ← Scenario.splitFlags (sources.postflags role)
      return sources.plan role executable preflags postflags := by
  unfold Scenario.planOf
  simp only [processes_eq, preflagsOf_eq, postflagsOf_eq]
  rfl

/-- A scenario, by the values that the sources give. -/
theorem resolve_eq (locate : String → Option String) :
    sources.resolve locate = do
      let path ← Scenario.launcherPath locate sources.mode sources.launcher
      let roles ← RoleTable.build (Scenario.resolveRole locate sources.options sources.below)
      Scenario.checkVariables sources.env
      let timeouts ← TimeoutTable.build fun timeout =>
        Scenario.durationOf timeout (sources.seconds timeout)
      Scenario.checkMarker sources.marker
      return sources.scenario path roles timeouts := by
  have resolved : sources.resolve locate =
      Scenario.ofSettings locate sources.options sources.below := rfl
  rw [resolved, Scenario.ofSettings, launcher_eq, countFlag_eq, backendVariable_eq]
  rfl

end Sources

end Rendezvous
