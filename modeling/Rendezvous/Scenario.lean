import Rendezvous.ArgSlice
import Rendezvous.CommandLine
import Rendezvous.Error
import Rendezvous.Scanner

/-!
A scenario: everything that is decided before a process is started.
-/

set_option autoImplicit false

namespace Rendezvous

/-- Whether the roles run under the launcher. -/
inductive Mode where
  /-- One process for each role, without the launcher. -/
  | serial
  /-- Each role runs under the launcher with its process count. -/
  | distributed
  deriving DecidableEq, Repr, Inhabited

namespace Mode

def name : Mode → String
  | .serial => "serial"
  | .distributed => "distributed"

end Mode

/-- The program that starts several processes of a role at once. -/
structure Launcher where
  path : Option String
  /-- The flag in front of the process count; without a text there is no count. -/
  countFlag : String
  deriving DecidableEq, Repr, Inhabited

/-- How one role is started. -/
structure RolePlan where
  executable : String
  processes : Nat
  preflags : List String
  postflags : List String
  args : ArgSlice
  /-- Applied after the variables of the scenario. -/
  env : Variables
  deriving DecidableEq, Repr, Inhabited

/-- Everything that is decided before a process is started. -/
structure Scenario where
  mode : Mode
  launcher : Launcher
  roles : RoleTable (Option RolePlan)
  /-- The trailing arguments. -/
  tail : List String
  /-- Variables for every role. -/
  env : Variables
  timeouts : TimeoutTable Duration
  marker : String
  scanner : Scanner
  tolerateErrorText : Bool
  quiet : Bool
  /-- How many lines a failure shows. -/
  tailLines : Nat
  /-- How many lines are kept for each process. -/
  historyLines : Nat
  deriving DecidableEq, Repr

namespace Scenario

/-- The roles that take part, in start order. -/
def activeRoles (scenario : Scenario) : List Role :=
  Role.all.filter fun role => (scenario.roles.get role).isSome

def hasHelper (scenario : Scenario) : Bool :=
  scenario.roles.clientHelper.isSome

def envOf (scenario : Scenario) (role : Role) : Variables :=
  scenario.env ++ ((scenario.roles.get role).map RolePlan.env).getD []

/-- What stands between the launcher and the executable of a role. -/
def launcherArgs (launcher : Launcher) (plan : RolePlan) : List String :=
  (if launcher.countFlag = "" then [] else [launcher.countFlag, toString plan.processes])
    ++ plan.preflags

def commandLine (scenario : Scenario) (role : Role) : Except Error CommandLine := do
  let some plan := scenario.roles.get role | throw (.setting (.roleNotConfigured role))
  let some args := plan.args.select? scenario.tail
    | throw (.setting (.sliceOutside role plan.args scenario.tail.length))
  match scenario.mode with
  | .serial => return ⟨plan.executable, args⟩
  | .distributed =>
      let some launcher := scenario.launcher.path | throw (.setting .launcherMissing)
      return ⟨launcher, launcherArgs scenario.launcher plan ++
        plan.executable :: (plan.postflags ++ args)⟩

end Scenario

end Rendezvous
