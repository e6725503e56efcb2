import Rendezvous.Proofs.Run.Causes
import Rendezvous.Proofs.Scenario.Decisions

/-!
The command lines of a resolved scenario.

What is checked when a scenario is resolved is all that a command line needs, so
every role that takes part has one, and the sources say what it looks like.
-/

set_option autoImplicit false

namespace Rendezvous

namespace Sources

variable (sources : Sources) (locate : String → Option String)

/-- The arguments of a role: the slice that was given for it, or all of them. -/
def args (role : Role) : List String :=
  match (sources.options.roles.get role).args with
  | none => sources.options.tail
  | some slice => (sources.options.tail.drop slice.start.toNat).take slice.count.toNat

/-- What tells the launcher how many processes to start; without a flag it is not told. -/
def count (role : Role) : List String :=
  if sources.countFlag = "" then [] else [sources.countFlag, toString (sources.processes role)]

/-- The command line of a role that takes part, as the sources have it. -/
inductive Argv (role : Role) : List String → Prop where
  | serial {path executable : String} (serial : sources.Serial)
      (given : sources.path role = some path) (located : locate path = some executable) :
      Argv role (executable :: sources.args role)
  | distributed {wanted launcher path executable : String} {preflags postflags : List String}
      (distributed : ¬ sources.Serial)
      (launching : sources.launcher = some wanted) (found : locate wanted = some launcher)
      (given : sources.path role = some path) (located : locate path = some executable)
      (before : Words.split (sources.preflags role) = .ok preflags)
      (after : Words.split (sources.postflags role) = .ok postflags) :
      Argv role (launcher :: (sources.count role ++ preflags ++
        executable :: (postflags ++ sources.args role)))

variable {sources locate}

theorem select?_slice (fits : sources.options.tail.length < UInt64.size) {role : Role}
    (inside : (sources.slice role).stop ≤ sources.options.tail.length) :
    (sources.slice role).select? sources.options.tail = some (sources.args role) := by
  rw [ArgSlice.select?, if_pos inside, slice, args]
  cases (sources.options.roles.get role).args with
  | some slice => rfl
  | none =>
      -- the slice of all arguments counts them, and so many can be counted
      have counted : (UInt64.ofNat sources.options.tail.length).toNat =
          sources.options.tail.length := UInt64.toNat_ofNat_of_lt' fits
      simp [ArgSlice.all, counted]

namespace Describes

variable {scenario : Scenario} (describes : sources.Describes locate scenario)

include describes

theorem mode_eq : scenario.mode = sources.mode :=
  congrArg Scenario.mode describes.values

theorem tail_eq : scenario.tail = sources.options.tail :=
  congrArg Scenario.tail describes.values

theorem countFlag_eq : scenario.launcher.countFlag = sources.countFlag :=
  congrArg (fun scenario => scenario.launcher.countFlag) describes.values

theorem exists_plans {role : Role} (active : role ∈ scenario.activeRoles) :
    ∃ path plan, sources.path role = some path ∧ scenario.roles.get role = some plan ∧
      sources.Plans locate role path plan := by
  have planned := (List.mem_filter.mp active).2
  cases given : sources.path role with
  | none => rw [(describes.absent role given).2] at planned; cases planned
  | some path =>
      obtain ⟨plan, found, plans⟩ := describes.planned role path given
      exact ⟨path, plan, rfl, found, plans⟩

/-- A role with an executable takes part. -/
theorem active_of_path {role : Role} {path : String} (given : sources.path role = some path) :
    role ∈ scenario.activeRoles := by
  obtain ⟨plan, found, -⟩ := describes.planned role path given
  exact List.mem_filter.mpr ⟨Role.mem_all role, by rw [found]; rfl⟩

/-- The server takes part in every scenario. -/
theorem server_active : .server ∈ scenario.activeRoles := by
  cases given : sources.path .server with
  | none => cases (describes.absent .server given).1
  | some path => exact describes.active_of_path given

/-- Every role that takes part has a command line, as the sources say if its slice is counted. -/
theorem exists_line {role : Role} (active : role ∈ scenario.activeRoles) :
    ∃ line, scenario.commandLine role = .ok line ∧
      ((sources.slice role).select? sources.options.tail = some (sources.args role) →
        sources.Argv locate role line.argv) := by
  obtain ⟨path, plan, given, found, plans⟩ := describes.exists_plans active
  have args : plan.args = sources.slice role := congrArg RolePlan.args plans.values
  have processes : plan.processes = sources.processes role :=
    congrArg RolePlan.processes plans.values
  have located := (Scenario.launcherPath_eq_ok_iff.mp describes.launcher).2
  obtain ⟨chosen, selected⟩ :
      ∃ chosen, (sources.slice role).select? sources.options.tail = some chosen :=
    ⟨_, if_pos plans.inside⟩
  rw [selected]
  rw [← args, ← describes.tail_eq] at selected
  simp only [Scenario.commandLine, found, selected, describes.mode_eq]
  cases mode : sources.mode with
  | serial =>
      refine ⟨_, rfl, fun same => ?_⟩
      rw [Option.some.inj same]
      exact .serial (sources.mode_eq_serial_iff.mp mode) given plans.executable
  | distributed =>
      obtain ⟨wanted, launcher, launching, place, same⟩ := located mode
      have argv := Argv.distributed (sources.mode_eq_distributed_iff.mp mode) launching place
        given plans.executable plans.preflags plans.postflags
      rw [count, ← describes.countFlag_eq, ← processes] at argv
      simp only [same]
      exact ⟨_, rfl, fun same => Option.some.inj same ▸ argv⟩

/-- Every role that takes part has the command line that the sources say. -/
theorem exists_commandLine (fits : sources.options.tail.length < UInt64.size) {role : Role}
    (active : role ∈ scenario.activeRoles) :
    ∃ line, scenario.commandLine role = .ok line ∧ sources.Argv locate role line.argv := by
  obtain ⟨path, plan, -, -, plans⟩ := describes.exists_plans active
  obtain ⟨line, built, argv⟩ := describes.exists_line active
  exact ⟨line, built, argv (select?_slice fits plans.inside)⟩

theorem startable : scenario.Startable := by
  intro role active
  obtain ⟨line, built, -⟩ := describes.exists_line active
  exact ⟨line, built⟩

end Describes

end Sources

end Rendezvous
