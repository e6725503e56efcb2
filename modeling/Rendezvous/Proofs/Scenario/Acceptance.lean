import Rendezvous.Proofs.CommandLine.Closing
import Rendezvous.Proofs.Scenario.Decisions

/-!
Which scenarios are accepted.

A scenario is resolved exactly when its launcher, its roles, its variables, its
timeouts and its marker are what they must be.  The helper may be left out; then
nothing that is said about it matters.
-/

set_option autoImplicit false

namespace Rendezvous

universe u

theorem RoleTable.exists_table {α : Type u} {fits : Role → α → Prop}
    (each : ∀ role, ∃ entry, fits role entry) :
    ∃ table : RoleTable α, ∀ role, fits role (table.get role) := by
  obtain ⟨server, first⟩ := each .server
  obtain ⟨client, second⟩ := each .client
  obtain ⟨clientHelper, third⟩ := each .clientHelper
  refine ⟨⟨server, client, clientHelper⟩, fun role => ?_⟩
  cases role
  · exact first
  · exact second
  · exact third

theorem TimeoutTable.exists_table {α : Type u} {fits : Timeout → α → Prop}
    (each : ∀ timeout, ∃ entry, fits timeout entry) :
    ∃ table : TimeoutTable α, ∀ timeout, fits timeout (table.get timeout) := by
  obtain ⟨handshake, first⟩ := each .handshake
  obtain ⟨serverExit, second⟩ := each .serverExit
  obtain ⟨run, third⟩ := each .run
  obtain ⟨stopGrace, fourth⟩ := each .stopGrace
  refine ⟨⟨handshake, serverExit, run, stopGrace⟩, fun timeout => ?_⟩
  cases timeout
  · exact first
  · exact second
  · exact third
  · exact fourth

theorem ArgSlice.stop_all_le (length : Nat) : (all length).stop ≤ length := by
  have start : (0 : UInt64).toNat = 0 := rfl
  rw [stop, all, start, Nat.zero_add, UInt64.toNat_ofNat']
  exact Nat.mod_le _ _

namespace Sources

variable (sources : Sources) (locate : String → Option String)

/-- What must hold of a role that has a path. -/
structure RoleAcceptable (role : Role) (path : String) : Prop where
  located : ∃ executable, locate path = some executable
  single : sources.Serial → sources.processes role = 1
  several : ¬ sources.Serial → 1 ≤ sources.processes role
  inside : ∀ slice, (sources.options.roles.get role).args = some slice →
    slice.start.toNat + slice.count.toNat ≤ sources.options.tail.length
  preflags : Words.Closed (sources.preflags role).toList
  postflags : Words.Closed (sources.postflags role).toList
  keys : ∀ entry ∈ (sources.settings.roles.get role).env ++ (sources.options.roles.get role).env,
    Variables.IsKey entry.1

/-- What must hold of the sources of a scenario. -/
structure Acceptable : Prop where
  launcher : ¬ sources.Serial → ∃ given launcher,
    sources.launcher = some given ∧ locate given = some launcher
  server : ∃ path, sources.path .server = some path
  client : ∃ path, sources.path .client = some path
  roles : ∀ role path, sources.path role = some path → sources.RoleAcceptable locate role path
  keys : ∀ entry ∈ sources.settings.env ++ sources.options.env, Variables.IsKey entry.1
  backend : ∀ name, sources.backend = some name →
    Variables.IsKey sources.settings.backend.variableName
  timeouts : ∀ timeout, ∃ duration, Duration.ofSeconds? (sources.seconds timeout) = some duration
  visible : ∃ char ∈ sources.marker.toList, Text.isBlank char = false

/-- The same sources with other words about the helper. -/
def withHelper (given : RoleOptions) (configured : RoleSettings) : Sources where
  options := { sources.options with roles := sources.options.roles.set .clientHelper given }
  settings :=
    { sources.settings with roles := sources.settings.roles.set .clientHelper configured }
  builtIn := sources.builtIn

variable {sources locate}

theorem allows_iff {count : Nat} : sources.mode.Allows count ↔
    (sources.Serial → count = 1) ∧ (¬ sources.Serial → 1 ≤ count) := by
  rw [← mode_eq_serial_iff]
  cases sources.mode <;> simp [Mode.Allows]

theorem slice_stop_le_iff {role : Role} :
    (sources.slice role).stop ≤ sources.options.tail.length ↔
      ∀ slice, (sources.options.roles.get role).args = some slice →
        slice.start.toNat + slice.count.toNat ≤ sources.options.tail.length := by
  rw [slice]
  cases (sources.options.roles.get role).args with
  | none => simpa using ArgSlice.stop_all_le sources.options.tail.length
  | some slice => simp [ArgSlice.stop]

theorem exists_plans_iff {role : Role} {path : String} :
    (∃ plan, sources.Plans locate role path plan) ↔ sources.RoleAcceptable locate role path := by
  constructor
  · rintro ⟨plan, plans⟩
    exact {
      located := ⟨plan.executable, plans.executable⟩
      single := (allows_iff.mp plans.allowed).1
      several := (allows_iff.mp plans.allowed).2
      inside := slice_stop_le_iff.mp plans.inside
      preflags := (Words.split_eq_ok_iff _).mp ⟨_, plans.preflags⟩
      postflags := (Words.split_eq_ok_iff _).mp ⟨_, plans.postflags⟩
      keys := plans.keys }
  · intro acceptable
    obtain ⟨executable, located⟩ := acceptable.located
    obtain ⟨preflags, first⟩ := (Words.split_eq_ok_iff _).mpr acceptable.preflags
    obtain ⟨postflags, second⟩ := (Words.split_eq_ok_iff _).mpr acceptable.postflags
    exact ⟨sources.plan role executable preflags postflags, {
      executable := located
      allowed := allows_iff.mpr ⟨acceptable.single, acceptable.several⟩
      inside := slice_stop_le_iff.mpr acceptable.inside
      keys := acceptable.keys
      preflags := first
      postflags := second
      values := rfl }⟩

theorem env_keys_iff : (∀ entry ∈ sources.env, Variables.IsKey entry.1) ↔
    (∀ entry ∈ sources.settings.env ++ sources.options.env, Variables.IsKey entry.1) ∧
      ∀ name, sources.backend = some name →
        Variables.IsKey sources.settings.backend.variableName := by
  rw [env, List.forall_mem_append]
  cases sources.backend <;> simp

theorem exists_launcherPath_iff :
    (∃ found, Scenario.launcherPath locate sources.mode sources.launcher = .ok found) ↔
      (¬ sources.Serial → ∃ given launcher,
        sources.launcher = some given ∧ locate given = some launcher) := by
  simp only [Scenario.launcherPath_eq_ok_iff, ← mode_eq_distributed_iff]
  constructor
  · rintro ⟨found, -, located⟩ distributed
    obtain ⟨given, launcher, same, place, -⟩ := located distributed
    exact ⟨given, launcher, same, place⟩
  · intro located
    cases mode : sources.mode with
    | serial =>
        refine ⟨sources.launcher, fun _ => rfl, ?_⟩
        intro other
        cases other
    | distributed =>
        obtain ⟨given, launcher, same, place⟩ := located mode
        refine ⟨some launcher, ?_, fun _ => ⟨given, launcher, same, place, rfl⟩⟩
        intro other
        cases other

theorem Describes.acceptable {scenario : Scenario} (describes : sources.Describes locate scenario) :
    sources.Acceptable locate := by
  have given : ∀ role, role ≠ .clientHelper → ∃ path, sources.path role = some path := by
    intro role other
    cases place : sources.path role with
    | none => exact absurd (describes.absent role place).1 other
    | some path => exact ⟨path, rfl⟩
  exact {
    launcher := exists_launcherPath_iff.mp ⟨_, describes.launcher⟩
    server := given .server (by decide)
    client := given .client (by decide)
    roles := fun role path place => by
      obtain ⟨plan, -, plans⟩ := describes.planned role path place
      exact exists_plans_iff.mp ⟨plan, plans⟩
    keys := (env_keys_iff.mp describes.keys).1
    backend := (env_keys_iff.mp describes.keys).2
    timeouts := fun timeout => ⟨_, describes.timeouts timeout⟩
    visible := describes.visible }

theorem Acceptable.describes (acceptable : sources.Acceptable locate) :
    ∃ scenario, sources.Describes locate scenario := by
  obtain ⟨path, launcher⟩ := exists_launcherPath_iff.mpr acceptable.launcher
  obtain ⟨timeouts, converted⟩ := TimeoutTable.exists_table acceptable.timeouts
  have entries : ∀ role, ∃ entry : Option RolePlan,
      (∀ path, sources.path role = some path →
        ∃ plan, entry = some plan ∧ sources.Plans locate role path plan) ∧
      (sources.path role = none → role = .clientHelper ∧ entry = none) := by
    intro role
    cases place : sources.path role with
    | none =>
        refine ⟨none, by simp, fun _ => ⟨?_, rfl⟩⟩
        obtain ⟨server, first⟩ := acceptable.server
        obtain ⟨client, second⟩ := acceptable.client
        cases role with
        | server => simp [place] at first
        | client => simp [place] at second
        | clientHelper => rfl
    | some path =>
        obtain ⟨plan, plans⟩ := exists_plans_iff.mpr (acceptable.roles role path place)
        exact ⟨some plan, fun _ same => ⟨plan, rfl, Option.some.inj same ▸ plans⟩, by simp⟩
  obtain ⟨roles, resolved⟩ := RoleTable.exists_table entries
  exact ⟨sources.scenario path roles timeouts, {
    launcher := launcher
    planned := fun role => (resolved role).1
    absent := fun role => (resolved role).2
    keys := env_keys_iff.mpr ⟨acceptable.keys, acceptable.backend⟩
    timeouts := converted
    visible := acceptable.visible
    values := rfl }⟩

theorem resolveRole_withHelper {given : RoleOptions} {configured : RoleSettings}
    (left : sources.path .clientHelper = none) (noPath : given.path = none)
    (noOther : configured.path = none) (role : Role) :
    Scenario.resolveRole locate (sources.withHelper given configured).options
        (sources.withHelper given configured).below role =
      Scenario.resolveRole locate sources.options sources.below role := by
  cases role with
  | server | client => rfl
  | clientHelper =>
      have still : (sources.withHelper given configured).path .clientHelper = none := by
        simp [path, withHelper, noPath, noOther]
      simp only [Scenario.resolveRole, Scenario.pathOf, path_eq, left, still]
      rfl

/--
A scenario is resolved exactly when its sources are acceptable.  A helper without
a path does not take part, whatever else is said about it.
-/
theorem resolved_iff_acceptable (sources : Sources) (locate : String → Option String) :
    ((∃ scenario, sources.resolve locate = .ok scenario) ↔ sources.Acceptable locate) ∧
    (sources.path .clientHelper = none →
      (∀ scenario, sources.resolve locate = .ok scenario →
        scenario.roles.get .clientHelper = none) ∧
      ∀ given configured, given.path = none → configured.path = none →
        (sources.withHelper given configured).resolve locate = sources.resolve locate) := by
  refine ⟨⟨?_, ?_⟩, fun left => ⟨?_, ?_⟩⟩
  · rintro ⟨scenario, resolved⟩
    exact (resolve_eq_ok_iff.mp resolved).acceptable
  · intro acceptable
    obtain ⟨scenario, describes⟩ := acceptable.describes
    exact ⟨scenario, resolve_eq_ok_iff.mpr describes⟩
  · intro scenario resolved
    exact ((resolve_eq_ok_iff.mp resolved).absent .clientHelper left).2
  · intro given configured noPath noOther
    rw [resolve_eq, resolve_eq, funext (resolveRole_withHelper left noPath noOther)]
    rfl

/-- A server and a client in serial mode. -/
def serialPair : Sources where
  options := { serial := true }
  settings := { roles := ⟨{ path := some "server" }, { path := some "client" }, {}⟩ }
  builtIn := {}

theorem serialPair_helper_ignored :
    serialPair.path .clientHelper = none ∧
      (serialPair.withHelper { processes := some 0, preflags := some "'" }
        { env := [("=", "")] }).resolve some = serialPair.resolve some :=
  ⟨rfl, ((resolved_iff_acceptable serialPair some).2 rfl).2 _ _ rfl rfl⟩

end Sources

end Rendezvous
