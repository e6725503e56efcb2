import Rendezvous.Proofs.Scenario.Sources

/-!
The command line over the settings.

Settings that differ only in what the command line overrides lead to the same
scenario, or to the same error: an overridden value is not looked at, whatever is
wrong with it.
-/

set_option autoImplicit false

namespace Rendezvous

universe u

namespace RunOptions

variable (options : RunOptions)

/-- A role has a path, from the options or from the settings. -/
def TakesPart (settings : Settings) (role : Role) : Prop :=
  ∃ path, (options.roles.get role).path.or (settings.roles.get role).path = some path

/-- Two sections of a role say the same, apart from what the options override. -/
structure RoleAgree (role : Role) (first second : RoleSettings) : Prop where
  path : (options.roles.get role).path = none → first.path = second.path
  processes : (options.roles.get role).processes = none → first.processes = second.processes
  preflags : (options.roles.get role).preflags = none → options.preflags = none →
    first.preflags = second.preflags
  postflags : (options.roles.get role).postflags = none → options.postflags = none →
    first.postflags = second.postflags
  env : first.env = second.env

/--
Two settings say the same, apart from what the options override.  The flags of the
launcher are also overridden if every role that takes part has its own.
-/
structure Agree (first second : Settings) : Prop where
  serial : options.serial = false → options.distributed = false → first.serial = second.serial
  launcher : options.launcher = none → first.launcher.path = second.launcher.path
  countFlag : options.countFlag = none → first.launcher.countFlag = second.launcher.countFlag
  preflags : options.preflags = none →
    (∃ role, options.TakesPart first role ∧ (options.roles.get role).preflags = none ∧
      (first.roles.get role).preflags = none) →
    first.launcher.preflags = second.launcher.preflags
  postflags : options.postflags = none →
    (∃ role, options.TakesPart first role ∧ (options.roles.get role).postflags = none ∧
      (first.roles.get role).postflags = none) →
    first.launcher.postflags = second.launcher.postflags
  roles : ∀ role, options.RoleAgree role (first.roles.get role) (second.roles.get role)
  timeouts : ∀ timeout, options.timeouts.get timeout = none →
    first.timeouts.get timeout = second.timeouts.get timeout
  marker : options.marker = none → first.marker = second.marker
  patterns : first.scan.patterns = second.scan.patterns
  replaceDefaults : first.scan.replaceDefaults = second.scan.replaceDefaults
  tolerateErrorText : options.tolerateErrorText = false →
    first.scan.tolerateErrorText = second.scan.tolerateErrorText
  output : first.output = second.output
  env : first.env = second.env
  backend : options.backend = none → first.backend.name = second.backend.name
  variableName : first.backend.variableName = second.backend.variableName

end RunOptions

namespace Sources

theorem firstGiven_cons_congr {α : Type u} {place : Option α} {mine yours : List (Option α)}
    (same : place = none → firstGiven mine = firstGiven yours) :
    firstGiven (place :: mine) = firstGiven (place :: yours) := by
  cases place with
  | some value => rfl
  | none => exact same rfl

theorem getD_congr {α : Type u} {given : Option α} {mine yours : α}
    (same : given = none → mine = yours) : given.getD mine = given.getD yours := by
  cases given with
  | some value => rfl
  | none => exact same rfl

/-- The same sources with other settings. -/
def withSettings (sources : Sources) (settings : Settings) : Sources :=
  { sources with settings }

section

variable {sources : Sources} {other : Settings}
  (agree : sources.options.Agree sources.settings other)

include agree

theorem mode_congr : (sources.withSettings other).mode = sources.mode := by
  cases distributed : sources.options.distributed with
  | true => simp [mode, Scenario.modeOf, withSettings, distributed]
  | false =>
      cases serial : sources.options.serial with
      | true => simp [mode, Scenario.modeOf, withSettings, distributed, serial]
      | false =>
          have same := agree.serial serial distributed
          simp [mode, Scenario.modeOf, withSettings, below, Settings.above, same]

theorem launcher_congr : (sources.withSettings other).launcher = sources.launcher := by
  apply firstGiven_cons_congr
  intro left
  rw [withSettings, agree.launcher left]

theorem countFlag_congr : (sources.withSettings other).countFlag = sources.countFlag := by
  apply congrArg (Option.getD · "-n")
  apply firstGiven_cons_congr
  intro left
  rw [withSettings, agree.countFlag left]

theorem path_congr (role : Role) : (sources.withSettings other).path role = sources.path role := by
  apply firstGiven_cons_congr
  intro left
  rw [withSettings, (agree.roles role).path left]

theorem processes_congr (role : Role) :
    (sources.withSettings other).processes role = sources.processes role := by
  apply congrArg (Option.getD · 1)
  apply firstGiven_cons_congr
  intro left
  rw [withSettings, (agree.roles role).processes left]

theorem preflags_congr {role : Role}
    (takesPart : sources.options.TakesPart sources.settings role) :
    (sources.withSettings other).preflags role = sources.preflags role := by
  apply congrArg (Option.getD · "")
  apply firstGiven_cons_congr
  intro own
  apply firstGiven_cons_congr
  intro wide
  rw [withSettings, (agree.roles role).preflags own wide]
  apply firstGiven_cons_congr
  intro configured
  rw [← (agree.roles role).preflags own wide] at configured
  rw [agree.preflags wide ⟨role, takesPart, own, configured⟩]

theorem postflags_congr {role : Role}
    (takesPart : sources.options.TakesPart sources.settings role) :
    (sources.withSettings other).postflags role = sources.postflags role := by
  apply congrArg (Option.getD · "")
  apply firstGiven_cons_congr
  intro own
  apply firstGiven_cons_congr
  intro wide
  rw [withSettings, (agree.roles role).postflags own wide]
  apply firstGiven_cons_congr
  intro configured
  rw [← (agree.roles role).postflags own wide] at configured
  rw [agree.postflags wide ⟨role, takesPart, own, configured⟩]

theorem roleEnv_congr (role : Role) :
    (sources.withSettings other).roleEnv role = sources.roleEnv role := by
  rw [roleEnv, roleEnv, withSettings, (agree.roles role).env]

theorem backend_congr : (sources.withSettings other).backend = sources.backend := by
  apply firstGiven_cons_congr
  intro left
  rw [withSettings, agree.backend left]

theorem env_congr : (sources.withSettings other).env = sources.env := by
  rw [env, env, backend_congr agree, withSettings, agree.env, agree.variableName]

theorem seconds_congr (timeout : Timeout) :
    (sources.withSettings other).seconds timeout = sources.seconds timeout := by
  apply getD_congr
  intro left
  rw [withSettings, agree.timeouts timeout left]

theorem marker_congr : (sources.withSettings other).marker = sources.marker := by
  apply getD_congr
  intro left
  rw [withSettings, agree.marker left]

theorem scanner_congr : Scanner.configured other.scan sources.options.patterns =
    Scanner.configured sources.settings.scan sources.options.patterns := by
  rw [Scanner.configured, Scanner.configured, Scanner.patterns, Scanner.patterns, agree.patterns,
    agree.replaceDefaults]

theorem tolerateErrorText_congr :
    (sources.options.tolerateErrorText || other.scan.tolerateErrorText) =
      (sources.options.tolerateErrorText || sources.settings.scan.tolerateErrorText) := by
  cases given : sources.options.tolerateErrorText with
  | true => rfl
  | false => rw [agree.tolerateErrorText given]

theorem plan_congr (role : Role) : (sources.withSettings other).plan role = sources.plan role := by
  funext executable preflags postflags
  rw [plan, plan, processes_congr agree, roleEnv_congr agree]
  rfl

theorem scenario_congr : (sources.withSettings other).scenario = sources.scenario := by
  funext path roles timeouts
  have output : (sources.withSettings other).settings.output = sources.settings.output :=
    agree.output.symm
  have scanner := scanner_congr agree
  have tolerance := tolerateErrorText_congr agree
  rw [scenario, scenario, mode_congr agree, countFlag_congr agree, env_congr agree,
    marker_congr agree, output]
  simp only [withSettings, scanner, tolerance]

theorem planOf_congr (locate : String → Option String) {role : Role}
    (takesPart : sources.options.TakesPart sources.settings role) (path : String) :
    Scenario.planOf locate (sources.withSettings other).options (sources.withSettings other).below
        role path =
      Scenario.planOf locate sources.options sources.below role path := by
  have slice : (sources.withSettings other).slice role = sources.slice role := rfl
  rw [planOf_eq, planOf_eq, mode_congr agree, processes_congr agree, roleEnv_congr agree,
    preflags_congr agree takesPart, postflags_congr agree takesPart, plan_congr agree, slice]
  rfl

theorem resolveRole_congr (locate : String → Option String) (role : Role) :
    Scenario.resolveRole locate (sources.withSettings other).options
        (sources.withSettings other).below role =
      Scenario.resolveRole locate sources.options sources.below role := by
  simp only [Scenario.resolveRole, Scenario.pathOf, path_eq, path_congr agree]
  cases takesPart : sources.path role with
  | none => cases role <;> rfl
  | some path =>
      have plans := planOf_congr agree locate ⟨path, (sources.path_eq role).trans takesPart⟩ path
      cases role <;> exact congrArg (some <$> ·) plans

theorem resolve_congr (locate : String → Option String) :
    (sources.withSettings other).resolve locate = sources.resolve locate := by
  rw [resolve_eq, resolve_eq, mode_congr agree, launcher_congr agree, env_congr agree,
    marker_congr agree, scenario_congr agree, funext (resolveRole_congr agree locate)]
  simp only [seconds_congr agree]

end

end Sources

/--
The command line beats the settings: two settings that say the same about all that
the options leave open lead to the same scenario or to the same error.
-/
theorem Scenario.resolve_eq_of_agree (locate : String → Option String) (options : RunOptions)
    (first second : Settings) (builtIn : LauncherSettings)
    (agree : options.Agree first second) :
    resolve locate options first builtIn = resolve locate options second builtIn := by
  let sources : Sources := ⟨options, first, builtIn⟩
  have same : (sources.withSettings second).resolve locate = sources.resolve locate :=
    Sources.resolve_congr agree locate
  exact same.symm

namespace Overruled

/-- A server and a client as the command line wants them. -/
def options : RunOptions where
  roles := ⟨{ path := some "server", processes := some 1, preflags := some "-v" },
    { path := some "client", preflags := some "-q" }, {}⟩
  serial := true
  marker := some "READY"
  timeouts := ⟨some (.ofNat 5), none, none, none⟩

/-- Settings with a mistake in everything that the command line says otherwise. -/
def settings : Settings where
  launcher := { preflags := some "\"" }
  roles := ⟨{ processes := some 0, preflags := some "'" }, { path := some "" }, {}⟩
  timeouts := { defaultTimeouts with handshake := .nan }
  marker := " "

end Overruled

theorem Scenario.overruled_settings_not_seen :
    Overruled.options.Agree {} Overruled.settings ∧
      resolve some Overruled.options {} = resolve some Overruled.options Overruled.settings := by
  have agree : Overruled.options.Agree {} Overruled.settings := {
    serial := nofun
    launcher := fun _ => rfl
    countFlag := fun _ => rfl
    preflags := by
      rintro - ⟨role, ⟨path, given⟩, own, -⟩
      cases role with
      | server | client => cases own
      | clientHelper => nomatch given
    postflags := fun _ _ => rfl
    roles := fun role => by
      cases role <;> constructor <;>
        simp [Overruled.options, Overruled.settings, RoleTable.get, RoleTable.replicate]
    timeouts := fun timeout => by
      cases timeout <;> simp [Overruled.options, Overruled.settings, TimeoutTable.get]
    marker := nofun
    patterns := rfl
    replaceDefaults := rfl
    tolerateErrorText := fun _ => rfl
    output := rfl
    env := rfl
    backend := fun _ => rfl
    variableName := rfl }
  exact ⟨agree, resolve_eq_of_agree some Overruled.options {} Overruled.settings {} agree⟩

end Rendezvous
