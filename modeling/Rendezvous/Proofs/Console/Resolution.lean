import Rendezvous.Console
import Rendezvous.Proofs.Scenario.CommandLines
import Rendezvous.Proofs.Scenario.Refusals

/-!
What resolving a scenario decides about the commands.

A scenario that was resolved can be planned and run, and nothing about the
settings goes wrong any more.  One that was not resolved ends the command before
anything has happened in the world.
-/

set_option autoImplicit false

namespace Rendezvous

namespace Console

variable {σ : Type}

/-- The same place with a journal of everything that happens in the world. -/
def Place.recorded (place : Place σ) : Place (σ × Journal) where
  world := place.world.recorded
  outside := (place.outside, [])
  surroundings := place.surroundings
  passes := place.passes
  colored := place.colored

theorem plans_code {scenario : Scenario} (colored : Bool) {roles : List Role}
    (built : ∀ role ∈ roles, ∃ line, scenario.commandLine role = .ok line) :
    (plans colored scenario roles).2 = .ok 0 := by
  induction roles with
  | nil => rfl
  | cons role roles inductionHypothesis =>
      obtain ⟨line, first⟩ := built role List.mem_cons_self
      rw [plans, first]
      exact inductionHypothesis fun other later => built other (List.mem_cons_of_mem role later)

theorem loadScenario_eq_ok_iff {surroundings : Surroundings} {options : RunOptions}
    {builtIn : LauncherSettings} {scenario : Scenario} :
    loadScenario surroundings options builtIn = .ok scenario ↔
      ∃ settings, loadSettings surroundings options.settings = .ok settings ∧
        Scenario.resolve surroundings.locate options settings builtIn = .ok scenario :=
  Except.bind_eq_ok_iff

theorem plan_code_of_resolved {place : Place σ} {options : RunOptions}
    {builtIn : LauncherSettings} {scenario : Scenario}
    (resolved : loadScenario place.surroundings options builtIn = .ok scenario) :
    (plan place options builtIn).code = .ok 0 := by
  obtain ⟨settings, -, same⟩ := loadScenario_eq_ok_iff.mp resolved
  let sources : Sources := ⟨options, settings, builtIn⟩
  have describes : sources.Describes place.surroundings.locate scenario :=
    Sources.resolve_eq_ok_iff.mp same
  simp only [plan, resolved]
  exact plans_code place.colored describes.startable

theorem plan_code_of_refused {place : Place σ} {options : RunOptions}
    {builtIn : LauncherSettings} {cause : Error}
    (refused : loadScenario place.surroundings options builtIn = .error cause) :
    (plan place options builtIn).code = .error cause := by
  simp only [plan, refused]

theorem plan_code_eq_ok_iff {place : Place σ} {options : RunOptions} {builtIn : LauncherSettings}
    {status : Nat} : (plan place options builtIn).code = .ok status ↔
      status = 0 ∧ ∃ scenario, loadScenario place.surroundings options builtIn = .ok scenario := by
  cases loaded : loadScenario place.surroundings options builtIn with
  | error cause => simp [plan_code_of_refused loaded]
  | ok scenario => simp [plan_code_of_resolved loaded, eq_comm]

theorem runIn_of_refused (place : Place σ) {options : RunOptions} {builtIn : LauncherSettings}
    {cause : Error} (refused : loadScenario place.surroundings options builtIn = .error cause) :
    runIn place options builtIn =
      ({ code := .error cause, files := place.surroundings.files }, place.outside) := by
  simp only [runIn, refused]

/--
A resolved scenario has a command line for every role that takes part, as the
sources say, and no failure of a run is about the settings.  So a plan can be
shown exactly when the settings can be loaded and the scenario can be resolved.
If it cannot be resolved, the error is one of the configuration, and a run leaves
the world as it found it.
-/
theorem resolving_decides (place : Place σ) (options : RunOptions) (builtIn : LauncherSettings)
    (fits : options.tail.length < UInt64.size) :
    (∀ locate settings scenario, let sources : Sources := ⟨options, settings, builtIn⟩
      sources.resolve locate = .ok scenario →
      (∀ role ∈ scenario.activeRoles, ∃ line,
        scenario.commandLine role = .ok line ∧ sources.Argv locate role line.argv) ∧
      ∀ more transcript outside, ∀ failure ∈ ((Run.start place.world transcript outside).complete
        place.world scenario more).1.failures, failure.kind ≠ .config) ∧
    (∀ status, (plan place options builtIn).code = .ok status ↔ status = 0 ∧
      ∃ settings scenario, loadSettings place.surroundings options.settings = .ok settings ∧
        Scenario.resolve place.surroundings.locate options settings builtIn = .ok scenario) ∧
    (∀ locate settings cause,
      Scenario.resolve locate options settings builtIn = .error cause →
      cause.isConfiguration = true) ∧
    ∀ settings cause, loadSettings place.surroundings options.settings = .ok settings →
      Scenario.resolve place.surroundings.locate options settings builtIn = .error cause →
      runIn place.recorded options builtIn =
        ({ code := .error cause, files := place.surroundings.files }, place.outside, []) := by
  refine ⟨?_, ?_, ?_, ?_⟩
  · intro locate settings scenario sources resolved
    have describes : sources.Describes locate scenario := Sources.resolve_eq_ok_iff.mp resolved
    refine ⟨fun role active => describes.exists_commandLine fits active, ?_⟩
    exact Run.complete_kind place.world describes.startable
  · intro status
    rw [plan_code_eq_ok_iff, exists_comm]
    simp only [loadScenario_eq_ok_iff]
  · intro locate settings cause refused
    let sources : Sources := ⟨options, settings, builtIn⟩
    have failed : sources.resolve locate = .error cause := refused
    exact Sources.resolve_cause failed
  · intro settings cause read refused
    have loaded : loadScenario place.surroundings options builtIn = .error cause := by
      rw [loadScenario, read]
      exact refused
    exact runIn_of_refused place.recorded loaded

/-- A client of two processes behind a launcher, with a part of the arguments for itself. -/
def launched : Sources where
  options := {
    roles := ⟨{ path := some "server" },
      { path := some "client", processes := some 2, args := some ⟨1, 1⟩ }, {}⟩
    launcher := some "mpirun"
    preflags := some "--bind-to 'none'"
    tail := ["--port", "--quick"] }
  settings := {}
  builtIn := {}

/-- A place without any file. -/
def nowhere : Place Stubborn :=
  ⟨Stubborn.world (.ofMillis 10), {}, ⟨⟨[], []⟩, []⟩, 0, false⟩

theorem launched_and_nowhere :
    launched.options.tail.length < UInt64.size ∧
      (∃ scenario line, launched.resolve some = .ok scenario ∧
        scenario.commandLine .client = .ok line ∧ launched.Argv some .client line.argv) ∧
      runIn nowhere.recorded {} =
        ({ code := .error (.setting .launcherNotGiven), files := ⟨[], []⟩ }, {}, []) := by
  have fits : launched.options.tail.length < UInt64.size := by decide
  have decided := resolving_decides nowhere launched.options launched.builtIn fits
  have refused := (resolving_decides nowhere {} {} (by decide)).2.2.2 {}
  have accepted : (launched.resolve some).toOption.isSome = true := by decide +kernel
  cases resolved : launched.resolve some with
  | error cause =>
      rw [resolved] at accepted
      cases accepted
  | ok scenario =>
      have describes : launched.Describes some scenario := Sources.resolve_eq_ok_iff.mp resolved
      have active : .client ∈ scenario.activeRoles := describes.active_of_path rfl
      obtain ⟨line, built, argv⟩ := (decided.1 some {} scenario resolved).1 .client active
      exact ⟨fits, ⟨scenario, line, rfl, built, argv⟩, refused _ rfl rfl⟩

end Console

end Rendezvous
