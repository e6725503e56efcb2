import Rendezvous.Proofs.CommandLine.Closing
import Rendezvous.Proofs.Console.Resolution

/-!
Serial mode has no use for a launcher.

What is said about the launcher is still read, split and stored in serial mode, but
none of it reaches an error, a command line or a plan.  So two inputs that differ in
nothing else are treated alike.
-/

set_option autoImplicit false

namespace Rendezvous

universe u v

namespace RoleTable

def map {α : Type u} {β : Type v} (change : α → β) (table : RoleTable α) : RoleTable β :=
  ⟨change table.server, change table.client, change table.clientHelper⟩

@[simp]
theorem get_map {α : Type u} {β : Type v} (change : α → β) (table : RoleTable α) (role : Role) :
    (table.map change).get role = change (table.get role) := by
  cases role <;> rfl

theorem map_build {ε : Type u} {α β : Type v} (change : α → β) (entryOf : Role → Except ε α) :
    map change <$> build entryOf = build fun role => change <$> entryOf role := by
  simp only [build, map_bind, bind_map_left, map_pure]
  rfl

end RoleTable

def RoleOptions.besidesFlags (options : RoleOptions) : RoleOptions :=
  { options with preflags := none, postflags := none }

def RoleSettings.besidesFlags (settings : RoleSettings) : RoleSettings :=
  { settings with preflags := none, postflags := none }

/-- Options without what they say about the launcher and where the settings are read from. -/
def RunOptions.besidesLauncher (options : RunOptions) : RunOptions :=
  { options with
    roles := options.roles.map RoleOptions.besidesFlags
    launcher := none
    countFlag := none
    preflags := none
    postflags := none
    settings := none }

def Settings.besidesLauncher (settings : Settings) : Settings :=
  { settings with launcher := {}, roles := settings.roles.map RoleSettings.besidesFlags }

def RolePlan.besidesFlags (plan : RolePlan) : RolePlan :=
  { plan with preflags := [], postflags := [] }

namespace Scenario

/-- A scenario without what it stores about the launcher. -/
def besidesLauncher (scenario : Scenario) : Scenario :=
  { scenario with
    launcher := ⟨none, ""⟩
    roles := scenario.roles.map (Option.map RolePlan.besidesFlags) }

theorem activeRoles_besidesLauncher (scenario : Scenario) :
    scenario.besidesLauncher.activeRoles = scenario.activeRoles := by
  simp [activeRoles, besidesLauncher]

theorem envOf_besidesLauncher (scenario : Scenario) (role : Role) :
    scenario.besidesLauncher.envOf role = scenario.envOf role := by
  simp only [envOf, besidesLauncher, RoleTable.get_map]
  cases scenario.roles.get role <;> rfl

theorem commandLine_besidesLauncher {scenario : Scenario} (serial : scenario.mode = .serial)
    (role : Role) : scenario.besidesLauncher.commandLine role = scenario.commandLine role := by
  simp only [commandLine, besidesLauncher, RoleTable.get_map, serial]
  cases scenario.roles.get role <;> rfl

theorem plans_besidesLauncher {scenario : Scenario} (serial : scenario.mode = .serial)
    (colored : Bool) (roles : List Role) :
    Console.plans colored scenario.besidesLauncher roles = Console.plans colored scenario roles := by
  induction roles with
  | nil => rfl
  | cons role roles inductionHypothesis =>
      rw [Console.plans, Console.plans, commandLine_besidesLauncher serial, inductionHypothesis]
      simp only [Console.planOf, envOf_besidesLauncher]

end Scenario

namespace Sources

variable (sources : Sources)

/-- The sources without what they say about the launcher. -/
def besidesLauncher : Sources :=
  ⟨sources.options.besidesLauncher, sources.settings.besidesLauncher, {}⟩

/-- The places where flags can be given, for every role or for one. -/
def flagPlaces : List (Option String) :=
  let { options, settings, builtIn } := sources
  [options.preflags, settings.launcher.preflags, builtIn.preflags,
    options.postflags, settings.launcher.postflags, builtIn.postflags] ++
  Role.all.flatMap fun role =>
    [(options.roles.get role).preflags, (settings.roles.get role).preflags,
      (options.roles.get role).postflags, (settings.roles.get role).postflags]

/-- No text of flags opens a quote without closing it, wherever it is given. -/
def FlagsClosed : Prop :=
  ∀ place ∈ sources.flagPlaces, ∀ flags ∈ place, Words.Closed flags.toList

instance : Decidable sources.FlagsClosed :=
  inferInstanceAs (Decidable (∀ place ∈ sources.flagPlaces, ∀ flags ∈ place,
    Words.Closed flags.toList))

variable {sources}

namespace FlagsClosed

variable (closed : sources.FlagsClosed)

include closed

theorem split_firstGiven {places : List (Option String)} (part : places ⊆ sources.flagPlaces) :
    ∃ words, Scenario.splitFlags ((firstGiven places).getD "") = .ok words := by
  simp only [Scenario.splitFlags_eq_ok_iff, Words.split_eq_ok_iff]
  cases given : firstGiven places with
  | none => exact .nil
  | some flags =>
      obtain ⟨place, membership, same⟩ := List.exists_of_findSome?_eq_some given
      exact closed place (part membership) flags same

theorem split_preflags (role : Role) :
    ∃ words, Scenario.splitFlags (sources.preflags role) = .ok words := by
  apply closed.split_firstGiven
  cases role <;> simp [flagPlaces, Role.all]

theorem split_postflags (role : Role) :
    ∃ words, Scenario.splitFlags (sources.postflags role) = .ok words := by
  apply closed.split_firstGiven
  cases role <;> simp [flagPlaces, Role.all]

end FlagsClosed

theorem path_besidesLauncher (role : Role) :
    sources.besidesLauncher.path role = sources.path role := by
  cases role <;> rfl

theorem processes_besidesLauncher (role : Role) :
    sources.besidesLauncher.processes role = sources.processes role := by
  cases role <;> rfl

theorem slice_besidesLauncher (role : Role) :
    sources.besidesLauncher.slice role = sources.slice role := by
  cases role <;> rfl

theorem roleEnv_besidesLauncher (role : Role) :
    sources.besidesLauncher.roleEnv role = sources.roleEnv role := by
  cases role <;> rfl

theorem flagsClosed_besidesLauncher : sources.besidesLauncher.FlagsClosed := by
  intro place membership
  have nothing : place = none := by
    simpa [flagPlaces, besidesLauncher, RunOptions.besidesLauncher, Settings.besidesLauncher,
      Role.all, RoleTable.get, RoleTable.map, RoleOptions.besidesFlags,
      RoleSettings.besidesFlags] using membership
  subst nothing
  nofun

variable {locate : String → Option String}

theorem planOf_besidesFlags (closed : sources.FlagsClosed) (role : Role) (path : String) :
    RolePlan.besidesFlags <$> Scenario.planOf locate sources.options sources.below role path = do
      let some executable := locate path | throw (.executableNotFound role path)
      Scenario.checkProcesses sources.mode role (sources.processes role)
      if ((sources.slice role).select? sources.options.tail).isNone then
        throw (.setting (.sliceOutside role (sources.slice role) sources.options.tail.length))
      Scenario.checkVariables (sources.roleEnv role)
      return sources.plan role executable [] [] := by
  obtain ⟨preflags, before⟩ := closed.split_preflags role
  obtain ⟨postflags, after⟩ := closed.split_postflags role
  rw [planOf_eq, before, after]
  cases locate path with
  | none => rfl
  | some executable =>
      cases Scenario.checkProcesses sources.mode role (sources.processes role) with
      | error cause => rfl
      | ok counted =>
          cases ((sources.slice role).select? sources.options.tail).isNone <;>
            cases Scenario.checkVariables (sources.roleEnv role) <;> rfl

theorem planOf_alike (closed : sources.FlagsClosed) (role : Role) (path : String) :
    RolePlan.besidesFlags <$> Scenario.planOf locate sources.options sources.below role path =
      RolePlan.besidesFlags <$> Scenario.planOf locate sources.besidesLauncher.options
        sources.besidesLauncher.below role path := by
  rw [planOf_besidesFlags closed, planOf_besidesFlags flagsClosed_besidesLauncher]
  simp only [plan, processes_besidesLauncher, slice_besidesLauncher, roleEnv_besidesLauncher]
  rfl

theorem resolveRole_alike (closed : sources.FlagsClosed) (role : Role) :
    Option.map RolePlan.besidesFlags <$>
        Scenario.resolveRole locate sources.options sources.below role =
      Option.map RolePlan.besidesFlags <$> Scenario.resolveRole locate
        sources.besidesLauncher.options sources.besidesLauncher.below role := by
  have path : Scenario.pathOf sources.besidesLauncher.options sources.besidesLauncher.below role =
      Scenario.pathOf sources.options sources.below role := by
    unfold Scenario.pathOf
    rw [path_eq, path_eq, path_besidesLauncher]
  unfold Scenario.resolveRole
  rw [path, map_bind, map_bind]
  apply congrArg (Scenario.pathOf sources.options sources.below role >>= ·)
  funext given
  cases given with
  | none => rfl
  | some path =>
      have alike := congrArg (some <$> ·) (@planOf_alike _ locate closed role path)
      simp only [Functor.map_map] at alike ⊢
      exact alike

/-- In serial mode the rest of a scenario is resolved as if there were no launcher. -/
theorem resolve_besidesLauncher (serial : sources.Serial) :
    Scenario.besidesLauncher <$> sources.resolve locate = do
      let roles ← RoleTable.build fun role => Option.map RolePlan.besidesFlags <$>
        Scenario.resolveRole locate sources.options sources.below role
      Scenario.checkVariables sources.env
      let timeouts ← TimeoutTable.build fun timeout =>
        Scenario.durationOf timeout (sources.seconds timeout)
      Scenario.checkMarker sources.marker
      return { sources.scenario none roles timeouts with launcher := ⟨none, ""⟩ } := by
  have launcher : Scenario.launcherPath locate sources.mode sources.launcher =
      .ok sources.launcher := by
    rw [sources.mode_eq_serial_iff.mpr serial]
    rfl
  rw [resolve_eq, launcher, ← RoleTable.map_build, bind_map_left, map_bind]
  simp only [map_bind, map_pure]
  rfl

theorem resolve_alike (serial : sources.Serial) (closed : sources.FlagsClosed) :
    Scenario.besidesLauncher <$> sources.resolve locate =
      Scenario.besidesLauncher <$> sources.besidesLauncher.resolve locate := by
  have alone : sources.besidesLauncher.Serial := serial
  rw [resolve_besidesLauncher serial, resolve_besidesLauncher alone]
  simp only [resolveRole_alike closed]
  rfl

theorem serial_of_alike {first second : Sources}
    (alike : first.besidesLauncher = second.besidesLauncher) (serial : first.Serial) :
    second.Serial := by
  have same : first.besidesLauncher.Serial = second.besidesLauncher.Serial :=
    congrArg Sources.Serial alike
  exact cast same serial

theorem resolve_eq_of_alike {first second : Sources}
    (alike : first.besidesLauncher = second.besidesLauncher) (serial : first.Serial)
    (closed : first.FlagsClosed) (closedToo : second.FlagsClosed) :
    Scenario.besidesLauncher <$> first.resolve locate =
      Scenario.besidesLauncher <$> second.resolve locate := by
  rw [resolve_alike serial closed, resolve_alike (serial_of_alike alike serial) closedToo, alike]

theorem mode_of_resolved (serial : sources.Serial) {scenario : Scenario}
    (resolved : sources.resolve locate = .ok scenario) : scenario.mode = .serial := by
  have describes : sources.Describes locate scenario := resolve_eq_ok_iff.mp resolved
  exact describes.mode_eq.trans (sources.mode_eq_serial_iff.mpr serial)

theorem isAboutLauncher_of_refused (serial : sources.Serial) {cause : Error}
    (refused : sources.resolve locate = .error cause) : cause.isAboutLauncher = false := by
  rcases resolve_refused refused with launcher | refusal
  · rw [sources.mode_eq_serial_iff.mpr serial] at launcher
    cases launcher
  · exact refusal.noLauncher

end Sources

namespace Console

variable {σ : Type}

/-- What a plan prints and how it ends, by the scenario or by why there is none. -/
def planned (colored : Bool) : Except Error Scenario → String × Except Error Nat
  | .error cause => ("", .error cause)
  | .ok scenario => plans colored scenario scenario.activeRoles

theorem plan_planned {place : Place σ} {sources : Sources}
    (loaded : loadSettings place.surroundings sources.options.settings = .ok sources.settings) :
    let outcome := plan place sources.options sources.builtIn
    (outcome.stdout, outcome.code) =
        planned place.colored (sources.resolve place.surroundings.locate) ∧
      outcome.stderr = "" := by
  have made : loadScenario place.surroundings sources.options sources.builtIn =
      sources.resolve place.surroundings.locate := by
    rw [loadScenario, loaded]
    rfl
  simp only [plan, made]
  cases sources.resolve place.surroundings.locate <;> exact ⟨rfl, rfl⟩

theorem planned_besidesLauncher {sources : Sources} (serial : sources.Serial) (colored : Bool)
    (locate : String → Option String) :
    planned colored (Scenario.besidesLauncher <$> sources.resolve locate) =
      planned colored (sources.resolve locate) := by
  cases resolved : sources.resolve locate with
  | error cause => rfl
  | ok scenario =>
      have mode := Sources.mode_of_resolved serial resolved
      calc plans colored scenario.besidesLauncher scenario.besidesLauncher.activeRoles
          = plans colored scenario.besidesLauncher scenario.activeRoles := by
            rw [Scenario.activeRoles_besidesLauncher]
        _ = plans colored scenario scenario.activeRoles :=
            Scenario.plans_besidesLauncher mode colored scenario.activeRoles

theorem planned_error {sources : Sources} (serial : sources.Serial) {colored : Bool}
    {locate : String → Option String} {cause : Error}
    (failed : (planned colored (sources.resolve locate)).2 = .error cause) :
    cause.isAboutLauncher = false := by
  cases resolved : sources.resolve locate with
  | error refusal =>
      rw [resolved] at failed
      cases failed
      exact Sources.isAboutLauncher_of_refused serial resolved
  | ok scenario =>
      have describes : sources.Describes locate scenario := Sources.resolve_eq_ok_iff.mp resolved
      rw [resolved, planned, plans_code colored describes.startable] at failed
      cases failed

/--
In serial mode nothing about the launcher matters.  Two inputs that differ in nothing
else and whose flags can all be split are refused for the same reason, which is never
the launcher, or they lead to scenarios that differ in nothing else and give every role
the same command line.  Their plans are the same.
-/
theorem serial_ignores_launcher {first second : Sources}
    (alike : first.besidesLauncher = second.besidesLauncher) (serial : first.Serial)
    (closed : first.FlagsClosed) (closedToo : second.FlagsClosed) :
    (∀ locate,
      Scenario.besidesLauncher <$> first.resolve locate =
        Scenario.besidesLauncher <$> second.resolve locate ∧
      (∀ one other, first.resolve locate = .ok one → second.resolve locate = .ok other →
        ∀ role, one.commandLine role = other.commandLine role) ∧
      ∀ cause, first.resolve locate = .error cause → cause.isAboutLauncher = false) ∧
    ∀ here there : Place σ,
      here.surroundings.locate = there.surroundings.locate → here.colored = there.colored →
      loadSettings here.surroundings first.options.settings = .ok first.settings →
      loadSettings there.surroundings second.options.settings = .ok second.settings →
      let one := plan here first.options first.builtIn
      let other := plan there second.options second.builtIn
      one.stdout = other.stdout ∧ one.stderr = other.stderr ∧ one.code = other.code ∧
        ∀ cause, one.code = .error cause → cause.isAboutLauncher = false := by
  have serialToo := Sources.serial_of_alike alike serial
  refine ⟨?_, ?_⟩
  · intro locate
    have same : Scenario.besidesLauncher <$> first.resolve locate =
        Scenario.besidesLauncher <$> second.resolve locate :=
      Sources.resolve_eq_of_alike alike serial closed closedToo
    refine ⟨same, ?_, fun cause => Sources.isAboutLauncher_of_refused serial⟩
    intro one other resolved resolvedToo role
    rw [resolved, resolvedToo] at same
    have rest : one.besidesLauncher = other.besidesLauncher := Except.ok.inj same
    have mode := Sources.mode_of_resolved serial resolved
    have modeToo := Sources.mode_of_resolved serialToo resolvedToo
    rw [← Scenario.commandLine_besidesLauncher mode, rest,
      Scenario.commandLine_besidesLauncher modeToo]
  · intro here there files style loaded loadedToo one other
    obtain ⟨shown, unsaid⟩ := plan_planned loaded
    obtain ⟨shownToo, unsaidToo⟩ := plan_planned loadedToo
    have same : (one.stdout, one.code) = (other.stdout, other.code) := by
      rw [shown, shownToo, ← planned_besidesLauncher serial, ← planned_besidesLauncher serialToo,
        Sources.resolve_eq_of_alike alike serial closed closedToo, files, style]
    obtain ⟨stdout, code⟩ := Prod.mk.inj same
    refine ⟨stdout, unsaid.trans unsaidToo.symm, code, fun cause failed => ?_⟩
    exact planned_error serial ((congrArg Prod.snd shown).symm.trans failed)

/-- A server and a client in serial mode, with settings from a file that is empty. -/
def withoutLauncher : Sources where
  options := {
    roles := ⟨{ path := some "/s" }, { path := some "/c" }, {}⟩
    serial := true
    settings := some "/plain.toml"
    tail := ["--port"] }
  settings := {}
  builtIn := {}

/-- The same with a launcher that is not there and with flags, on both sides. -/
def withLauncher : Sources where
  options := { withoutLauncher.options with
    roles := ⟨{ path := some "/s" }, { path := some "/c", postflags := some "-v" }, {}⟩
    launcher := some "/launch"
    countFlag := some ""
    preflags := some "--bind-to 'none'"
    settings := some "/launched.toml" }
  settings := { launcher := { path := some "launch", postflags := some "--quiet" } }
  builtIn := {}

/-- A place with the two programs and both files of settings, but without a launcher. -/
def launcherless : Place Stubborn where
  world := Stubborn.world (.ofMillis 10)
  outside := {}
  surroundings := ⟨⟨[(["s"], .file [] true), (["c"], .file [] true), (["plain.toml"], .file [] false),
    (["launched.toml"], .file (Utf8.encode
      "[launcher]\npath = \"launch\"\npostflags = \"--quiet\"\n") false)], []⟩, []⟩
  passes := 0
  colored := false

theorem launcherless_plans_alike :
    withoutLauncher.besidesLauncher = withLauncher.besidesLauncher ∧ withoutLauncher.Serial ∧
      withoutLauncher.FlagsClosed ∧ withLauncher.FlagsClosed ∧
      (plan launcherless withLauncher.options).stdout =
        "server: /s --port\nclient: /c --port\n" ∧
      (plan launcherless withLauncher.options).code = .ok 0 := by
  have alike : withoutLauncher.besidesLauncher = withLauncher.besidesLauncher := rfl
  have serial : withoutLauncher.Serial := ⟨rfl, Or.inl rfl⟩
  have closed : withoutLauncher.FlagsClosed := by decide +kernel
  have closedToo : withLauncher.FlagsClosed := by decide +kernel
  have ignored := serial_ignores_launcher (σ := Stubborn) alike serial closed closedToo
  obtain ⟨stdout, -, code, -⟩ := ignored.2 launcherless launcherless rfl rfl
    (by decide +kernel) (by decide +kernel)
  exact ⟨alike, serial, closed, closedToo, stdout.symm.trans (by decide +kernel),
    code.symm.trans (by decide +kernel)⟩

end Console

end Rendezvous
