import Rendezvous.Proofs.Console.Plans
import Rendezvous.Proofs.Run.Tails
import Rendezvous.Proofs.Scenario.Environment

/-!
The variables of a role as they are planned and as they are used.

What a run starts for a role is started with the assignments that the sources list
for it, and what a plan prints for the role can be read again and gives the same
assignments, in the same order, unless a newline is among what is printed.
-/

set_option autoImplicit false

namespace Rendezvous

namespace Console

/-- However settings are loaded, their variables are in the order of the names. -/
theorem loadSettings_inKeyOrder {surroundings : Surroundings} {path : Option String}
    {settings : Settings} (loaded : loadSettings surroundings path = .ok settings) :
    settings.InKeyOrder := by
  have ofFile : ∀ path, readSettings surroundings.files path = .ok settings →
      settings.InKeyOrder := by
    intro path read
    obtain ⟨text, -, given⟩ := Except.bind_eq_ok_iff.mp read
    cases content : Settings.read text with
    | error cause =>
        rw [content] at given
        cases given
    | ok settings =>
        rw [content] at given
        cases given
        exact Settings.read_inKeyOrder content
  unfold loadSettings at loaded
  split at loaded
  · exact ofFile _ loaded
  · split at loaded
    · exact ofFile _ loaded
    · cases loaded
      exact Settings.default_inKeyOrder

theorem plan_of_resolved {σ : Type} {place : Place σ} {options : RunOptions}
    {builtIn : LauncherSettings} {scenario : Scenario}
    (loaded : loadScenario place.surroundings options builtIn = .ok scenario) :
    (plan place options builtIn).stdout = (plans place.colored scenario scenario.activeRoles).1 ∧
      (plan place options builtIn).code =
        (plans place.colored scenario scenario.activeRoles).2 := by
  constructor <;> simp only [plan, loaded]

/-- A plan of a resolved scenario shows all its roles, one after another. -/
theorem plan_shows {σ : Type} {place : Place σ} {options : RunOptions}
    {builtIn : LauncherSettings} {scenario : Scenario}
    (loaded : loadScenario place.surroundings options builtIn = .ok scenario) :
    ∃ shown, Shows place.colored scenario scenario.activeRoles shown
      (plan place options builtIn).stdout (.ok 0) := by
  obtain ⟨stdout, code⟩ := plan_of_resolved loaded
  obtain ⟨shown, shows⟩ := plans_shows place.colored scenario scenario.activeRoles
  rw [← stdout, ← code, plan_code_of_resolved loaded] at shows
  exact ⟨shown, shows⟩

/--
A role is started with the variables that its sources list: the assignments of the
settings in the order of their names, those of the command line, the variable of
the backend, and then those of the role, from its settings and from the command
line.  The last one of a variable counts, and a variable that is not listed is
inherited.  What is said about other roles does not matter.  The journal of a run
has a start for each of its processes, with the variables of its role, and begins
with that of the server.  A plan shows the same assignments in the same order; they
can be read from it as long as nothing that it shows for the role, or for a role
before it, holds a newline.
-/
theorem listed_planned_started (sources : Sources) (locate : String → Option String)
    {scenario : Scenario} (resolved : sources.resolve locate = .ok scenario) {role : Role}
    (active : role ∈ scenario.activeRoles) :
    let listed : Variables := (sources.assignments role).flatten
    (∀ inherited name,
      (∀ value, listed.Last name value →
        Variables.apply inherited (scenario.envOf role) name = some value) ∧
      ((∀ entry ∈ listed, entry.1 ≠ name) →
        Variables.apply inherited (scenario.envOf role) name = inherited name)) ∧
    (∀ {σ : Type} (world : World σ) (more : Nat) (transcript : Transcript) (outside : σ),
      let journal := (Run.recorded world scenario more transcript outside).2.journal
      journal.starts =
        ((Run.start world transcript outside).settle world scenario more).session.processes.map
          (Run.startOf scenario) ∧
      ∃ line answer, scenario.commandLine .server = .ok line ∧
        journal.head? = some (.launched line (scenario.envOf .server) answer)) ∧
    (∀ given configured other, (given.get role).env = (sources.options.roles.get role).env →
      (configured.get role).env = (sources.settings.roles.get role).env →
      (sources.withRoles given configured).resolve locate = .ok other →
      role ∈ other.activeRoles → other.envOf role = scenario.envOf role) ∧
    (∀ {σ : Type} (place : Place σ),
      loadScenario place.surroundings sources.options sources.builtIn = .ok scenario →
      let planned := plan place sources.options sources.builtIn
      (∃ shown, Shows place.colored scenario scenario.activeRoles shown planned.stdout (.ok 0)) ∧
      ∀ before after, scenario.activeRoles = before ++ role :: after →
        (∀ other ∈ before ++ [role], scenario.OnLines other) →
        planned? place.colored role planned.stdout = some (scenario.envOf role)) ∧
    (∀ surroundings path, loadSettings surroundings path = .ok sources.settings →
      sources.settings.InKeyOrder) ∧
    ∀ entries env, Settings.readVariables (.table entries) = .ok env →
      (env.map fun entry => (entry.1, Toml.Value.text entry.2)).Perm entries := by
  intro listed
  have describes : sources.Describes locate scenario := Sources.resolve_eq_ok_iff.mp resolved
  have same : scenario.envOf role = listed := describes.envOf_eq active
  refine ⟨fun inherited name => ?_, ?_, ?_, ?_, fun _ _ => loadSettings_inKeyOrder,
    fun _ _ => Settings.readVariables_perm⟩
  · rw [same]
    exact ⟨fun value last => last.apply inherited,
      fun absent => Variables.apply_of_absent absent inherited⟩
  · intro σ world more transcript outside journal
    obtain ⟨line, built⟩ := describes.startable .server describes.server_active
    obtain ⟨answer, first⟩ := Run.start_settle_head world more transcript outside built
    exact ⟨Run.start_settle_launched world scenario more transcript outside, line, answer, built,
      first⟩
  · intro given configured other options settings changed present
    exact describes.envOf_withRoles active (Sources.resolve_eq_ok_iff.mp changed) present options
      settings
  · intro σ place loaded planned
    obtain ⟨shown, shows⟩ := plan_shows loaded
    refine ⟨⟨shown, shows⟩, fun before after order plain => ?_⟩
    exact shows.planned? order (Run.activeRoles_nodup scenario) plain (describes.isKey_envOf active)

/-- A client about whose mode and backend several places say something. -/
def contested : Sources where
  options := {
    roles := ⟨{ env := [("MODE", "server")] }, { env := [("MODE", "fast"), ("MODE", "quick")] }, {}⟩
    serial := true
    settings := some "/contested.toml"
    env := [("MODE", "slow"), ("PAIRTEST_BACKEND", "none")]
    backend := some "tcp" }
  settings := {
    roles := ⟨{ path := some "/s" }, { path := some "/c", env := [("LOG", "a=b")] }, {}⟩
    env := [("MODE", "usual")]
    backend := { name := some "udp" } }
  builtIn := {}

/-- A place with the two programs and these settings. -/
def contestedPlace : Place Plaintive where
  world := Plaintive.world
  outside := {}
  surroundings := ⟨⟨[(["s"], .file [] true), (["c"], .file [] true), (["contested.toml"],
    .file (Utf8.encode ("[roles.server]\npath = \"/s\"\n[roles.client]\npath = \"/c\"\n" ++
      "[roles.client.env]\nLOG = \"a=b\"\n[env]\nMODE = \"usual\"\n" ++
      "[backend]\nname = \"udp\"\n")) false)], []⟩, []⟩
  passes := 3
  colored := false

def contestedEnv : Variables :=
  [("MODE", "usual"), ("MODE", "slow"), ("PAIRTEST_BACKEND", "none"), ("PAIRTEST_BACKEND", "tcp"),
    ("LOG", "a=b"), ("MODE", "fast"), ("MODE", "quick")]

theorem contested_client :
    ∃ scenario, contested.resolve contestedPlace.surroundings.locate = .ok scenario ∧
      .client ∈ scenario.activeRoles ∧
      loadScenario contestedPlace.surroundings contested.options = .ok scenario ∧
      scenario.activeRoles = [.server] ++ .client :: [] ∧
      (∀ role ∈ scenario.activeRoles, scenario.OnLines role) ∧
      (let started := Variables.apply (fun _ => some "inherited") (scenario.envOf .client)
      started "MODE" = some "quick" ∧ started "PAIRTEST_BACKEND" = some "tcp" ∧
        started "LOG" = some "a=b" ∧ started "HOME" = some "inherited") ∧
      (⟨"/c", []⟩, contestedEnv, 1000) ∈ (Run.recorded Plaintive.world scenario 3
        (Run.transcriptOf scenario) {}).2.journal.starts ∧
      planned? false .client (plan contestedPlace contested.options).stdout =
        some contestedEnv := by
  have accepted : (contested.resolve contestedPlace.surroundings.locate).toOption.map
      (fun scenario => (scenario.activeRoles, scenario.envOf .client,
        decide (∀ role ∈ scenario.activeRoles, scenario.OnLines role),
        decide ((⟨"/c", []⟩, contestedEnv, 1000) ∈
          ((Run.start Plaintive.world (Run.transcriptOf scenario) {}).settle Plaintive.world
            scenario 3).session.processes.map (Run.startOf scenario)))) =
      some ([.server, .client], contestedEnv, true, true) := by
    decide +kernel
  obtain ⟨scenario, place, values⟩ := Option.map_eq_some_iff.mp accepted
  simp only [Prod.mk.injEq, decide_eq_true_eq] at values
  obtain ⟨roles, env, plain, process⟩ := values
  have resolved := Except.toOption_eq_some_iff.mp place
  have read : loadSettings contestedPlace.surroundings contested.options.settings =
      .ok contested.settings := by decide +kernel
  have loaded : loadScenario contestedPlace.surroundings contested.options = .ok scenario :=
    loadScenario_eq_ok_iff.mpr ⟨_, read, resolved⟩
  have active : .client ∈ scenario.activeRoles := by rw [roles]; decide
  obtain ⟨value, starts, -, plans, -⟩ :=
    listed_planned_started contested contestedPlace.surroundings.locate resolved active
  obtain ⟨started, -⟩ := starts Plaintive.world 3 (Run.transcriptOf scenario) {}
  have shown := (plans contestedPlace loaded).2 [.server] [] roles fun other before =>
    plain other (roles ▸ before)
  rw [env] at shown
  refine ⟨scenario, resolved, active, loaded, roles, plain,
    ⟨(value _ _).1 _ (Variables.last_iff.mpr (by decide +kernel)),
      (value _ _).1 _ (Variables.last_iff.mpr (by decide +kernel)),
      (value _ _).1 _ (Variables.last_iff.mpr (by decide +kernel)),
      (value _ _).2 (by decide +kernel)⟩, started ▸ process, shown⟩

/-- A variable whose value looks like lines of a plan. -/
def disguised : RunOptions where
  roles := ⟨{ path := some "/s" }, { path := some "/c" }, {}⟩
  serial := true
  env := [("A", "1\n  B=2")]

/-- A plan does not tell a value with a newline from another variable. -/
theorem newline_planned_as_variable :
    let plain : RunOptions := { disguised with env := [("A", "1"), ("B", "2")] }
    ∃ scenario other,
      loadScenario contestedPlace.surroundings disguised = .ok scenario ∧
      loadScenario contestedPlace.surroundings plain = .ok other ∧
      .server ∈ scenario.activeRoles ∧
      (plan contestedPlace disguised).stdout =
        "server: /s\n  A=1\n  B=2\nclient: /c\n  A=1\n  B=2\n" ∧
      (plan contestedPlace disguised).stdout = (plan contestedPlace plain).stdout ∧
      planned? false .server (plan contestedPlace disguised).stdout =
        some [("A", "1"), ("B", "2")] ∧
      Variables.apply (fun _ => none) (scenario.envOf .server) "B" = none ∧
      Variables.apply (fun _ => none) (other.envOf .server) "B" = some "2" := by
  intro plain
  have accepted : (loadScenario contestedPlace.surroundings disguised).toOption.map
      (fun scenario => (scenario.activeRoles, scenario.envOf .server)) =
      some ([.server, .client], [("A", "1\n  B=2")]) := by decide +kernel
  have acceptedToo : (loadScenario contestedPlace.surroundings plain).toOption.map
      (fun scenario => scenario.envOf .server) = some [("A", "1"), ("B", "2")] := by
    decide +kernel
  obtain ⟨scenario, place, values⟩ := Option.map_eq_some_iff.mp accepted
  obtain ⟨roles, env⟩ := Prod.mk.inj values
  obtain ⟨other, otherPlace, otherEnv⟩ := Option.map_eq_some_iff.mp acceptedToo
  refine ⟨scenario, other, Except.toOption_eq_some_iff.mp place,
    Except.toOption_eq_some_iff.mp otherPlace, ?_, by decide +kernel, by decide +kernel,
    by decide +kernel, ?_, ?_⟩
  · rw [roles]
    decide
  · rw [env]
    rfl
  · rw [otherEnv]
    rfl

end Console

end Rendezvous
