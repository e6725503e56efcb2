import Rendezvous.Proofs.Run.Stops

/-!
A whole run as a sequence of single changes.

What a drive does is an `Advance`: a step of watching, the start of a process, or
an entry in the books.  A teardown also sends signals and notes survivors.
Whatever each `Change` keeps is kept by `Run.complete`.
-/

set_option autoImplicit false

namespace Rendezvous

namespace Run

variable {σ : Type}

/-- The roles of the processes, in start order. -/
def roles (run : Run σ) : List Role :=
  run.session.processes.map RoleProcess.role

theorem Frame.roles {before after : Run σ} (frame : before.Frame after) :
    after.roles = before.roles :=
  frame.processes.roles

/-- A run after a process was started. -/
def afterLaunch (scenario : Scenario) (role : Role) (line : CommandLine) (pid : Nat)
    (now : Duration) (outside : σ) (run : Run (σ × Journal)) : Run (σ × Journal) :=
  { run with session := { run.session with
      outside := (outside, run.journal ++ [.launched line (scenario.envOf role) (.ok pid)])
      processes := run.session.processes ++
        [.started role pid line now scenario.historyLines] } }

/-- A run after a process could not be started. -/
def afterRefusal (line : CommandLine) (env : Variables) (cause : SystemError) (outside : σ)
    (run : Run (σ × Journal)) : Run (σ × Journal) :=
  { run with session := { run.session with
      outside := (outside, run.journal ++ [.launched line env (.error cause)]) } }

/-- One thing that a drive does. -/
inductive Advance (scenario : Scenario) : Run (σ × Journal) → Run (σ × Journal) → Prop where
  | step {before after : Run (σ × Journal)} (step : Step before after) :
      Advance scenario before after
  /-- Something was written into the books. -/
  | note (run : Run (σ × Journal)) (phases : List Phase) (handshakeSatisfied : Bool)
      (failures : List Failure) :
      Advance scenario run { run with phases, handshakeSatisfied, failures }
  | launched {run : Run (σ × Journal)} {role : Role} {line : CommandLine}
      (planned : scenario.commandLine role = .ok line) (fresh : role ∉ run.roles)
      (pid : Nat) (now : Duration) (outside : σ) :
      Advance scenario run (run.afterLaunch scenario role line pid now outside)
  | refused (run : Run (σ × Journal)) (line : CommandLine) (env : Variables)
      (cause : SystemError) (outside : σ) :
      Advance scenario run (run.afterRefusal line env cause outside)

/-- One change of a run. -/
inductive Change (scenario : Scenario) : Run (σ × Journal) → Run (σ × Journal) → Prop where
  | advance {before after : Run (σ × Journal)} (advance : Advance scenario before after) :
      Change scenario before after
  | signal {run : Run (σ × Journal)} {session : Session (σ × Journal)}
      (signal : Session.Signal run.session session) : Change scenario run { run with session }
  | survivors (run : Run (σ × Journal)) : Change scenario run run.reportSurvivors

abbrev Advances (scenario : Scenario) : Run (σ × Journal) → Run (σ × Journal) → Prop :=
  Relation.ReflTransGen (Advance scenario)

/-- Any number of changes. -/
abbrev Reaches (scenario : Scenario) : Run (σ × Journal) → Run (σ × Journal) → Prop :=
  Relation.ReflTransGen (Change scenario)

theorem Steps.advances {before after : Run (σ × Journal)} (steps : Steps before after)
    (scenario : Scenario) : Advances scenario before after :=
  steps.lift id fun _ _ => .step

theorem Advances.reaches {scenario : Scenario} {before after : Run (σ × Journal)}
    (advances : Advances scenario before after) : Reaches scenario before after :=
  advances.lift id fun _ _ => .advance

theorem Steps.reaches {before after : Run (σ × Journal)} (steps : Steps before after)
    (scenario : Scenario) : Reaches scenario before after :=
  (steps.advances scenario).reaches

/-- What each change keeps, a run keeps. -/
theorem Reaches.keeps {scenario : Scenario} {holds : Run (σ × Journal) → Prop}
    (each : ∀ before after : Run (σ × Journal), Change scenario before after →
      holds before → holds after)
    {before after : Run (σ × Journal)} (reaches : Reaches scenario before after)
    (initially : holds before) : holds after := by
  induction reaches with
  | refl => exact initially
  | tail _ change inductionHypothesis => exact each _ _ change inductionHypothesis

/-- The journal only grows. -/
theorem Change.journal_grows {scenario : Scenario} {before after : Run (σ × Journal)}
    (change : Change scenario before after) : before.journal <+: after.journal := by
  cases change with
  | advance advance =>
      cases advance with
      | step step =>
          obtain ⟨later, grown, -⟩ := step.journal
          exact ⟨later, grown.symm⟩
      | note _ _ _ => exact List.prefix_refl _
      | launched _ _ _ _ _ | refused _ _ _ _ => exact List.prefix_append _ _
  | signal signal =>
      obtain ⟨later, grown, -⟩ := signal.journal
      exact ⟨later, grown.symm⟩
  | survivors => exact List.prefix_refl _

theorem Reaches.journal_grows {scenario : Scenario} {before after : Run (σ × Journal)}
    (reaches : Reaches scenario before after) : before.journal <+: after.journal := by
  induction reaches with
  | refl => exact List.prefix_refl _
  | tail _ change inductionHypothesis => exact inductionHypothesis.trans change.journal_grows

theorem enter_advance (scenario : Scenario) (run : Run (σ × Journal)) (phase : Phase) :
    Advance scenario run (run.enter phase) :=
  .note run (run.phases ++ [phase]) run.handshakeSatisfied run.failures

/-- The start of a process: nothing was tried, it failed, or the process is there. -/
theorem launch_cases (world : World σ) (scenario : Scenario) (role : Role)
    (run : Run (σ × Journal)) :
    (∃ cause, run.launch world.recorded scenario role = (.error cause, run)) ∨
      (∃ cause line refusal outside, scenario.commandLine role = .ok line ∧
        run.launch world.recorded scenario role =
          (.error cause, run.afterRefusal line (scenario.envOf role) refusal outside)) ∨
      ∃ line pid now outside, scenario.commandLine role = .ok line ∧
        run.launch world.recorded scenario role =
          (.ok (), run.afterLaunch scenario role line pid now outside) := by
  unfold launch
  cases scenario.roles.get role with
  | none => exact Or.inl ⟨_, rfl⟩
  | some _ =>
      cases scenario.commandLine role with
      | error cause => exact Or.inl ⟨cause, rfl⟩
      | ok line =>
          simp only [World.recorded_launch]
          rcases world.launch line (scenario.envOf role) run.session.outside.1 with
            ⟨refusal | pid, outside⟩
          · exact Or.inr (Or.inl ⟨_, line, refusal, outside, rfl, rfl⟩)
          · exact Or.inr (Or.inr ⟨line, pid, world.now outside, outside, rfl, rfl⟩)

theorem launch_advances (world : World σ) (scenario : Scenario) {role : Role}
    {run : Run (σ × Journal)} (fresh : role ∉ run.roles) :
    Advances scenario run (run.launch world.recorded scenario role).2 := by
  rcases launch_cases world scenario role run with
    ⟨cause, launched⟩ | ⟨cause, line, refusal, outside, -, launched⟩ |
      ⟨line, pid, now, outside, planned, launched⟩ <;> rw [launched]
  · exact .single (.refused run line _ refusal outside)
  · exact .single (.launched planned fresh pid now outside)

/-- Whoever has a command line is started with the variables of the role, or cannot be. -/
theorem launch_journal (world : World σ) {scenario : Scenario} {role : Role} {line : CommandLine}
    (built : scenario.commandLine role = .ok line) (run : Run (σ × Journal)) :
    ∃ answer, (run.launch world.recorded scenario role).2.journal =
      run.journal ++ [.launched line (scenario.envOf role) answer] := by
  obtain ⟨plan, planned⟩ : ∃ plan, scenario.roles.get role = some plan := by
    cases found : scenario.roles.get role with
    | none => simp [Scenario.commandLine, found] at built
    | some plan => exact ⟨plan, rfl⟩
  simp only [launch, planned, built, World.recorded_launch]
  rcases world.launch line (scenario.envOf role) run.session.outside.1 with ⟨_ | _, _⟩ <;>
    exact ⟨_, rfl⟩

theorem launch_sameBooks (world : World σ) (scenario : Scenario) (role : Role)
    (run : Run (σ × Journal)) : run.SameBooks (run.launch world.recorded scenario role).2 := by
  rcases launch_cases world scenario role run with
    ⟨cause, launched⟩ | ⟨cause, line, refusal, outside, -, launched⟩ |
      ⟨line, pid, now, outside, planned, launched⟩ <;> rw [launched] <;>
    exact ⟨rfl, rfl, rfl, rfl⟩

theorem launch_roles_of_ok {world : World σ} {scenario : Scenario} {role : Role}
    {run after : Run (σ × Journal)}
    (succeeded : run.launch world.recorded scenario role = (.ok (), after)) :
    after.roles = run.roles ++ [role] := by
  rcases launch_cases world scenario role run with
    ⟨cause, launched⟩ | ⟨cause, line, refusal, outside, -, launched⟩ |
      ⟨line, pid, now, outside, planned, launched⟩ <;> rw [launched] at succeeded <;>
    cases succeeded
  simp [roles, afterLaunch, RoleProcess.started]

theorem launch_roles_of_error {world : World σ} {scenario : Scenario} {role : Role}
    {cause : Error} {run after : Run (σ × Journal)}
    (failed : run.launch world.recorded scenario role = (.error cause, after)) :
    after.roles = run.roles := by
  rcases launch_cases world scenario role run with
    ⟨_, launched⟩ | ⟨_, line, refusal, outside, -, launched⟩ |
      ⟨line, pid, now, outside, planned, launched⟩ <;> rw [launched] at failed <;>
    cases failed <;> rfl

/-- How far a drive came. -/
inductive Drive (world : World σ) (scenario : Scenario) (more : Nat) (run : Run σ) :
    Except Error Unit × Run σ → Prop where
  | serverNotStarted {cause : Error} {starting : Run σ}
      (server : (run.enter .serverStarting).launch world scenario .server =
        (.error cause, starting)) :
      Drive world scenario more run (.error cause, starting)
  | markerNotFound {cause : Error} {starting waiting : Run σ}
      (server : (run.enter .serverStarting).launch world scenario .server = (.ok (), starting))
      (marker : (starting.enter .awaitingHandshake).awaitServer world scenario more =
        (.error cause, waiting)) :
      Drive world scenario more run (.error cause, waiting)
  | clientNotStarted {cause : Error} {starting waiting launching : Run σ}
      (server : (run.enter .serverStarting).launch world scenario .server = (.ok (), starting))
      (marker : (starting.enter .awaitingHandshake).awaitServer world scenario more =
        (.ok (), waiting))
      (client : (waiting.enter .clientStarting).launch world scenario .client =
        (.error cause, launching)) :
      Drive world scenario more run (.error cause, launching)
  | helperNotStarted {cause : Error} {starting waiting launching helping : Run σ}
      (server : (run.enter .serverStarting).launch world scenario .server = (.ok (), starting))
      (marker : (starting.enter .awaitingHandshake).awaitServer world scenario more =
        (.ok (), waiting))
      (client : (waiting.enter .clientStarting).launch world scenario .client =
        (.ok (), launching))
      (helper : launching.launch world scenario .clientHelper = (.error cause, helping)) :
      Drive world scenario more run (.error cause, helping)
  | allStarted {starting waiting launching : Run σ}
      (server : (run.enter .serverStarting).launch world scenario .server = (.ok (), starting))
      (marker : (starting.enter .awaitingHandshake).awaitServer world scenario more =
        (.ok (), waiting))
      (clients : (waiting.enter .clientStarting).launchClients world scenario =
        (.ok (), launching)) :
      Drive world scenario more run ((launching.enter .running).awaitClient world scenario more)

theorem launchClients_error {world : World σ} {scenario : Scenario} {cause : Error}
    {run after : Run σ} (failed : run.launchClients world scenario = (.error cause, after)) :
    run.launch world scenario .client = (.error cause, after) ∨
      ∃ launching, run.launch world scenario .client = (.ok (), launching) ∧
        launching.launch world scenario .clientHelper = (.error cause, after) := by
  unfold launchClients at failed
  rcases client : run.launch world scenario .client with ⟨_ | _, launching⟩ <;>
    rw [client] at failed
  · exact Or.inl failed
  · dsimp only at failed
    split at failed
    · exact Or.inr ⟨launching, rfl, failed⟩
    · cases failed

theorem drive_drive (world : World σ) (scenario : Scenario) (more : Nat) (run : Run σ) :
    Drive world scenario more run (run.drive world scenario more) := by
  unfold drive
  rcases server : (run.enter .serverStarting).launch world scenario .server with
    ⟨_ | _, starting⟩
  · exact .serverNotStarted server
  dsimp only
  rcases marker : (starting.enter .awaitingHandshake).awaitServer world scenario more with
    ⟨_ | _, waiting⟩
  · exact .markerNotFound server marker
  dsimp only
  rcases clients : (waiting.enter .clientStarting).launchClients world scenario with
    ⟨_ | _, launching⟩
  · rcases launchClients_error clients with client | ⟨launching, client, helper⟩
    · exact .clientNotStarted server marker client
    · exact .helperNotStarted server marker client helper
  · exact .allStarted server marker clients

/-- The wait for the marker found it, or it changed nothing but what watching changes. -/
theorem awaitServer_cases (world : World σ) (scenario : Scenario) (more : Nat) (run : Run σ) :
    let waited := Handshake.await world (run.serverTarget world scenario) more run.session
      run.transcript
    let after : Run σ := { run with session := waited.2.1, transcript := waited.2.2 }
    (∃ line, waited.1 = .ok (.found line) ∧
      run.awaitServer world scenario more = (.ok (), { after with handshakeSatisfied := true })) ∨
      (∀ line, waited.1 ≠ .ok (.found line)) ∧
        ∃ cause, run.awaitServer world scenario more = (.error cause, after) := by
  simp only [awaitServer]
  generalize Handshake.await world (run.serverTarget world scenario) more run.session
    run.transcript = waited
  obtain ⟨_ | state, session, transcript⟩ := waited
  · exact Or.inr ⟨fun line => by simp, _, rfl⟩
  · cases state with
    | found line => exact Or.inl ⟨line, rfl, rfl⟩
    | waiting | timedOut | exitedEarly | errorText =>
        exact Or.inr ⟨fun line => by simp, _, rfl⟩

/-- The wait for the marker is made of steps. -/
theorem awaitMarker_steps (world : World σ) (scenario : Scenario) (more : Nat)
    (run : Run (σ × Journal)) :
    let waited := Handshake.await world.recorded (run.serverTarget world.recorded scenario) more
      run.session run.transcript
    Steps run { run with session := waited.2.1, transcript := waited.2.2 } := by
  dsimp only [Handshake.await]
  cases run.session.process? (run.serverTarget world.recorded scenario).role with
  | none => exact .refl
  | some _ => exact Handshake.passes_steps world rfl more run

end Run

end Rendezvous
