import Rendezvous.Proofs.Run.Failures

/-!
What the failures of a run are about.

Once the command lines of a scenario can be built, nothing in a run puts the blame
on the settings again: waits fail because of the user, the processes or the time,
and starts fail because of the world.
-/

set_option autoImplicit false

namespace Rendezvous

variable {σ : Type}

theorem FailureKind.ofError_eq_config_iff (cause : Error) :
    ofError cause = .config ↔ cause.isConfiguration = true := by
  cases cause <;> simp [ofError, Error.isConfiguration]

theorem FailureKind.ofExit_ne_config (role : Role) : ofExit role ≠ .config := by
  cases role <;> decide

namespace Session

theorem checkExit_cause {world : World σ} {index : Nat} {process : RoleProcess}
    {outside after : σ} {cause : Error}
    (failed : checkExit world index process outside = (.error cause, after)) :
    cause.isConfiguration = false := by
  unfold checkExit at failed
  split at failed
  · rcases asked : world.status index outside with ⟨refusal | _ | _, later⟩ <;>
      rw [asked] at failed <;> cases failed
    rfl
  · cases failed

theorem checkExitsFrom_cause {world : World σ} {index : Nat} {processes later : List RoleProcess}
    {outside after : σ} {cause : Error}
    (failed : checkExitsFrom world index processes outside = (.error cause, later, after)) :
    cause.isConfiguration = false := by
  induction processes generalizing index later outside with
  | nil => cases failed
  | cons process rest inductionHypothesis =>
      unfold checkExitsFrom at failed
      rcases checked : checkExit world index process outside with ⟨_ | _, next⟩ <;>
        rw [checked] at failed
      · cases failed
        exact checkExit_cause checked
      · rcases others : checkExitsFrom world (index + 1) rest next with ⟨outcome, changed, last⟩
        simp only [others, Prod.mk.injEq] at failed
        obtain ⟨rfl, -, rfl⟩ := failed
        exact inductionHypothesis others

theorem afterWait_cause {world : World σ} {attentive : Bool} {wake : Wake}
    {session after : Session σ} {cause : Error}
    (failed : session.afterWait world attentive wake = (.error cause, after)) :
    cause.isConfiguration = false := by
  cases wake with
  | elapsed | ready => cases failed
  | interrupted =>
      cases attentive <;> cases failed
      rfl

theorem poll_cause {world : World σ} {attentive : Bool} {budget : Duration}
    {session after : Session σ} {cause : Error}
    (failed : session.poll world attentive budget = (.error cause, after)) :
    cause.isConfiguration = false := by
  unfold poll at failed
  rcases checked : session.checkExits world with ⟨_ | _, later⟩ <;> rw [checked] at failed
  · cases failed
    unfold checkExits at checked
    rcases asked : checkExitsFrom world 0 session.processes session.outside with
      ⟨outcome, processes, outside⟩
    simp only [asked, Prod.mk.injEq] at checked
    obtain ⟨rfl, -⟩ := checked
    exact checkExitsFrom_cause asked
  · exact afterWait_cause failed

end Session

namespace Handshake

theorem toResult_cause {state : Handshake} {role : Role} {marker : String} {deadline : Deadline}
    {cause : Error} (failed : state.toResult role marker deadline = .error cause) :
    cause.isConfiguration = false := by
  cases state <;> cases failed <;> rfl

theorem afterPass_cause {world : World σ} {target : Target} {state : Handshake}
    {session : Session σ} {cause : Error}
    (failed : afterPass world target state session = .error cause) :
    cause.isConfiguration = false := by
  unfold afterPass at failed
  split at failed
  · cases failed
  · cases found : session.process? target.role with
    | none =>
        rw [found] at failed
        cases failed
        rfl
    | some process =>
        simp only [found] at failed
        split at failed
        · cases failed
        · split at failed <;> cases failed

theorem passes_cause {world : World σ} {target : Target} {more : Nat} {session : Session σ}
    {transcript : Transcript} {cause : Error}
    (failed : (passes world target more session transcript).1 = .error cause) :
    cause.isConfiguration = false := by
  induction more using Nat.strongRecOn generalizing session transcript with
  | ind more inductionHypothesis =>
      rcases passed : session.poll world true
        (target.deadline.slice (session.now world) Session.pollInterval) with ⟨refusal | _, polled⟩
      · rw [passes_of_interrupted passed] at failed
        cases failed
        exact Session.poll_cause passed
      · rw [passes_of_polled passed] at failed
        dsimp only at failed
        split at failed
        · exact inductionHypothesis _ (Nat.lt_succ_self _) failed
        · cases failed
        · exact afterPass_cause failed

theorem await_cause {world : World σ} {target : Target} {more : Nat} {session : Session σ}
    {transcript : Transcript} {cause : Error}
    (failed : (await world target more session transcript).1 = .error cause) :
    cause.isConfiguration = false := by
  unfold await at failed
  split at failed
  · cases failed
    rfl
  · exact passes_cause failed

end Handshake

/-- Every role that takes part in a scenario has a command line. -/
def Scenario.Startable (scenario : Scenario) : Prop :=
  ∀ role ∈ scenario.activeRoles, ∃ line, scenario.commandLine role = .ok line

namespace Run

theorem pass_cause {world : World σ} {attentive : Bool} {deadline : Deadline} {run : Run σ}
    {cause : Error} (failed : (run.pass world attentive deadline).1 = .error cause) :
    cause.isConfiguration = false := by
  unfold pass at failed
  dsimp only at failed
  rcases polled : run.session.poll world attentive
    (deadline.slice (run.now world) Session.pollInterval) with ⟨_ | _, session⟩ <;>
    rw [polled] at failed <;> cases failed
  exact Session.poll_cause polled

theorem drainUntil_cause {world : World σ} {attentive : Bool} {deadline : Deadline}
    {done : Condition} {more : Nat} {run : Run σ} {cause : Error}
    (failed : (drainUntil world attentive deadline done more run).1 = .error cause) :
    cause.isConfiguration = false := by
  obtain ⟨passes, waited⟩ := drainUntil_waited world attentive deadline done more run
  exact pass_cause (waited.failed cause failed)

theorem awaitClient_cause {world : World σ} {scenario : Scenario} {more : Nat} {run : Run σ}
    {cause : Error} (failed : (run.awaitClient world scenario more).1 = .error cause) :
    cause.isConfiguration = false := by
  unfold awaitClient at failed
  dsimp only at failed
  rcases drained : drainUntil world true (.after (run.now world) scenario.timeouts.run)
    clientFinished more run with ⟨_ | _ | _, last⟩ <;> rw [drained] at failed <;> cases failed
  · exact drainUntil_cause (congrArg Prod.fst drained)
  · rfl

theorem awaitServer_cause {world : World σ} {scenario : Scenario} {more : Nat}
    {run after : Run σ} {cause : Error}
    (failed : run.awaitServer world scenario more = (.error cause, after)) :
    cause.isConfiguration = false := by
  unfold awaitServer at failed
  rcases waited : Handshake.await world (run.serverTarget world scenario) more run.session
    run.transcript with ⟨refusal | state, session, transcript⟩ <;>
    simp only [waited] at failed
  · cases failed
    exact Handshake.await_cause (congrArg Prod.fst waited)
  · split at failed
    · next refused =>
        cases failed
        exact Handshake.toResult_cause refused
    · cases failed

theorem launch_cause {world : World σ} {scenario : Scenario} (startable : scenario.Startable)
    {role : Role} {run after : Run σ} {cause : Error}
    (failed : run.launch world scenario role = (.error cause, after)) :
    cause.isConfiguration = false := by
  unfold launch at failed
  cases planned : scenario.roles.get role with
  | none =>
      rw [planned] at failed
      cases failed
      rfl
  | some plan =>
      have active : role ∈ scenario.activeRoles :=
        List.mem_filter.mpr ⟨Role.mem_all role, by rw [planned]; rfl⟩
      obtain ⟨line, built⟩ := startable role active
      simp only [planned, built] at failed
      split at failed <;> cases failed
      rfl

/-- If every role has a command line, then a drive is not ended by the settings. -/
theorem drive_cause (world : World σ) {scenario : Scenario} (startable : scenario.Startable)
    {more : Nat} {run : Run σ} {cause : Error}
    (failed : (run.drive world scenario more).1 = .error cause) :
    cause.isConfiguration = false := by
  have drive := drive_drive world scenario more run
  generalize run.drive world scenario more = result at drive failed
  cases drive with
  | serverNotStarted start | clientNotStarted _ _ start | helperNotStarted _ _ _ start =>
      cases failed
      exact launch_cause startable start
  | markerNotFound _ marker =>
      cases failed
      exact awaitServer_cause marker
  | allStarted => exact awaitClient_cause failed

theorem driveFailures_kind {scenario : Scenario} {outcome : Except Error Unit × Run σ}
    (operational : ∀ cause, outcome.1 = .error cause → cause.isConfiguration = false)
    {failure : Failure} (blamed : failure ∈ driveFailures scenario outcome) :
    failure.kind ≠ .config := by
  rcases outcome with ⟨cause | _, run⟩
  · rw [driveFailures, List.mem_singleton] at blamed
    rw [blamed, Ne, FailureKind.ofError_eq_config_iff, operational cause rfl]
    exact Bool.false_ne_true
  · cases blamed

/-- No failure of a run is about the settings, if every role has a command line. -/
theorem complete_kind (world : World σ) {scenario : Scenario} (startable : scenario.Startable)
    (more : Nat) (transcript : Transcript) (outside : σ) :
    ∀ failure ∈ ((Run.start world transcript outside).complete world scenario more).1.failures,
      failure.kind ≠ .config := by
  intro failure blamed
  obtain ⟨rest, failures, causes⟩ := complete_failures world scenario more transcript outside
  rw [failures] at blamed
  rcases List.mem_append.mp blamed with fatal | later
  · exact driveFailures_kind (fun cause failed => drive_cause world startable failed) fatal
  · obtain ⟨role, rfl | rfl⟩ := causes failure later
    · exact FailureKind.ofExit_ne_config role
    · nofun

end Run

end Rendezvous
