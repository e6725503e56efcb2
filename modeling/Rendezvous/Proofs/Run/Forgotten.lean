import Rendezvous.Proofs.Session.Forgotten
import Rendezvous.Run

/-!
A run that is recorded is the same run with a journal.

So what the journal of a recorded run shows about its processes is true of the
run that keeps no journal.
-/

set_option autoImplicit false

namespace Rendezvous

variable {σ : Type}

theorem Handshake.passes_forget (world : World σ) (target : Target) (more : Nat)
    (session : Session (σ × Journal)) (transcript : Transcript) :
    Prod.map id (Prod.map Session.forget id)
        (passes world.recorded target more session transcript) =
      passes world target more session.forget transcript := by
  induction more using Nat.strongRecOn generalizing session transcript with
  | ind more inductionHypothesis =>
      have polled := Session.poll_forget world true
        (target.deadline.slice (session.now world.recorded) Session.pollInterval) session
      rcases passed : session.poll world.recorded true
        (target.deadline.slice (session.now world.recorded) Session.pollInterval) with
        ⟨cause | _, later⟩ <;> rw [passed] at polled
      · rw [passes_of_interrupted passed, passes_of_interrupted polled.symm]
        rfl
      · rw [passes_of_polled passed, passes_of_polled polled.symm]
        have taken : (Session.forget later).takeLines =
            Prod.map id Session.forget later.takeLines := rfl
        generalize later.takeLines = lines at taken
        obtain ⟨lines, session⟩ := lines
        have decided : ∀ state, afterPass world target state session.forget =
            afterPass world.recorded target state session := fun _ => rfl
        simp only [taken, Prod.map_apply, id_eq, decided]
        split
        · next fewer _ => exact inductionHypothesis fewer (Nat.lt_succ_self fewer) _ _
        · rfl
        · rfl

namespace Run

/-- A run without its journal. -/
def forget (run : Run (σ × Journal)) : Run σ where
  session := run.session.forget
  transcript := run.transcript
  startedAt := run.startedAt
  phases := run.phases
  handshakeSatisfied := run.handshakeSatisfied
  failures := run.failures
  teardownFailures := run.teardownFailures

theorem launch_forget (world : World σ) (scenario : Scenario) (role : Role)
    (run : Run (σ × Journal)) :
    Prod.map id forget (run.launch world.recorded scenario role) =
      run.forget.launch world scenario role := by
  unfold launch
  cases scenario.roles.get role with
  | none => rfl
  | some plan =>
      cases scenario.commandLine role with
      | error cause => rfl
      | ok line =>
          have same : run.forget.session.outside = run.session.outside.1 := rfl
          simp only [World.recorded_launch, same]
          rcases world.launch line (scenario.envOf role) run.session.outside.1 with ⟨_ | _, _⟩ <;>
            rfl

theorem pass_forget (world : World σ) (attentive : Bool) (deadline : Deadline)
    (run : Run (σ × Journal)) :
    Prod.map id forget (run.pass world.recorded attentive deadline) =
      run.forget.pass world attentive deadline := by
  have polled := Session.poll_forget world attentive
    (deadline.slice (run.now world.recorded) Session.pollInterval) run.session
  have same : run.forget.now world = run.now world.recorded := rfl
  have session : run.forget.session = run.session.forget := rfl
  simp only [pass]
  rw [same, session, ← polled]
  rcases run.session.poll world.recorded attentive
    (deadline.slice (run.now world.recorded) Session.pollInterval) with ⟨_ | _, _⟩ <;> rfl

theorem drainUntil_forget (world : World σ) (attentive : Bool) (deadline : Deadline)
    (done : Condition) (more : Nat) (run : Run (σ × Journal)) :
    Prod.map id forget (drainUntil world.recorded attentive deadline done more run) =
      drainUntil world attentive deadline done more run.forget := by
  induction more using Nat.strongRecOn generalizing run with
  | ind more inductionHypothesis =>
      have forgotten := pass_forget world attentive deadline run
      rcases passed : run.pass world.recorded attentive deadline with ⟨_ | _, next⟩ <;>
        rw [passed] at forgotten
      · rw [drainUntil_of_failed passed, drainUntil_of_failed forgotten.symm]
        rfl
      · rw [drainUntil_of_passed passed, drainUntil_of_passed forgotten.symm]
        have processes : next.forget.session.processes = next.session.processes := rfl
        have now : next.forget.now world = next.now world.recorded := rfl
        simp only [processes, now]
        split_ifs
        · rfl
        · rfl
        · cases more with
          | zero => rfl
          | succ more => exact inductionHypothesis more (Nat.lt_succ_self more) next

theorem awaitMarker_forget (world : World σ) (scenario : Scenario) (more : Nat)
    (run : Run (σ × Journal)) :
    Prod.map id (Prod.map Session.forget id)
        (Handshake.await world.recorded (run.serverTarget world.recorded scenario) more run.session
          run.transcript) =
      Handshake.await world (run.forget.serverTarget world scenario) more run.forget.session
        run.forget.transcript := by
  unfold Handshake.await
  have same : run.forget.session.process? (run.forget.serverTarget world scenario).role =
      run.session.process? (run.serverTarget world.recorded scenario).role := rfl
  rw [same]
  cases run.session.process? (run.serverTarget world.recorded scenario).role with
  | none => rfl
  | some _ => exact Handshake.passes_forget world _ more run.session run.transcript

theorem awaitServer_forget (world : World σ) (scenario : Scenario) (more : Nat)
    (run : Run (σ × Journal)) :
    Prod.map id forget (run.awaitServer world.recorded scenario more) =
      run.forget.awaitServer world scenario more := by
  have deadline : (run.forget.serverTarget world scenario).deadline =
      (run.serverTarget world.recorded scenario).deadline := rfl
  simp only [awaitServer, ← awaitMarker_forget, deadline]
  rcases Handshake.await world.recorded (run.serverTarget world.recorded scenario) more run.session
    run.transcript with ⟨_ | state, _, _⟩
  · rfl
  · cases state <;> rfl

theorem awaitClient_forget (world : World σ) (scenario : Scenario) (more : Nat)
    (run : Run (σ × Journal)) :
    Prod.map id forget (run.awaitClient world.recorded scenario more) =
      run.forget.awaitClient world scenario more := by
  have now : run.forget.now world = run.now world.recorded := rfl
  simp only [awaitClient, ← drainUntil_forget, now]
  rcases drainUntil world.recorded true
    (.after (run.now world.recorded) scenario.timeouts.run) clientFinished more run with
    ⟨_ | _ | _, _⟩ <;> rfl

theorem launchClients_forget (world : World σ) (scenario : Scenario) (run : Run (σ × Journal)) :
    Prod.map id forget (run.launchClients world.recorded scenario) =
      run.forget.launchClients world scenario := by
  unfold launchClients
  rw [← launch_forget]
  rcases run.launch world.recorded scenario .client with ⟨_ | _, launching⟩
  · rfl
  · dsimp only [Prod.map_apply, id_eq]
    rw [← launch_forget]
    split <;> rfl

theorem drive_forget (world : World σ) (scenario : Scenario) (more : Nat)
    (run : Run (σ × Journal)) :
    Prod.map id forget (run.drive world.recorded scenario more) =
      run.forget.drive world scenario more := by
  have entered : ∀ (run : Run (σ × Journal)) (phase : Phase),
      run.forget.enter phase = (run.enter phase).forget := fun _ _ => rfl
  unfold drive
  rw [entered, ← launch_forget]
  rcases (run.enter .serverStarting).launch world.recorded scenario .server with ⟨_ | _, starting⟩
  · rfl
  dsimp only [Prod.map_apply, id_eq]
  rw [entered, ← awaitServer_forget]
  rcases (starting.enter .awaitingHandshake).awaitServer world.recorded scenario more with
    ⟨_ | _, waiting⟩
  · rfl
  dsimp only [Prod.map_apply, id_eq]
  rw [entered, ← launchClients_forget]
  rcases (waiting.enter .clientStarting).launchClients world.recorded scenario with
    ⟨_ | _, launching⟩
  · rfl
  · exact awaitClient_forget world scenario more (launching.enter .running)

theorem driven_forget (world : World σ) (scenario : Scenario) (more : Nat)
    (run : Run (σ × Journal)) :
    Prod.map id forget (run.driven world.recorded scenario more) =
      run.forget.driven world scenario more := by
  unfold driven
  rw [← drive_forget]
  rcases run.drive world.recorded scenario more with ⟨_ | _, _⟩ <;> rfl

theorem forLiving_forget {action : Nat → RoleProcess → σ × Journal → RoleProcess × (σ × Journal)}
    {plain : Nat → RoleProcess → σ → RoleProcess × σ}
    (same : ∀ index process outside,
      Prod.map id Prod.fst (action index process outside) = plain index process outside.1)
    (places : List (RoleProcess × Nat)) (outside : σ × Journal) :
    Prod.map id Prod.fst (forLiving action places outside) =
      forLiving plain places outside.1 := by
  induction places with
  | nil => rfl
  | cons place places inductionHypothesis =>
      obtain ⟨process, index⟩ := place
      rw [forLiving, forLiving, ← inductionHypothesis]
      dsimp only [Prod.map_fst, Prod.map_snd]
      split
      · rw [← same]
        rfl
      · rfl

theorem eachLiving_forget {action : Nat → RoleProcess → σ × Journal → RoleProcess × (σ × Journal)}
    {plain : Nat → RoleProcess → σ → RoleProcess × σ}
    (same : ∀ index process outside,
      Prod.map id Prod.fst (action index process outside) = plain index process outside.1)
    (run : Run (σ × Journal)) :
    (run.eachLiving action).forget = run.forget.eachLiving plain := by
  have each := forLiving_forget same run.session.processes.zipIdx run.session.outside
  have processes : run.forget.session.processes = run.session.processes := rfl
  have outside : run.forget.session.outside = run.session.outside.1 := rfl
  simp only [eachLiving, processes, outside, ← each]
  rfl

theorem terminateAll_forget (world : World σ) (run : Run (σ × Journal)) :
    (run.terminateAll world.recorded).forget = run.forget.terminateAll world := by
  refine eachLiving_forget (fun index process outside => ?_) run
  exact congrArg Prod.snd (Session.terminateProcess_forget world index process outside)

theorem killAll_forget (world : World σ) (run : Run (σ × Journal)) :
    (run.killAll world.recorded).forget = run.forget.killAll world := by
  refine eachLiving_forget (fun index process outside => ?_) run
  exact congrArg Prod.snd (Session.killProcess_forget world index process outside)

theorem drainUntilEnded_forget (world : World σ) (deadline : Deadline) (more : Nat)
    (run : Run (σ × Journal)) :
    Prod.map id forget (run.drainUntilEnded world.recorded deadline more) =
      run.forget.drainUntilEnded world deadline more := by
  unfold drainUntilEnded
  rw [← drainUntil_forget]
  rcases drainUntil world.recorded false deadline allEnded more run with ⟨_ | _, waited⟩
  · let paused : Session (σ × Journal) := { waited.session with
      outside := world.recorded.pause (deadline.remaining (waited.now world.recorded))
        waited.session.outside }
    have refreshed := Session.refreshExits_forget world paused
    have same : ({ waited.forget.session with
        outside := world.pause (deadline.remaining (waited.forget.now world))
          waited.forget.session.outside } : Session σ) = paused.forget := rfl
    simp only [Prod.map_apply, id_eq, same, ← refreshed]
    rfl
  · rfl

theorem refresh_forget (world : World σ) (run : Run (σ × Journal)) :
    (run.refresh world.recorded).forget = run.forget.refresh world := by
  have refreshed := Session.refreshExits_forget world run.session
  have same : run.forget.session = run.session.forget := rfl
  rw [refresh, refresh, same, ← refreshed]
  rfl

theorem requestStops_forget (world : World σ) (scenario : Scenario) (more : Nat)
    (run : Run (σ × Journal)) :
    Prod.map id forget (run.requestStops world.recorded scenario more) =
      run.forget.requestStops world scenario more := by
  unfold requestStops
  rw [← terminateAll_forget]
  exact drainUntilEnded_forget world _ more _

theorem killStragglers_forget (world : World σ) (more : Nat) (run : Run (σ × Journal)) :
    Prod.map id forget (run.killStragglers world.recorded more) =
      run.forget.killStragglers world more := by
  unfold killStragglers
  rw [← killAll_forget]
  exact drainUntilEnded_forget world _ more _

theorem endAll_forget (world : World σ) (scenario : Scenario) (more : Nat)
    (run : Run (σ × Journal)) :
    Prod.map id forget (run.endAll world.recorded scenario more) =
      run.forget.endAll world scenario more := by
  unfold endAll
  rw [← refresh_forget]
  generalize run.refresh world.recorded = refreshed
  have processes : refreshed.forget.session.processes = refreshed.session.processes := rfl
  have now : refreshed.forget.now world = refreshed.now world.recorded := rfl
  simp only [processes, now, ← requestStops_forget]
  split
  · rfl
  · rcases refreshed.requestStops world.recorded scenario more with ⟨_ | _, waited⟩
    · exact killStragglers_forget world more waited
    · rfl

theorem stopAll_forget (world : World σ) (scenario : Scenario) (more : Nat)
    (run : Run (σ × Journal)) :
    (run.stopAll world.recorded scenario more).forget = run.forget.stopAll world scenario more := by
  unfold stopAll
  rw [← endAll_forget]
  rcases run.endAll world.recorded scenario more with ⟨_ | _, _⟩ <;> rfl

theorem windDown_forget (world : World σ) (scenario : Scenario) (more : Nat) (wentWell : Bool)
    (run : Run (σ × Journal)) :
    (run.windDown world.recorded scenario more wentWell).forget =
      run.forget.windDown world scenario more wentWell := by
  cases wentWell
  · rfl
  · have alive : ((run.enter .teardown).forget.process? .server) =
        (run.enter .teardown).process? .server := rfl
    have entered : run.forget.enter .teardown = (run.enter .teardown).forget := rfl
    have now : (run.enter .teardown).forget.now world =
        (run.enter .teardown).now world.recorded := rfl
    simp only [windDown, awaitServerExit, entered, alive, now, if_true, ← drainUntil_forget]
    split <;> rfl

theorem collectRest_forget (world : World σ) (run : Run (σ × Journal)) :
    (run.collectRest world.recorded).forget = run.forget.collectRest world := by
  have drained := Session.drain_forget world run.session
  have same : run.forget.session = run.session.forget := rfl
  simp only [collectRest, same, ← drained]
  rfl

theorem reapEach_forget (world : World σ) (places : List (RoleProcess × Nat))
    (outside : σ × Journal) :
    (reapEach world.recorded places outside).1 = reapEach world places outside.1 := by
  induction places generalizing outside with
  | nil => rfl
  | cons place places inductionHypothesis =>
      rw [reapEach, reapEach, inductionHypothesis, Session.reapGroup_forget]

theorem reapGroups_forget (world : World σ) (run : Run (σ × Journal)) :
    (run.reapGroups world.recorded).forget = run.forget.reapGroups world := by
  have outside := reapEach_forget world run.session.processes.zipIdx run.session.outside
  simp only [reapGroups, forget, Session.forget, outside]

theorem teardown_forget (world : World σ) (scenario : Scenario) (more : Nat) (wentWell : Bool)
    (run : Run (σ × Journal)) :
    (run.teardown world.recorded scenario more wentWell).forget =
      run.forget.teardown world scenario more wentWell := by
  unfold teardown
  rw [reapGroups_forget, collectRest_forget, stopAll_forget, windDown_forget]

theorem settle_forget (world : World σ) (scenario : Scenario) (more : Nat)
    (run : Run (σ × Journal)) :
    (run.settle world.recorded scenario more).forget = run.forget.settle world scenario more := by
  unfold settle
  rw [← driven_forget]
  exact teardown_forget world scenario more _ _

/-- A run that is recorded from its start; what it does is in its journal. -/
def recorded (world : World σ) (scenario : Scenario) (more : Nat) (transcript : Transcript)
    (outside : σ) : RunResult × Run (σ × Journal) :=
  complete world.recorded scenario more (.start world.recorded transcript (outside, []))

end Run

end Rendezvous
