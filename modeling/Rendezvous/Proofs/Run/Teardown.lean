import Rendezvous.Proofs.Run.Course

/-!
A teardown and a whole run as sequences of changes.

A teardown watches the processes and sends them signals.  It writes nothing but
its phase and the survivors into the books, so a run can be followed from its
start through the drive and the teardown to its verdict.
-/

set_option autoImplicit false

namespace Rendezvous

namespace Run

variable {σ : Type}

/-- One thing that a teardown does to the processes. -/
inductive Ending : Run (σ × Journal) → Run (σ × Journal) → Prop where
  | step {before after : Run (σ × Journal)} (step : Step before after) : Ending before after
  | signal {run : Run (σ × Journal)} {session : Session (σ × Journal)}
      (signal : Session.Signal run.session session) : Ending run { run with session }

abbrev Endings : Run (σ × Journal) → Run (σ × Journal) → Prop :=
  Relation.ReflTransGen Ending

theorem Steps.endings {before after : Run (σ × Journal)} (steps : Steps before after) :
    Endings before after :=
  steps.lift id fun _ _ => .step

theorem endings_of_signals {run : Run (σ × Journal)} {session : Session (σ × Journal)}
    (signals : Session.Signals run.session session) : Endings run { run with session } :=
  signals.lift (fun session => { run with session }) fun _ _ signal => .signal signal

theorem Endings.reaches {before after : Run (σ × Journal)} (endings : Endings before after)
    (scenario : Scenario) : Reaches scenario before after := by
  refine endings.lift id fun _ _ ending => ?_
  cases ending with
  | step step => exact .advance (.step step)
  | signal signal => exact .signal signal

theorem Endings.frame {before after : Run (σ × Journal)} (endings : Endings before after) :
    before.Frame after := by
  induction endings with
  | refl => exact .refl before
  | tail _ ending inductionHypothesis =>
      refine inductionHypothesis.trans ?_
      cases ending with
      | step step => exact step.frame
      | signal signal => exact frame_of_signals (.single signal)

theorem requestStops_endings (world : World σ) (scenario : Scenario) (more : Nat)
    (run : Run (σ × Journal)) :
    Endings run (run.requestStops world.recorded scenario more).2 :=
  (endings_of_signals (terminateAll_signals world run)).trans
    (drainUntilEnded_steps world _ more _).endings

theorem killStragglers_endings (world : World σ) (more : Nat) (run : Run (σ × Journal)) :
    Endings run (run.killStragglers world.recorded more).2 :=
  (endings_of_signals (killAll_signals world run)).trans
    (drainUntilEnded_steps world _ more _).endings

/-- How the processes are ended: all had ended, or they did when asked to, or they are killed. -/
theorem endAll_cases (world : World σ) (scenario : Scenario) (more : Nat) (run : Run σ) :
    let begun := run.refresh world
    let asked := begun.requestStops world scenario more
    (begun.session.living = [] ∧ run.endAll world scenario more = (true, begun)) ∨
      (asked.1 = true ∧ run.endAll world scenario more = (true, asked.2)) ∨
      run.endAll world scenario more = asked.2.killStragglers world more := by
  unfold endAll
  dsimp only
  split
  · next ended => exact Or.inl ⟨(allEnded_iff _ _).mp ended, rfl⟩
  · rcases (run.refresh world).requestStops world scenario more with ⟨_ | _, after⟩
    · exact Or.inr (Or.inr rfl)
    · exact Or.inr (Or.inl ⟨rfl, rfl⟩)

theorem refresh_endAll_endings (world : World σ) (scenario : Scenario) (more : Nat)
    (run : Run (σ × Journal)) :
    Endings (run.refresh world.recorded) (run.endAll world.recorded scenario more).2 := by
  have asked := requestStops_endings world scenario more (run.refresh world.recorded)
  rcases endAll_cases world.recorded scenario more run with
    ⟨-, done⟩ | ⟨-, done⟩ | done <;> rw [done]
  · exact asked
  · exact asked.trans (killStragglers_endings world more _)

theorem endAll_endings (world : World σ) (scenario : Scenario) (more : Nat)
    (run : Run (σ × Journal)) : Endings run (run.endAll world.recorded scenario more).2 :=
  (refresh_steps world run).endings.trans (refresh_endAll_endings world scenario more run)

theorem windDown_steps (world : World σ) (scenario : Scenario) (more : Nat) (wentWell : Bool)
    (run : Run (σ × Journal)) :
    Steps (run.enter .teardown) (run.windDown world.recorded scenario more wentWell) := by
  cases wentWell
  · exact .refl
  · exact awaitServerExit_steps world scenario more (run.enter .teardown)

/-- What comes after the processes were stopped: the rest of the output, and what was left behind. -/
theorem cleanUp_endings (world : World σ) (run : Run (σ × Journal)) :
    Endings run ((run.collectRest world.recorded).reapGroups world.recorded) :=
  (collectRest_steps world run).endings.trans (endings_of_signals (reapGroups_signals world _))

theorem stopAll_reaches (world : World σ) (scenario : Scenario) (more : Nat)
    (run : Run (σ × Journal)) :
    Reaches scenario run (run.stopAll world.recorded scenario more) := by
  have ended := (endAll_endings world scenario more run).reaches scenario
  unfold stopAll
  rcases stopped : run.endAll world.recorded scenario more with ⟨_ | _, after⟩ <;>
    rw [stopped] at ended
  · exact ended.tail (.survivors after)
  · exact ended

theorem teardown_reaches (world : World σ) (scenario : Scenario) (more : Nat) (wentWell : Bool)
    (run : Run (σ × Journal)) :
    Reaches scenario run (run.teardown world.recorded scenario more wentWell) :=
  (((Relation.ReflTransGen.single (Change.advance (enter_advance scenario run .teardown))).trans
    ((windDown_steps world scenario more wentWell run).reaches scenario)).trans
    (stopAll_reaches world scenario more _)).trans ((cleanUp_endings world _).reaches scenario)

/-- At most the failure that has ended a drive is noted between the drive and the teardown. -/
theorem drive_driven_advances (world : World σ) (scenario : Scenario) (more : Nat)
    (run : Run (σ × Journal)) :
    Advances scenario (run.drive world.recorded scenario more).2
      (run.driven world.recorded scenario more).2 := by
  unfold driven
  rcases run.drive world.recorded scenario more with ⟨cause | _, after⟩
  · exact .single (.note after _ _ (after.recordError scenario cause).failures)
  · exact .refl

theorem driven_advances (world : World σ) (scenario : Scenario) (more : Nat)
    {run : Run (σ × Journal)} (stands : run.Stands [] false []) :
    Advances scenario run (run.driven world.recorded scenario more).2 :=
  (drive_advances world scenario more stands).trans (drive_driven_advances world scenario more run)

theorem drive_settle_reaches (world : World σ) (scenario : Scenario) (more : Nat)
    (run : Run (σ × Journal)) :
    Reaches scenario (run.drive world.recorded scenario more).2
      (run.settle world.recorded scenario more) := by
  have noted := (drive_driven_advances world scenario more run).reaches
  unfold settle
  generalize run.driven world.recorded scenario more = driven at noted
  obtain ⟨wentWell, driven⟩ := driven
  exact noted.trans (teardown_reaches world scenario more wentWell driven)

theorem settle_reaches (world : World σ) (scenario : Scenario) (more : Nat)
    {run : Run (σ × Journal)} (stands : run.Stands [] false []) :
    Reaches scenario run (run.settle world.recorded scenario more) :=
  (drive_advances world scenario more stands).reaches.trans
    (drive_settle_reaches world scenario more run)

/-- Of the books of a run, stopping its processes only changes the survivors. -/
theorem stopAll_frame (world : World σ) (scenario : Scenario) (more : Nat)
    (run : Run (σ × Journal)) :
    run.Frame { run.stopAll world.recorded scenario more with
      teardownFailures := run.teardownFailures } := by
  have frame := (endAll_endings world scenario more run).frame
  unfold stopAll
  generalize run.endAll world.recorded scenario more = ended at frame
  obtain ⟨_ | _, after⟩ := ended <;>
    exact ⟨⟨frame.phases, frame.handshakeSatisfied, frame.failures, rfl⟩, frame.processes⟩

/-- A run after its teardown: of its books, only the phase and the survivors are new. -/
structure TornDown (before after : Run σ) : Prop where
  phases : after.phases = before.phases ++ [.teardown]
  handshakeSatisfied : after.handshakeSatisfied = before.handshakeSatisfied
  failures : after.failures = before.failures
  processes : RoleProcess.AllContinue before.session.processes after.session.processes

theorem teardown_tornDown (world : World σ) (scenario : Scenario) (more : Nat) (wentWell : Bool)
    (run : Run (σ × Journal)) :
    run.TornDown (run.teardown world.recorded scenario more wentWell) := by
  have waited := (windDown_steps world scenario more wentWell run).frame
  have stopped := stopAll_frame world scenario more
    (run.windDown world.recorded scenario more wentWell)
  have cleaned := (cleanUp_endings world
    ((run.windDown world.recorded scenario more wentWell).stopAll world.recorded scenario
      more)).frame
  exact ⟨(cleaned.phases.trans stopped.phases).trans waited.phases,
    (cleaned.handshakeSatisfied.trans stopped.handshakeSatisfied).trans waited.handshakeSatisfied,
    (cleaned.failures.trans stopped.failures).trans waited.failures,
    (waited.processes.trans stopped.processes).trans cleaned.processes⟩

theorem settle_roles (world : World σ) (scenario : Scenario) (more : Nat)
    (run : Run (σ × Journal)) :
    (run.settle world.recorded scenario more).roles =
      (run.drive world.recorded scenario more).2.roles := by
  have same : (run.driven world.recorded scenario more).2.roles =
      (run.drive world.recorded scenario more).2.roles := by
    unfold driven
    rcases run.drive world.recorded scenario more with ⟨_ | _, after⟩ <;> rfl
  unfold settle
  generalize run.driven world.recorded scenario more = driven at same
  obtain ⟨wentWell, driven⟩ := driven
  exact (teardown_tornDown world scenario more wentWell driven).processes.roles.trans same

theorem driven_course (world : World σ) (scenario : Scenario) (more : Nat)
    {run : Run (σ × Journal)} (stands : run.Stands [] false []) :
    ∃ satisfied phases roles,
      Course scenario (run.drive world.recorded scenario more).1
          (run.markerWait world.recorded scenario more) satisfied phases roles ∧
        (run.driven world.recorded scenario more).2.phases = phases ∧
        (run.driven world.recorded scenario more).2.handshakeSatisfied = satisfied ∧
        (run.driven world.recorded scenario more).2.roles = roles ∧
        ((run.driven world.recorded scenario more).2.failures = [] ↔
          (run.drive world.recorded scenario more).1 = .ok ()) := by
  obtain ⟨satisfied, phases, roles, after, course⟩ := drive_course world scenario more stands
  refine ⟨satisfied, phases, roles, course, ?_⟩
  unfold driven
  generalize run.drive world.recorded scenario more = driven at after
  obtain ⟨cause | _, ended⟩ := driven
  · refine ⟨after.phases, after.handshakeSatisfied, after.roles, ?_⟩
    simp [recordError]
  · exact ⟨after.phases, after.handshakeSatisfied, after.roles, iff_of_true after.failures rfl⟩

/-- A run that is torn down stands where its drive ended. -/
theorem settle_course (world : World σ) (scenario : Scenario) (more : Nat)
    {run : Run (σ × Journal)} (stands : run.Stands [] false []) :
    ∃ satisfied phases roles,
      Course scenario (run.drive world.recorded scenario more).1
          (run.markerWait world.recorded scenario more) satisfied phases roles ∧
        (run.settle world.recorded scenario more).phases = phases ++ [.teardown] ∧
        (run.settle world.recorded scenario more).handshakeSatisfied = satisfied ∧
        (run.settle world.recorded scenario more).roles = roles ∧
        ((run.settle world.recorded scenario more).failures = [] ↔
          (run.drive world.recorded scenario more).1 = .ok ()) := by
  obtain ⟨satisfied, phases, roles, course, entered, found, started, failures⟩ :=
    driven_course world scenario more stands
  unfold settle
  generalize run.driven world.recorded scenario more = driven at entered found started failures
  have torn := teardown_tornDown world scenario more driven.1 driven.2
  refine ⟨satisfied, phases, roles, course, ?_, torn.handshakeSatisfied.trans found,
    torn.processes.roles.trans started, ?_⟩
  · rw [← entered]
    exact torn.phases
  · rw [← failures, ← torn.failures]

end Run

end Rendezvous
