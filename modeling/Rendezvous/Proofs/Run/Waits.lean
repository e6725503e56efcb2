import Rendezvous.Proofs.Run.Forgotten
import Rendezvous.Proofs.Run.Stops

/-!
The waits of a run, pass by pass.

A wait makes some passes and ends with the last of them: because that failed,
because the condition held, because the time was up, or because no more passes
were allowed.  While no check of a process fails, only an attentive pass can
fail.
-/

set_option autoImplicit false

namespace Rendezvous

variable {σ : Type}

/-- A journal whose checks did not fail began with checks that did not fail. -/
theorem Journal.Answered.earlier {first second : Journal} (answered : second.Answered)
    (grown : first <+: second) : first.Answered :=
  fun process cause membership => answered process cause (grown.subset membership)

namespace Session

theorem checkExit_failed {world : World σ} {index : Nat} {process : RoleProcess}
    {outside after : σ × Journal} {cause : Error}
    (failed : checkExit world.recorded index process outside = (.error cause, after)) :
    ¬ Journal.Answered after.2 := by
  by_cases alive : process.isAlive = true
  · simp only [checkExit, if_pos alive, World.recorded_status] at failed
    rcases asked : world.status index outside.1 with ⟨refusal | _ | _, later⟩ <;>
      rw [asked] at failed <;> cases failed
    exact fun answered => answered index refusal (by simp)
  · rw [checkExit, if_neg alive] at failed
    cases failed

theorem checkExitsFrom_failed {world : World σ} {index : Nat} {processes later : List RoleProcess}
    {outside after : σ × Journal} {cause : Error}
    (failed : checkExitsFrom world.recorded index processes outside =
      (.error cause, later, after)) :
    ¬ Journal.Answered after.2 := by
  induction processes generalizing index later outside with
  | nil => cases failed
  | cons process rest inductionHypothesis =>
      unfold checkExitsFrom at failed
      rcases checked : checkExit world.recorded index process outside with ⟨_ | _, next⟩ <;>
        rw [checked] at failed
      · cases failed
        exact checkExit_failed checked
      · rcases others : checkExitsFrom world.recorded (index + 1) rest next with
          ⟨outcome, changed, last⟩
        simp only [others, Prod.mk.injEq] at failed
        obtain ⟨rfl, -, rfl⟩ := failed
        exact inductionHypothesis others

theorem afterWait_patient (world : World σ) (wake : Wake) (session : Session σ) :
    (session.afterWait world false wake).1 = .ok () := by
  cases wake <;> rfl

/-- A pass that does not care for the user fails only when a check does. -/
theorem poll_failed {world : World σ} {budget : Duration}
    {session after : Session (σ × Journal)} {cause : Error}
    (failed : session.poll world.recorded false budget = (.error cause, after)) :
    ¬ after.journal.Answered := by
  unfold poll at failed
  rcases checked : session.checkExits world.recorded with ⟨_ | _, later⟩ <;>
    rw [checked] at failed
  · cases failed
    unfold checkExits at checked
    rcases asked : checkExitsFrom world.recorded 0 session.processes session.outside with
      ⟨outcome, processes, outside⟩
    simp only [asked, Prod.mk.injEq] at checked
    obtain ⟨rfl, rfl⟩ := checked
    exact checkExitsFrom_failed asked
  · have went := congrArg Prod.fst failed
    rw [afterWait_patient] at went
    cases went

end Session

namespace Run

theorem pass_failed {world : World σ} {deadline : Deadline} {run : Run (σ × Journal)}
    {cause : Error} (failed : (run.pass world.recorded false deadline).1 = .error cause) :
    ¬ (run.pass world.recorded false deadline).2.journal.Answered := by
  unfold pass at failed ⊢
  dsimp only at failed ⊢
  rcases polled : run.session.poll world.recorded false
    (deadline.slice (run.now world.recorded) Session.pollInterval) with ⟨_ | _, session⟩ <;>
    rw [polled] at failed
  · exact Session.poll_failed polled
  · cases failed

/-- A run after some passes of a wait, whatever becomes of them. -/
def afterPasses (world : World σ) (attentive : Bool) (deadline : Deadline) : Nat → Run σ → Run σ
  | 0, run => run
  | passes + 1, run => afterPasses world attentive deadline passes (run.pass world attentive deadline).2

theorem afterPasses_succ (world : World σ) (attentive : Bool) (deadline : Deadline)
    (passes : Nat) (run : Run σ) :
    run.afterPasses world attentive deadline (passes + 1) =
      ((run.afterPasses world attentive deadline passes).pass world attentive deadline).2 := by
  induction passes generalizing run with
  | zero => rfl
  | succ passes inductionHypothesis => exact inductionHypothesis _

theorem afterPasses_forget (world : World σ) (attentive : Bool) (deadline : Deadline)
    (passes : Nat) (run : Run (σ × Journal)) :
    (run.afterPasses world.recorded attentive deadline passes).forget =
      run.forget.afterPasses world attentive deadline passes := by
  induction passes generalizing run with
  | zero => rfl
  | succ passes inductionHypothesis =>
      rw [afterPasses, afterPasses, inductionHypothesis, ← pass_forget]
      rfl

/-- A wait that ended with the last of so many passes after the first one. -/
structure Waited (world : World σ) (attentive : Bool) (deadline : Deadline) (done : Condition)
    (more : Nat) (run : Run σ) (passes : Nat) (outcome : Except Error Bool) (after : Run σ) :
    Prop where
  within : passes ≤ more
  reached : after = run.afterPasses world attentive deadline (passes + 1)
  failed : ∀ cause, outcome = .error cause →
    ((run.afterPasses world attentive deadline passes).pass world attentive deadline).1 =
      .error cause
  held : outcome = .ok true → done after.session.processes (after.now world) = true
  gaveUp : outcome = .ok false → done after.session.processes (after.now world) = false ∧
    (deadline.isExpired (after.now world) = true ∨ passes = more)

theorem drainUntil_waited (world : World σ) (attentive : Bool) (deadline : Deadline)
    (done : Condition) (more : Nat) (run : Run σ) :
    ∃ passes, Waited world attentive deadline done more run passes
      (drainUntil world attentive deadline done more run).1
      (drainUntil world attentive deadline done more run).2 := by
  induction more using Nat.strongRecOn generalizing run with
  | ind more inductionHypothesis =>
      rcases passed : run.pass world attentive deadline with ⟨cause | _, next⟩
      · rw [drainUntil_of_failed passed]
        refine ⟨0, Nat.zero_le more, ?_, ?_, nofun, nofun⟩
        · exact (congrArg Prod.snd passed).symm
        · rintro _ ⟨⟩
          exact congrArg Prod.fst passed
      · have first : run.afterPasses world attentive deadline 1 = next :=
          congrArg Prod.snd passed
        rw [drainUntil_of_passed passed]
        split
        · next held =>
            exact ⟨0, Nat.zero_le more, first.symm, nofun, fun _ => held, nofun⟩
        · next goesOn =>
            have unmet := Bool.eq_false_iff.mpr goesOn
            split
            · next expired =>
                exact ⟨0, Nat.zero_le more, first.symm, nofun, nofun,
                  fun _ => ⟨unmet, Or.inl expired⟩⟩
            · cases more with
              | zero =>
                  exact ⟨0, Nat.le_refl 0, first.symm, nofun, nofun, fun _ => ⟨unmet, Or.inr rfl⟩⟩
              | succ more =>
                  obtain ⟨passes, waited⟩ :=
                    inductionHypothesis more (Nat.lt_succ_self more) next
                  have later : ∀ count, run.afterPasses world attentive deadline (count + 1) =
                      next.afterPasses world attentive deadline count := by
                    intro count
                    rw [← first]
                    rfl
                  refine ⟨passes + 1, Nat.succ_le_succ waited.within, ?_, ?_, waited.held, ?_⟩
                  · rw [later]
                    exact waited.reached
                  · rw [later]
                    exact waited.failed
                  · intro ended
                    obtain ⟨unmetLater, reason⟩ := waited.gaveUp ended
                    exact ⟨unmetLater, reason.imp_right (congrArg (· + 1))⟩

theorem drainUntil_failed {world : World σ} {deadline : Deadline} {done : Condition} {more : Nat}
    {run after : Run (σ × Journal)} {cause : Error}
    (failed : drainUntil world.recorded false deadline done more run = (.error cause, after)) :
    ¬ after.journal.Answered := by
  obtain ⟨passes, waited⟩ := drainUntil_waited world.recorded false deadline done more run
  rw [failed] at waited
  have reached : after = run.afterPasses world.recorded false deadline (passes + 1) :=
    waited.reached
  rw [reached, afterPasses_succ]
  exact pass_failed (waited.failed cause rfl)

/-- Who is alive after some passes was alive before. -/
theorem living_afterPasses_subset (world : World σ) (deadline : Deadline) {few many : Nat}
    (fewer : few ≤ many) (run : Run (σ × Journal)) :
    (run.afterPasses world.recorded false deadline many).session.living ⊆
      (run.afterPasses world.recorded false deadline few).session.living := by
  induction fewer with
  | refl => exact List.Subset.refl _
  | step _ inductionHypothesis =>
      refine List.Subset.trans ?_ inductionHypothesis
      rw [afterPasses_succ]
      exact (pass_steps world false deadline _).frame.living_subset

theorem living_forget (run : Run (σ × Journal)) :
    run.forget.session.living = run.session.living :=
  rfl

theorem teardownFailures_forget (run : Run (σ × Journal)) :
    run.forget.teardownFailures = run.teardownFailures :=
  rfl

theorem drainUntilEnded_living {world : World σ} {deadline : Deadline} {more : Nat}
    {run : Run σ} (ended : (run.drainUntilEnded world deadline more).1 = true) :
    (run.drainUntilEnded world deadline more).2.session.living = [] := by
  obtain ⟨passes, waited⟩ := drainUntil_waited world false deadline allEnded more run
  unfold drainUntilEnded at ended ⊢
  rcases drained : drainUntil world false deadline allEnded more run with ⟨_ | held, after⟩ <;>
    rw [drained] at ended waited
  · dsimp only at ended ⊢
    exact (allEnded_iff _ _).mp ended
  · exact (allEnded_iff after.session _).mp (waited.held (congrArg Except.ok ended))

/-- If all checks were answered, a wait for the end of all is a wait like any other. -/
theorem drainUntilEnded_of_answered {world : World σ} {deadline : Deadline} {more : Nat}
    {run : Run (σ × Journal)}
    (answered : (run.drainUntilEnded world.recorded deadline more).2.journal.Answered) :
    ∃ ended, drainUntil world.recorded false deadline allEnded more run =
      (.ok ended, (run.drainUntilEnded world.recorded deadline more).2) ∧
        (run.drainUntilEnded world.recorded deadline more).1 = ended := by
  unfold drainUntilEnded at answered ⊢
  rcases drained : drainUntil world.recorded false deadline allEnded more run with
    ⟨cause | ended, after⟩ <;> rw [drained] at answered
  · have paused := Session.pause_moves world (deadline.remaining (after.now world.recorded))
      after.session
    have refreshed := steps_of_moves (paused.trans (Session.refreshExits_moves world _))
    obtain ⟨later, grown, -⟩ := refreshed.journal
    have failing := drainUntil_failed drained
    exact absurd (answered.earlier ⟨later, grown.symm⟩) failing
  · exact ⟨ended, rfl, rfl⟩

end Run

end Rendezvous
