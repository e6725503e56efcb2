import Rendezvous.Proofs.Deadlines
import Rendezvous.Proofs.Run.Waits
import Rendezvous.Proofs.Session.Later

/-!
What is found of killed processes.

After its time a killed process has ended, and the next check finds that.  A wait
makes its last check before it waits for the last time.  So it may give up on a
process that ends in between, but not on one that has ended before its last pass.
-/

set_option autoImplicit false

namespace Rendezvous

variable {σ : Type}

namespace Session

/-- Whoever is not known to have ended has ended all the same. -/
def Over (world : World σ) (session : Session σ) : Prop :=
  ∀ index ∈ session.living, world.Gone index session.outside

theorem checkExit_ended {world : World σ} {index : Nat} {process checked : RoleProcess}
    {outside after : σ} (gone : process.isAlive = true → world.Gone index outside)
    (answered : checkExit world index process outside = (.ok checked, after)) :
    checked.isAlive = false := by
  unfold checkExit at answered
  split at answered
  · next alive =>
      have running := gone alive outside .refl
      generalize world.status index outside = status at running answered
      obtain ⟨_ | _ | status, later⟩ := status
      · cases answered
      · exact absurd rfl running
      · cases answered
        have unknown : process.exit = none := Option.isNone_iff_eq_none.mp alive
        simp [RoleProcess.noticeExit, RoleProcess.isAlive, unknown]
  · next ended =>
      cases answered
      exact Bool.eq_false_iff.mpr ended

theorem checkExitsFrom_ended {world : World σ} {first : Nat} {processes checked : List RoleProcess}
    {outside after : σ} (gone : ∀ index ∈ livingFrom first processes, world.Gone index outside)
    (answered : checkExitsFrom world first processes outside = (.ok (), checked, after)) :
    ∀ process ∈ checked, process.isAlive = false := by
  induction processes generalizing first checked outside with
  | nil =>
      cases answered
      simp
  | cons process rest inductionHypothesis =>
      rw [livingFrom_cons] at gone
      have asked := checkExit_later world first process outside
      unfold checkExitsFrom at answered
      rcases one : checkExit world first process outside with ⟨_ | ended, next⟩ <;>
        rw [one] at answered asked
      · cases answered
      · rcases others : checkExitsFrom world (first + 1) rest next with ⟨outcome, later, last⟩
        simp only [others, Prod.mk.injEq] at answered
        obtain ⟨rfl, rfl, rfl⟩ := answered
        intro checked membership
        rcases List.mem_cons.mp membership with rfl | elsewhere
        · exact checkExit_ended (fun alive => gone first (by simp [alive])) one
        · refine inductionHypothesis (fun index alive => ?_) others checked elsewhere
          exact (gone index (List.mem_append_right _ alive)).later asked

/-- A pass with answers finds whoever has ended. -/
theorem poll_living {world : World σ} {budget : Duration} {session : Session (σ × Journal)}
    (gone : session.Over world.recorded)
    (answered : (session.poll world.recorded false budget).2.journal.Answered) :
    (session.poll world.recorded false budget).2.living = [] := by
  rcases polled : session.poll world.recorded false budget with ⟨_ | ⟨⟩, after⟩ <;>
    rw [polled] at answered
  · exact absurd answered (poll_failed polled)
  · unfold poll at polled
    rcases checked : session.checkExits world.recorded with ⟨_ | ⟨⟩, later⟩ <;>
      rw [checked] at polled
    · cases polled
    · have waited := waited_moves world false budget later
      have same := congrArg Prod.snd polled
      dsimp only at same waited
      rw [same] at waited
      have none : later.living = [] := by
        unfold checkExits at checked
        rcases asked : checkExitsFrom world.recorded 0 session.processes session.outside with
          ⟨outcome, processes, outside⟩
        simp only [asked, Prod.mk.injEq] at checked
        obtain ⟨rfl, rfl⟩ := checked
        exact living_eq_nil_iff.mpr (checkExitsFrom_ended gone asked)
      have fewer := living_subset (Moves.continues waited)
      rw [none] at fewer
      exact List.subset_nil.mp fewer

theorem killProcess_endsBy {world : World σ} {length : Duration} (kills : world.KillsWithin length)
    (clock : world.Monotonic) (index : Nat) {process : RoleProcess}
    (alive : process.isAlive = true) (outside : σ) :
    let killed := (killProcess world index process outside).2.2
    world.EndsBy index ⟨(world.now killed).nanos + length.nanos⟩ killed := by
  have arrived : ignoreMissing (world.signalGroup index .kill outside).1 = .ok () := by
    cases sent : (world.signalGroup index .kill outside).1 with
    | ok => rfl
    | error cause => simp [ignoreMissing, kills.arrives index outside cause sent]
  have passed := clock _ _ (.killLeader index (world.signalGroup index .kill outside).2)
  simp only [killProcess, if_pos alive, arrived]
  exact (kills.ends index _).delay (Nat.add_le_add_right passed length.nanos)

end Session

namespace Run

theorem forLiving_endsBy {world : World σ} {length : Duration} (kills : world.KillsWithin length)
    (clock : world.Monotonic) (first : Nat) (processes : List RoleProcess) (outside : σ) :
    let killed := (forLiving (fun index process outside =>
      (Session.killProcess world index process outside).2) (processes.zipIdx first) outside).2
    ∀ index ∈ Session.livingFrom first processes,
      world.EndsBy index ⟨(world.now killed).nanos + length.nanos⟩ killed := by
  induction processes generalizing first with
  | nil => exact fun index membership => absurd membership List.not_mem_nil
  | cons process rest inductionHypothesis =>
      have others := inductionHypothesis (first + 1)
      rw [List.zipIdx_cons, forLiving, Session.livingFrom_cons]
      generalize forLiving (fun index process outside =>
        (Session.killProcess world index process outside).2) (rest.zipIdx (first + 1)) outside =
          killed at others
      intro ended index membership
      by_cases alive : process.isAlive = true
      · have goesOn := Session.killProcess_later world first process killed.2
        simp only [ended, if_pos alive] at membership ⊢
        rcases List.mem_append.mp membership with same | elsewhere
        · obtain rfl := List.mem_singleton.mp same
          exact Session.killProcess_endsBy kills clock index alive killed.2
        · exact ((others index elsewhere).later goesOn).delay
            (Nat.add_le_add_right (clock.later goesOn) length.nanos)
      · simp only [ended, if_neg alive] at membership ⊢
        exact others index membership

/-- Whoever is killed has some time to end. -/
theorem killAll_endsBy {world : World σ} {length : Duration} (kills : world.KillsWithin length)
    (clock : world.Monotonic) (run : Run σ) :
    ∀ index ∈ run.session.living,
      world.EndsBy index ⟨((run.killAll world).now world).nanos + length.nanos⟩
        (run.killAll world).session.outside :=
  forLiving_endsBy kills clock 0 run.session.processes run.session.outside

theorem pass_later (world : World σ) (attentive : Bool) (deadline : Deadline) (run : Run σ) :
    world.Later run.session.outside (run.pass world attentive deadline).2.session.outside := by
  have polled := Session.poll_later world attentive
    (deadline.slice (run.now world) Session.pollInterval) run.session
  unfold pass
  dsimp only
  generalize run.session.poll world attentive
    (deadline.slice (run.now world) Session.pollInterval) = outcome at polled
  obtain ⟨_ | ⟨⟩, session⟩ := outcome <;> exact polled

theorem afterPasses_later (world : World σ) (attentive : Bool) (deadline : Deadline)
    {few many : Nat} (fewer : few ≤ many) (run : Run σ) :
    world.Later (run.afterPasses world attentive deadline few).session.outside
      (run.afterPasses world attentive deadline many).session.outside := by
  induction fewer with
  | refl => exact .refl
  | step _ inductionHypothesis =>
      rw [afterPasses_succ]
      exact inductionHypothesis.trans (pass_later world attentive deadline _)

section

variable (world : World σ) (more : Nat)

/-- The passes that a wait may make are enough for it: one ends it, or finds all ended. -/
def EnoughPasses (deadline : Deadline) (run : Run σ) : Prop :=
  ∃ passes ≤ more,
    let after := run.afterPasses world false deadline (passes + 1)
    deadline.isExpired (after.now world) = true ∨ after.session.living = []

/-- A run whose living processes were killed, after so many passes of the wait for their end. -/
def afterKill (passes : Nat) (run : Run σ) : Run σ :=
  let killed := run.killAll world
  killed.afterPasses world false (.after (killed.now world) Session.killWait) passes

/-- If its living processes are killed, a run has enough passes for the wait after that. -/
def KillWaitFits (run : Run σ) : Prop :=
  let killed := run.killAll world
  killed.EnoughPasses world more (.after (killed.now world) Session.killWait)

/-- If its living processes are killed, no pass of the wait after that takes longer. -/
def KillPassesTake (span : Duration) (run : Run σ) : Prop :=
  ∀ passes ≤ more, ((run.afterKill world (passes + 1)).now world).nanos ≤
    ((run.afterKill world passes).now world).nanos + span.nanos

variable {world more}

theorem afterKill_forget (passes : Nat) (run : Run (σ × Journal)) :
    (run.afterKill world.recorded passes).forget = run.forget.afterKill world passes := by
  unfold afterKill
  rw [← killAll_forget]
  exact afterPasses_forget world false _ passes _

theorem KillWaitFits.recorded {run : Run (σ × Journal)} (fits : run.forget.KillWaitFits world more) :
    run.KillWaitFits world.recorded more := by
  obtain ⟨passes, within, enough⟩ := fits
  rw [← killAll_forget, ← afterPasses_forget] at enough
  exact ⟨passes, within, enough⟩

theorem KillPassesTake.recorded {span : Duration} {run : Run (σ × Journal)}
    (take : run.forget.KillPassesTake world more span) :
    run.KillPassesTake world.recorded more span := by
  intro passes within
  have pass := take passes within
  rw [← afterKill_forget, ← afterKill_forget] at pass
  exact pass

end

section

variable {world : World σ} {more : Nat}

/-- With enough passes, a wait for the end of all gives up only when its time is up. -/
theorem drainUntil_expired (clock : world.Monotonic) {deadline : Deadline}
    {run after : Run (σ × Journal)} (enough : run.EnoughPasses world.recorded more deadline)
    (gaveUp : drainUntil world.recorded false deadline allEnded more run = (.ok false, after)) :
    ∃ passes ≤ more, after = run.afterPasses world.recorded false deadline (passes + 1) ∧
      after.session.living ≠ [] ∧ deadline.isExpired (after.now world.recorded) = true := by
  obtain ⟨passes, waited⟩ := drainUntil_waited world.recorded false deadline allEnded more run
  rw [gaveUp] at waited
  obtain ⟨unmet, reason⟩ := waited.gaveUp rfl
  have alive : after.session.living ≠ [] :=
    fun none => Bool.eq_false_iff.mp unmet ((allEnded_iff after.session _).mpr none)
  have reached : after = run.afterPasses world.recorded false deadline (passes + 1) :=
    waited.reached
  refine ⟨passes, waited.within, reached, alive, reason.elim id fun all => ?_⟩
  obtain ⟨few, within, expired | none⟩ := enough
  · rw [reached]
    have goesOn := afterPasses_later world.recorded false deadline
      (Nat.succ_le_succ (all ▸ within)) run
    exact deadline.isExpired_mono (clock.recorded.later goesOn) expired
  · have fewer := living_afterPasses_subset world deadline (Nat.succ_le_succ (all ▸ within)) run
    rw [none, ← reached] at fewer
    exact absurd (List.subset_nil.mp fewer) alive

theorem afterKill_endsBy {length : Duration} (kills : world.KillsWithin length)
    (clock : world.Monotonic) (passes : Nat) (run : Run (σ × Journal)) {index : Nat}
    (alive : index ∈ (run.afterKill world.recorded passes).session.living) :
    world.recorded.EndsBy index
      ⟨((run.killAll world.recorded).now world.recorded).nanos + length.nanos⟩
      (run.afterKill world.recorded passes).session.outside := by
  have killed := living_afterPasses_subset world _ (Nat.zero_le passes) _ alive
  have before := (frame_of_signals (killAll_signals world run)).living_subset killed
  exact (killAll_endsBy kills.recorded clock.recorded run index before).later
    (afterPasses_later world.recorded false _ (Nat.zero_le passes) _)

theorem killStragglers_gaveUp (clock : world.Monotonic) {run : Run (σ × Journal)}
    (fits : run.KillWaitFits world.recorded more)
    (answered : (run.killStragglers world.recorded more).2.journal.Answered)
    (gaveUp : (run.killStragglers world.recorded more).1 = false) :
    ∃ passes ≤ more,
      (run.killStragglers world.recorded more).2 = run.afterKill world.recorded (passes + 1) ∧
      (run.killStragglers world.recorded more).2.session.living ≠ [] ∧
      ((run.killAll world.recorded).now world.recorded).nanos + Session.killWait.nanos ≤
        ((run.killStragglers world.recorded more).2.now world.recorded).nanos := by
  obtain ⟨ended, drained, same⟩ := drainUntilEnded_of_answered answered
  obtain rfl : ended = false := same.symm.trans gaveUp
  obtain ⟨passes, within, reached, alive, expired⟩ := drainUntil_expired clock fits drained
  refine ⟨passes, within, reached, alive, ?_⟩
  exact Nat.le_trans (Deadline.add_le_expires _ _ (by decide)) (of_decide_eq_true expired)

/-- Whoever lives on after the wait for what was killed has ended all the same. -/
theorem killStragglers_over (clock : world.Monotonic) (kills : world.KillsWithin Session.killWait)
    {run : Run (σ × Journal)} (fits : run.KillWaitFits world.recorded more)
    (answered : (run.killStragglers world.recorded more).2.journal.Answered) :
    (run.killStragglers world.recorded more).2.session.Over world.recorded := by
  intro index alive
  cases ended : (run.killStragglers world.recorded more).1 with
  | true =>
      rw [killStragglers, drainUntilEnded_living ended] at alive
      exact absurd alive List.not_mem_nil
  | false =>
      obtain ⟨passes, -, after, -, late⟩ := killStragglers_gaveUp clock fits answered ended
      rw [after] at alive late ⊢
      exact (afterKill_endsBy kills clock (passes + 1) run alive).gone clock.recorded late

theorem pass_living {deadline : Deadline} {run : Run (σ × Journal)}
    (gone : run.session.Over world.recorded)
    (answered : (run.pass world.recorded false deadline).2.journal.Answered) :
    (run.pass world.recorded false deadline).2.session.living = [] := by
  have found : (run.session.poll world.recorded false
      (deadline.slice (run.now world.recorded) Session.pollInterval)).2.journal.Answered →
      (run.session.poll world.recorded false
        (deadline.slice (run.now world.recorded) Session.pollInterval)).2.living = [] :=
    Session.poll_living gone
  unfold pass at answered ⊢
  dsimp only at answered ⊢
  generalize run.session.poll world.recorded false
    (deadline.slice (run.now world.recorded) Session.pollInterval) = polled at found answered ⊢
  obtain ⟨_ | ⟨⟩, session⟩ := polled
  · exact found answered
  · exact (relayLines_frame { run with session }).living_eq_nil (found answered)

/-- The wait for what was killed finds all ended if they have ended before its last pass. -/
theorem killStragglers_ended (clock : world.Monotonic) {span : Duration}
    (kills : world.KillsWithin ⟨Session.killWait.nanos - span.nanos⟩) {run : Run (σ × Journal)}
    (fits : run.KillWaitFits world.recorded more)
    (takes : run.KillPassesTake world.recorded more span)
    (answered : (run.killStragglers world.recorded more).2.journal.Answered) :
    (run.killStragglers world.recorded more).1 = true := by
  refine Bool.of_not_eq_false fun gaveUp => ?_
  obtain ⟨passes, within, after, alive, late⟩ := killStragglers_gaveUp clock fits answered gaveUp
  have last : run.afterKill world.recorded (passes + 1) =
      ((run.afterKill world.recorded passes).pass world.recorded false
        (.after ((run.killAll world.recorded).now world.recorded) Session.killWait)).2 :=
    afterPasses_succ world.recorded false _ passes _
  rw [after] at answered alive late
  -- The last pass began when what was killed had ended.
  have begun : ((run.killAll world.recorded).now world.recorded).nanos +
      (Session.killWait.nanos - span.nanos) ≤
        ((run.afterKill world.recorded passes).now world.recorded).nanos := by
    have order : ((run.killAll world.recorded).now world.recorded).nanos ≤
        ((run.afterKill world.recorded passes).now world.recorded).nanos :=
      clock.recorded.later (afterPasses_later world.recorded false _ (Nat.zero_le passes) _)
    have pass := takes passes within
    omega
  have gone : (run.afterKill world.recorded passes).session.Over world.recorded :=
    fun index living => (afterKill_endsBy kills clock passes run living).gone clock.recorded begun
  rw [last] at answered alive
  exact alive (pass_living gone answered)

end

end Run

end Rendezvous
