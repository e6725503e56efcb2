import Rendezvous.Proofs.Session.Moves
import Rendezvous.Run

/-!
What a run does while it watches its processes, as single steps.

A step moves the session or relays the lines that are complete.  Every wait of a
run, the one for the marker included, is a sequence of steps.
-/

set_option autoImplicit false

namespace Rendezvous

variable {σ : Type}

namespace Run

def journal (run : Run (σ × Journal)) : Journal :=
  run.session.journal

/-- One step of watching the processes. -/
inductive Step : Run (σ × Journal) → Run (σ × Journal) → Prop where
  | move {run : Run (σ × Journal)} {session : Session (σ × Journal)}
      (move : Session.Move run.session session) : Step run { run with session }
  | relay (run : Run (σ × Journal)) : Step run run.relayLines

/-- Any number of steps. -/
abbrev Steps : Run (σ × Journal) → Run (σ × Journal) → Prop :=
  Relation.ReflTransGen Step

theorem steps_of_moves {run : Run (σ × Journal)} {session : Session (σ × Journal)}
    (moves : Session.Moves run.session session) : Steps run { run with session } :=
  moves.lift (fun session => { run with session }) fun _ _ move => .move move

theorem pass_steps (world : World σ) (attentive : Bool) (deadline : Deadline)
    (run : Run (σ × Journal)) : Steps run (run.pass world.recorded attentive deadline).2 := by
  have polled := steps_of_moves (Session.poll_moves world attentive
    (deadline.slice (run.now world.recorded) Session.pollInterval) run.session)
  simp only [pass]
  rcases answered : run.session.poll world.recorded attentive
    (deadline.slice (run.now world.recorded) Session.pollInterval) with ⟨_ | _, session⟩ <;>
    rw [answered] at polled
  · exact polled
  · exact polled.tail (.relay _)

theorem drainUntil_steps (world : World σ) (attentive : Bool) (deadline : Deadline)
    (done : Condition) (more : Nat) (run : Run (σ × Journal)) :
    Steps run (drainUntil world.recorded attentive deadline done more run).2 := by
  induction more using Nat.strongRecOn generalizing run with
  | ind more inductionHypothesis =>
      have first := pass_steps world attentive deadline run
      rcases passed : run.pass world.recorded attentive deadline with ⟨_ | _, next⟩ <;>
        rw [passed] at first
      · rw [drainUntil_of_failed passed]
        exact first
      · rw [drainUntil_of_passed passed]
        split_ifs
        · exact first
        · exact first
        · cases more with
          | zero => exact first
          | succ more => exact first.trans (inductionHypothesis more (Nat.lt_succ_self more) next)

theorem drainUntilEnded_steps (world : World σ) (deadline : Deadline) (more : Nat)
    (run : Run (σ × Journal)) :
    Steps run (run.drainUntilEnded world.recorded deadline more).2 := by
  have drained := drainUntil_steps world false deadline allEnded more run
  unfold drainUntilEnded
  rcases result : drainUntil world.recorded false deadline allEnded more run with
    ⟨_ | _, next⟩ <;> rw [result] at drained
  · refine drained.trans (steps_of_moves ?_)
    exact (Session.pause_moves world _ next.session).trans (Session.refreshExits_moves world _)
  · exact drained

theorem refresh_steps (world : World σ) (run : Run (σ × Journal)) :
    Steps run (run.refresh world.recorded) :=
  steps_of_moves (Session.refreshExits_moves world run.session)

theorem awaitClient_steps (world : World σ) (scenario : Scenario) (more : Nat)
    (run : Run (σ × Journal)) : Steps run (run.awaitClient world.recorded scenario more).2 := by
  have drained := drainUntil_steps world true
    (.after (run.now world.recorded) scenario.timeouts.run) clientFinished more run
  simp only [awaitClient]
  rcases result : drainUntil world.recorded true
    (.after (run.now world.recorded) scenario.timeouts.run) clientFinished more run with
    ⟨_ | _ | _, next⟩ <;> rw [result] at drained <;> exact drained

theorem awaitServerExit_steps (world : World σ) (scenario : Scenario) (more : Nat)
    (run : Run (σ × Journal)) :
    Steps run (run.awaitServerExit world.recorded scenario more) := by
  unfold awaitServerExit
  split
  · exact drainUntil_steps world false _ serverEnded more run
  · exact .refl

theorem collectRest_steps (world : World σ) (run : Run (σ × Journal)) :
    Steps run (run.collectRest world.recorded) :=
  (steps_of_moves ((Session.drain_moves world run.session).trans
    (Session.closeAll_moves _))).tail (.relay _)

end Run

namespace Handshake

/-- A wait that relays the lines of its target observes every line like any other part of a run. -/
theorem foldl_observe_snd {target : Target} (relaying : target.relaying = true)
    (lines : List Line) (state : Handshake) (transcript : Transcript) :
    (lines.foldl (observe target) (state, transcript)).2 = transcript.observeAll lines := by
  induction lines generalizing state transcript with
  | nil => rfl
  | cons line lines inductionHypothesis =>
      simp only [List.foldl_cons, observe, relaying, Bool.or_true, Bool.true_or,
        inductionHypothesis]
      rfl

/-- A wait that relays the lines of its target is made of steps of a run. -/
theorem passes_steps (world : World σ) {target : Target} (relaying : target.relaying = true)
    (more : Nat) (run : Run (σ × Journal)) :
    Run.Steps run { run with
      session := (passes world.recorded target more run.session run.transcript).2.1
      transcript := (passes world.recorded target more run.session run.transcript).2.2 } := by
  induction more using Nat.strongRecOn generalizing run with
  | ind more inductionHypothesis =>
      have polls := Run.steps_of_moves (Session.poll_moves world true
        (target.deadline.slice (run.session.now world.recorded) Session.pollInterval) run.session)
      rcases passed : run.session.poll world.recorded true
        (target.deadline.slice (run.session.now world.recorded) Session.pollInterval) with
        ⟨cause | _, polled⟩ <;> rw [passed] at polls
      · rw [passes_of_interrupted passed]
        exact polls
      · have first := polls.tail (.relay _)
        simp only [Run.relayLines, ← foldl_observe_snd relaying _ .waiting] at first
        rw [passes_of_polled passed]
        dsimp only
        split
        · next fewer _ =>
            exact first.trans (inductionHypothesis fewer (Nat.lt_succ_self fewer)
              { run with session := _, transcript := _ })
        · exact first
        · exact first

end Handshake

end Rendezvous
