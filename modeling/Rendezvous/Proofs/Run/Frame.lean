import Rendezvous.Proofs.Run.Steps
import Rendezvous.Proofs.Session.Continues

/-!
What watching and signalling leave alone in a run.

The books of a run (its phases, its failures, whether the marker was found) are
only written by the run itself, and its processes stay the same ones.
-/

set_option autoImplicit false

namespace Rendezvous

variable {σ : Type}

namespace Run

/-- The books of a run are the same. -/
structure SameBooks (before after : Run σ) : Prop where
  phases : after.phases = before.phases
  handshakeSatisfied : after.handshakeSatisfied = before.handshakeSatisfied
  failures : after.failures = before.failures
  teardownFailures : after.teardownFailures = before.teardownFailures

theorem SameBooks.refl (run : Run σ) : run.SameBooks run :=
  ⟨rfl, rfl, rfl, rfl⟩

theorem SameBooks.trans {first second third : Run σ} (former : first.SameBooks second)
    (latter : second.SameBooks third) : first.SameBooks third :=
  ⟨latter.phases.trans former.phases, latter.handshakeSatisfied.trans former.handshakeSatisfied,
    latter.failures.trans former.failures, latter.teardownFailures.trans former.teardownFailures⟩

/-- The books of a run are the same, and its processes are the same at a later time. -/
structure Frame (before after : Run σ) : Prop extends SameBooks before after where
  processes : RoleProcess.AllContinue before.session.processes after.session.processes

theorem Frame.refl (run : Run σ) : run.Frame run :=
  ⟨.refl run, .refl _⟩

theorem Frame.trans {first second third : Run σ} (former : first.Frame second)
    (latter : second.Frame third) : first.Frame third :=
  ⟨former.toSameBooks.trans latter.toSameBooks, former.processes.trans latter.processes⟩

theorem relayLines_frame (run : Run σ) : run.Frame run.relayLines := by
  refine ⟨⟨rfl, rfl, rfl, rfl⟩, ?_⟩
  simp only [relayLines, Session.takeLines, List.map_map]
  exact RoleProcess.allContinue_map RoleProcess.continues_takeLines _

theorem Step.frame {before after : Run (σ × Journal)} (step : Step before after) :
    before.Frame after := by
  cases step with
  | move move => exact ⟨⟨rfl, rfl, rfl, rfl⟩, move.continues⟩
  | relay => exact relayLines_frame before

theorem Steps.frame {before after : Run (σ × Journal)} (steps : Steps before after) :
    before.Frame after := by
  induction steps with
  | refl => exact .refl before
  | tail _ step inductionHypothesis => exact inductionHypothesis.trans step.frame

theorem frame_of_signals {run : Run (σ × Journal)} {session : Session (σ × Journal)}
    (signals : Session.Signals run.session session) : run.Frame { run with session } := by
  refine ⟨⟨rfl, rfl, rfl, rfl⟩, ?_⟩
  induction signals with
  | refl => exact .refl _
  | tail _ signal inductionHypothesis => exact inductionHypothesis.trans signal.continues

/-- Watching starts and signals nothing. -/
theorem Step.journal {before after : Run (σ × Journal)} (step : Step before after) :
    ∃ later : Journal, after.journal = before.journal ++ later ∧
      later.starts = [] ∧ later.signals = [] ∧ later.kills = [] := by
  cases step with
  | move move =>
      cases move with
      | check _ _ answer _ _ => exact ⟨[.checked _ answer], rfl, rfl, rfl, rfl⟩
      | receive _ _ outcome _ => exact ⟨[.received _ _ outcome], rfl, rfl, rfl, rfl⟩
      | close _ _ => exact ⟨[], (List.append_nil _).symm, rfl, rfl, rfl⟩
      | sleep _ => exact ⟨[], (List.append_nil _).symm, rfl, rfl, rfl⟩
  | relay => exact ⟨[], (List.append_nil _).symm, rfl, rfl, rfl⟩

theorem Steps.journal {before after : Run (σ × Journal)} (steps : Steps before after) :
    ∃ later : Journal, after.journal = before.journal ++ later ∧
      later.starts = [] ∧ later.signals = [] ∧ later.kills = [] := by
  induction steps with
  | refl => exact ⟨[], (List.append_nil _).symm, rfl, rfl, rfl⟩
  | tail _ step inductionHypothesis =>
      obtain ⟨first, grown, starts, signals, kills⟩ := inductionHypothesis
      obtain ⟨second, grownOn, startsOn, signalsOn, killsOn⟩ := step.journal
      refine ⟨first ++ second, by rw [grownOn, grown, List.append_assoc], ?_, ?_, ?_⟩
      · rw [Journal.starts_append, starts, startsOn, List.append_nil]
      · rw [Journal.signals_append, signals, signalsOn, List.append_nil]
      · rw [Journal.kills_append, kills, killsOn, List.append_nil]

end Run

end Rendezvous
