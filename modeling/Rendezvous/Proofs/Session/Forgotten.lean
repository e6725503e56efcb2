import Rendezvous.Proofs.Journal
import Rendezvous.Session.Control

/-!
A session that is recorded is the same session with a journal.

Every operation on a recorded session does what it does on the session without
its journal.
-/

set_option autoImplicit false

namespace Rendezvous

namespace Session

variable {σ : Type}

/-- A session without its journal. -/
def forget (session : Session (σ × Journal)) : Session σ :=
  ⟨session.outside.1, session.processes, session.nextSeq⟩

theorem checkExit_forget (world : World σ) (index : Nat) (process : RoleProcess)
    (outside : σ × Journal) :
    Prod.map id Prod.fst (checkExit world.recorded index process outside) =
      checkExit world index process outside.1 := by
  unfold checkExit
  split
  · rw [World.recorded_status]
    rcases world.status index outside.1 with ⟨_ | _ | _, _⟩ <;> rfl
  · rfl

theorem checkExitsFrom_forget (world : World σ) (index : Nat) (processes : List RoleProcess)
    (outside : σ × Journal) :
    Prod.map id (Prod.map id Prod.fst) (checkExitsFrom world.recorded index processes outside) =
      checkExitsFrom world index processes outside.1 := by
  induction processes generalizing index outside with
  | nil => rfl
  | cons process rest inductionHypothesis =>
      rw [checkExitsFrom, checkExitsFrom, ← checkExit_forget]
      rcases checkExit world.recorded index process outside with ⟨_ | checked, later⟩
      · rfl
      · dsimp only [Prod.map_apply, id_eq]
        rw [← inductionHypothesis]
        rfl

theorem checkExits_forget (world : World σ) (session : Session (σ × Journal)) :
    Prod.map id forget (session.checkExits world.recorded) = session.forget.checkExits world := by
  unfold checkExits forget
  dsimp only
  rw [← checkExitsFrom_forget]
  rfl

theorem refreshExitsFrom_forget (world : World σ) (index : Nat) (processes : List RoleProcess)
    (outside : σ × Journal) :
    Prod.map id Prod.fst (refreshExitsFrom world.recorded index processes outside) =
      refreshExitsFrom world index processes outside.1 := by
  induction processes generalizing index outside with
  | nil => rfl
  | cons process rest inductionHypothesis =>
      rw [refreshExitsFrom, refreshExitsFrom, ← checkExit_forget]
      dsimp only [Prod.map_fst, Prod.map_snd]
      rw [← inductionHypothesis]
      rfl

theorem refreshExits_forget (world : World σ) (session : Session (σ × Journal)) :
    (session.refreshExits world.recorded).forget = session.forget.refreshExits world := by
  unfold refreshExits forget
  dsimp only
  rw [← refreshExitsFrom_forget]
  rfl

theorem sweepStream_forget (world : World σ) (index : Nat) (key : Stream) (reads : Nat)
    (stream : OutputStream) (seq : Nat) (outside : σ × Journal) :
    Prod.map id (Prod.map id Prod.fst)
        (sweepStream world.recorded index key reads stream seq outside) =
      sweepStream world index key reads stream seq outside.1 := by
  induction reads generalizing stream seq outside with
  | zero => rfl
  | succ reads inductionHypothesis =>
      rw [sweepStream, sweepStream]
      split
      · rw [World.recorded_read]
        rcases world.read index key outside.1 with ⟨_ | _ | _ | _ | _, _⟩ <;>
          first | rfl | exact inductionHypothesis _ _ _
      · rfl

theorem sweepProcess_forget (world : World σ) (index : Nat) (process : RoleProcess) (seq : Nat)
    (outside : σ × Journal) :
    Prod.map id (Prod.map id Prod.fst) (sweepProcess world.recorded index process seq outside) =
      sweepProcess world index process seq outside.1 := by
  unfold sweepProcess
  rw [← sweepStream_forget]
  dsimp only [Prod.map_fst, Prod.map_snd, id_eq]
  rw [← sweepStream_forget]
  rfl

theorem sweepFrom_forget (world : World σ) (index : Nat) (processes : List RoleProcess)
    (seq : Nat) (outside : σ × Journal) :
    Prod.map id (Prod.map id Prod.fst) (sweepFrom world.recorded index processes seq outside) =
      sweepFrom world index processes seq outside.1 := by
  induction processes generalizing index seq outside with
  | nil => rfl
  | cons process rest inductionHypothesis =>
      rw [sweepFrom, sweepFrom, ← sweepProcess_forget]
      dsimp only [Prod.map_fst, Prod.map_snd, id_eq]
      rw [← inductionHypothesis]
      rfl

theorem sweep_forget (world : World σ) (session : Session (σ × Journal)) :
    (session.sweep world.recorded).forget = session.forget.sweep world := by
  unfold sweep forget
  dsimp only
  rw [← sweepFrom_forget]
  rfl

theorem deliver_forget (session : Session (σ × Journal)) (index : Nat) (key : Stream)
    (outcome : ReadOutcome) :
    (session.deliver index key outcome).forget = session.forget.deliver index key outcome := by
  unfold deliver
  have same : session.forget.processes = session.processes := rfl
  rw [same]
  cases session.processes[index]? <;> rfl

theorem afterWait_forget (world : World σ) (attentive : Bool) (wake : Wake)
    (session : Session (σ × Journal)) :
    Prod.map id forget (session.afterWait world.recorded attentive wake) =
      session.forget.afterWait world attentive wake := by
  have swept := congrArg (Prod.mk (.ok () : Except Error Unit)) (sweep_forget world session)
  cases wake with
  | elapsed => exact swept
  | ready index key outcome =>
      have delivered := sweep_forget world (session.deliver index key outcome)
      rw [deliver_forget] at delivered
      exact congrArg (Prod.mk (.ok () : Except Error Unit)) delivered
  | interrupted =>
      cases attentive with
      | false => exact swept
      | true => rfl

theorem poll_forget (world : World σ) (attentive : Bool) (budget : Duration)
    (session : Session (σ × Journal)) :
    Prod.map id forget (session.poll world.recorded attentive budget) =
      session.forget.poll world attentive budget := by
  unfold poll
  rw [← checkExits_forget]
  rcases session.checkExits world.recorded with ⟨_ | _, checked⟩
  · rfl
  · exact afterWait_forget world attentive _ _

theorem drain_forget (world : World σ) (session : Session (σ × Journal)) :
    Prod.map id forget (session.drain world.recorded) = session.forget.drain world :=
  poll_forget world false .zero session

theorem terminateProcess_forget (world : World σ) (index : Nat) (process : RoleProcess)
    (outside : σ × Journal) :
    Prod.map id (Prod.map id Prod.fst) (terminateProcess world.recorded index process outside) =
      terminateProcess world index process outside.1 := by
  unfold terminateProcess
  split <;> rfl

theorem killProcess_forget (world : World σ) (index : Nat) (process : RoleProcess)
    (outside : σ × Journal) :
    Prod.map id (Prod.map id Prod.fst) (killProcess world.recorded index process outside) =
      killProcess world index process outside.1 := by
  unfold killProcess
  split
  · rw [World.recorded_signalGroup]
    dsimp only
    cases ignoreMissing (world.signalGroup index .kill outside.1).1 <;> rfl
  · rfl

theorem reapGroup_forget (world : World σ) (index : Nat) (process : RoleProcess)
    (outside : σ × Journal) :
    (reapGroup world.recorded index process outside).1 =
      reapGroup world index process outside.1 := by
  unfold reapGroup
  split <;> rfl

end Session

end Rendezvous
