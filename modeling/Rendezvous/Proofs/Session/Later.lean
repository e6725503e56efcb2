import Mathlib.Logic.Relation
import Rendezvous.Proofs.Journal
import Rendezvous.Session.Control

/-!
What a world goes through while nothing is started.

Whoever asks the world something leaves it in a later state.  A promise about all
later states is kept by every operation of a session: that the clock does not go
back, and that what is killed has ended some time after that.
-/

set_option autoImplicit false

namespace Rendezvous

variable {σ : Type}

namespace World

section

variable (world : World σ)

/-- A world that is asked something, anything but to start a process. -/
inductive Asks : σ → σ → Prop where
  | status (index : Nat) (outside : σ) : Asks outside (world.status index outside).2
  | read (index : Nat) (stream : Stream) (outside : σ) :
      Asks outside (world.read index stream outside).2
  | wait (watched : List (Nat × Stream)) (budget : Duration) (attentive : Bool) (outside : σ) :
      Asks outside (world.wait watched budget attentive outside).2
  | awaitExit (index : Nat) (budget : Duration) (outside : σ) :
      Asks outside (world.awaitExit index budget outside).2
  | signalGroup (index : Nat) (signal : StopSignal) (outside : σ) :
      Asks outside (world.signalGroup index signal outside).2
  | killLeader (index : Nat) (outside : σ) : Asks outside (world.killLeader index outside).2

/-- The states that a world can come to while nothing is started. -/
abbrev Later : σ → σ → Prop :=
  Relation.ReflTransGen world.Asks

/-- The clock does not go back. -/
def Monotonic : Prop :=
  ∀ before after, world.Asks before after → (world.now before).nanos ≤ (world.now after).nanos

/-- Nobody who asks from now on is told that the process still runs. -/
def Gone (index : Nat) (outside : σ) : Prop :=
  ∀ later, world.Later outside later → (world.status index later).1 ≠ .ok none

/-- Nobody who asks from the given time on is told that the process still runs. -/
def EndsBy (index : Nat) (time : Duration) (outside : σ) : Prop :=
  ∀ later, world.Later outside later → time.nanos ≤ (world.now later).nanos →
    (world.status index later).1 ≠ .ok none

/-- A kill fails only for want of a process, and what is killed ends within the given time. -/
structure KillsWithin (length : Duration) : Prop where
  arrives : ∀ index outside cause,
    (world.signalGroup index .kill outside).1 = .error cause → cause = .noProcess
  ends : ∀ index outside,
    world.EndsBy index ⟨(world.now outside).nanos + length.nanos⟩ (world.killLeader index outside).2

end

section

variable {world : World σ} {index : Nat} {outside after : σ}

theorem Monotonic.later (clock : world.Monotonic) (goesOn : world.Later outside after) :
    (world.now outside).nanos ≤ (world.now after).nanos := by
  induction goesOn with
  | refl => exact Nat.le_refl _
  | tail _ asks inductionHypothesis => exact Nat.le_trans inductionHypothesis (clock _ _ asks)

theorem EndsBy.later {time : Duration} (ends : world.EndsBy index time outside)
    (goesOn : world.Later outside after) : world.EndsBy index time after :=
  fun last further => ends last (goesOn.trans further)

theorem EndsBy.delay {time limit : Duration} (ends : world.EndsBy index time outside)
    (within : time.nanos ≤ limit.nanos) : world.EndsBy index limit outside :=
  fun last further reached => ends last further (Nat.le_trans within reached)

theorem EndsBy.gone {time : Duration} (ends : world.EndsBy index time outside)
    (clock : world.Monotonic) (reached : time.nanos ≤ (world.now outside).nanos) :
    world.Gone index outside :=
  fun last further => ends last further (Nat.le_trans reached (clock.later further))

theorem Gone.later (gone : world.Gone index outside) (goesOn : world.Later outside after) :
    world.Gone index after :=
  fun last further => gone last (goesOn.trans further)

end

section

variable {world : World σ}

theorem Asks.forget {before after : σ × Journal} (asks : world.recorded.Asks before after) :
    world.Asks before.1 after.1 := by
  cases asks with
  | status index => exact .status index before.1
  | read index stream => exact .read index stream before.1
  | wait watched budget attentive => exact .wait watched budget attentive before.1
  | awaitExit index budget => exact .awaitExit index budget before.1
  | signalGroup index signal => exact .signalGroup index signal before.1
  | killLeader index => exact .killLeader index before.1

theorem Later.forget {before after : σ × Journal} (goesOn : world.recorded.Later before after) :
    world.Later before.1 after.1 :=
  goesOn.lift Prod.fst fun _ _ => Asks.forget

/-- Keeping a journal takes no time. -/
theorem Monotonic.recorded (clock : world.Monotonic) : world.recorded.Monotonic :=
  fun before after asks => clock before.1 after.1 asks.forget

theorem KillsWithin.recorded {length : Duration} (kills : world.KillsWithin length) :
    world.recorded.KillsWithin length := by
  refine ⟨fun index outside => kills.arrives index outside.1, fun index outside => ?_⟩
  intro later goesOn reached
  exact kills.ends index outside.1 later.1 goesOn.forget reached

end

end World

namespace Session

variable (world : World σ)

theorem checkExit_later (index : Nat) (process : RoleProcess) (outside : σ) :
    world.Later outside (checkExit world index process outside).2 := by
  unfold checkExit
  split
  · have asks : world.Asks outside (world.status index outside).2 := .status index outside
    generalize world.status index outside = answer at asks
    rcases answer with ⟨_ | _ | _, _⟩ <;> exact .single asks
  · exact .refl

theorem checkExitsFrom_later (first : Nat) (processes : List RoleProcess) (outside : σ) :
    world.Later outside (checkExitsFrom world first processes outside).2.2 := by
  induction processes generalizing first outside with
  | nil => exact .refl
  | cons process rest inductionHypothesis =>
      have asked := checkExit_later world first process outside
      unfold checkExitsFrom
      generalize checkExit world first process outside = checked at asked
      obtain ⟨_ | _, later⟩ := checked
      · exact asked
      · exact asked.trans (inductionHypothesis (first + 1) later)

theorem sweepStream_later (index : Nat) (key : Stream) (reads : Nat) (stream : OutputStream)
    (seq : Nat) (outside : σ) :
    world.Later outside (sweepStream world index key reads stream seq outside).2.2 := by
  induction reads generalizing stream seq outside with
  | zero => exact .refl
  | succ reads inductionHypothesis =>
      unfold sweepStream
      split
      · have asks : world.Asks outside (world.read index key outside).2 :=
          .read index key outside
        generalize world.read index key outside = read at asks
        obtain ⟨outcome, later⟩ := read
        cases outcome with
        | notReady => exact .single asks
        | chunk | endOfFile | interrupted | failed =>
            exact .head asks (inductionHypothesis _ _ later)
      · exact .refl

theorem sweepProcess_later (index : Nat) (process : RoleProcess) (seq : Nat) (outside : σ) :
    world.Later outside (sweepProcess world index process seq outside).2.2 :=
  (sweepStream_later world index .stdout sweepReads process.stdout seq outside).trans
    (sweepStream_later world index .stderr sweepReads process.stderr _ _)

theorem sweepFrom_later (first : Nat) (processes : List RoleProcess) (seq : Nat) (outside : σ) :
    world.Later outside (sweepFrom world first processes seq outside).2.2 := by
  induction processes generalizing first seq outside with
  | nil => exact .refl
  | cons process rest inductionHypothesis =>
      exact (sweepProcess_later world first process seq outside).trans
        (inductionHypothesis (first + 1) _ _)

theorem afterWait_later (attentive : Bool) (wake : Wake) (session : Session σ) :
    world.Later session.outside (session.afterWait world attentive wake).2.outside := by
  have swept : ∀ session : Session σ,
      world.Later session.outside (session.sweep world).outside :=
    fun session => sweepFrom_later world 0 session.processes session.nextSeq session.outside
  cases wake with
  | elapsed => exact swept session
  | ready index key outcome =>
      have kept : (session.deliver index key outcome).outside = session.outside := by
        unfold deliver
        split <;> rfl
      rw [← kept]
      exact swept _
  | interrupted =>
      cases attentive
      · exact swept session
      · exact .refl

theorem poll_later (attentive : Bool) (budget : Duration) (session : Session σ) :
    world.Later session.outside (session.poll world attentive budget).2.outside := by
  have checked : world.Later session.outside (session.checkExits world).2.outside :=
    checkExitsFrom_later world 0 session.processes session.outside
  unfold poll
  generalize session.checkExits world = answer at checked
  obtain ⟨_ | ⟨⟩, later⟩ := answer
  · exact checked
  · let woken := world.wait (later.watched budget) budget attentive later.outside
    have asks : world.Asks later.outside woken.2 := .wait (later.watched budget) budget attentive _
    have swept := afterWait_later world attentive woken.1 { later with outside := woken.2 }
    exact (checked.tail asks).trans swept

theorem killProcess_later (index : Nat) (process : RoleProcess) (outside : σ) :
    world.Later outside (killProcess world index process outside).2.2 := by
  unfold killProcess
  split
  · have signalled : world.Asks outside (world.signalGroup index .kill outside).2 :=
      .signalGroup index .kill outside
    generalize world.signalGroup index .kill outside = answer at signalled
    obtain ⟨sent, later⟩ := answer
    have killed : world.Later outside (world.killLeader index later).2 :=
      .tail (.single signalled) (.killLeader index later)
    dsimp only
    split
    · exact .single signalled
    · exact killed
  · exact .refl

end Session

end Rendezvous
