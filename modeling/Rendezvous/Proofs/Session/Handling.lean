import Mathlib.Data.List.Induction
import Rendezvous.Proofs.Session.Ends

/-!
One process under checks, waits and stops in any order.

Between two requests anything may happen outside, so the end of the process can show at
any moment.  The first end that a request finds is kept, and the process counts as stopped
exactly when it had been asked to stop by then.
-/

set_option autoImplicit false

namespace Rendezvous

variable {σ : Type}

/-- No end was noticed yet, and nobody has asked the process to stop. -/
structure RoleProcess.Untouched (process : RoleProcess) : Prop where
  alive : process.isAlive = true
  free : process.stopRequested = false

theorem RoleProcess.started_untouched (role : Role) (pid : Nat) (line : CommandLine)
    (now : Duration) (historyLines : Nat) : (started role pid line now historyLines).Untouched :=
  ⟨rfl, rfl⟩

namespace ExitState

theorem not_isFailure_of_isClean {state : ExitState} (clean : state.isClean = true) :
    state.isFailure = false := by
  rw [isClean_iff.mp clean]
  rfl

variable {stopped : Bool} {status : ExitStatus}

/-- What ended by itself is a failure unless it exited with zero; what was stopped is none. -/
theorem isFailure_ite_iff :
    (if stopped then ofStopped status else ofStatus status).isFailure = true ↔
      stopped = false ∧ status ≠ .code 0 := by
  cases stopped with
  | true => simp [ofStopped, isFailure]
  | false => cases status <;> simp [ofStatus, isFailure]

theorem exists_stopped_iff :
    (∃ code signal, (if stopped then ofStopped status else ofStatus status) =
      .stopped code signal) ↔ stopped = true := by
  cases stopped with
  | true => simp [ofStopped]
  | false => cases status <;> simp [ofStatus]

end ExitState

namespace Session

/-- What can be asked of a process that was started. -/
inductive Request where
  /-- Ask how it has ended. -/
  | check
  /-- Wait for its end. -/
  | await (budget : Duration)
  | terminate
  | kill
  deriving DecidableEq, Repr

namespace Request

/-- Whether the process is asked to stop. -/
def isStop : Request → Bool
  | .terminate | .kill => true
  | .check | .await _ => false

/-- The process and the world after a request. -/
def perform (world : World σ) (index : Nat) (request : Request) (process : RoleProcess)
    (outside : σ) : RoleProcess × σ :=
  match request with
  | .check =>
      let (checked, outside) := checkExit world index process outside
      (checked.toOption.getD process, outside)
  | .await budget => (awaitProcess world index budget process outside).2
  | .terminate => (terminateProcess world index process outside).2
  | .kill => (killProcess world index process outside).2

/-- What the world answers to a question about the end of a process. -/
def answer (world : World σ) (index : Nat) (request : Request) (outside : σ) :
    Except SystemError (Option ExitStatus) :=
  match request with
  | .check => (world.status index outside).1
  | .await budget => (world.awaitExit index budget outside).1
  | .terminate | .kill => .ok none

variable {world : World σ} {index : Nat} {request : Request} {process : RoleProcess} {outside : σ}

/-- A process whose end is recorded is left alone, and the world is not asked for anything. -/
theorem perform_of_ended (ended : process.isAlive = false) :
    request.perform world index process outside = (process, outside) := by
  have living : ¬ process.isAlive = true := Bool.eq_false_iff.mp ended
  cases request with
  | check =>
      simp only [perform, checkExit, if_neg living]
      rfl
  | await budget =>
      obtain ⟨status, known⟩ := RoleProcess.exitStatus_of_ended ended
      simp only [perform, awaitProcess, known]
  | terminate => simp only [perform, terminateProcess, if_neg living]
  | kill => simp only [perform, killProcess, if_neg living]

theorem perform_stop (alive : process.isAlive = true) (stops : request.isStop = true) :
    (request.perform world index process outside).1 = process.requestStop := by
  cases request with
  | check | await budget => cases stops
  | terminate => simp only [perform, terminateProcess, if_pos alive]
  | kill =>
      simp only [perform, killProcess, if_pos alive]
      cases ignoreMissing (world.signalGroup index .kill outside).1 <;> rfl

theorem perform_question (alive : process.isAlive = true) (asks : request.isStop = false) :
    ∃ now, (request.perform world index process outside).1 =
      process.afterCheck now (request.answer world index outside) := by
  cases request with
  | check =>
      refine ⟨world.now (world.status index outside).2, ?_⟩
      simp only [perform, answer, checkExit, if_pos alive]
      generalize world.status index outside = asked
      rcases asked with ⟨_ | _ | _, _⟩ <;> rfl
  | await budget =>
      refine ⟨world.now (world.awaitExit index budget outside).2, ?_⟩
      simp only [perform, answer, awaitProcess, RoleProcess.exitStatus_eq_none_iff.mpr alive]
      generalize world.awaitExit index budget outside = asked
      rcases asked with ⟨_ | _ | _, _⟩ <;> rfl
  | terminate | kill => cases asks

/-- A request to a living process finds its end if the world tells it. -/
theorem perform_exitStatus (alive : process.isAlive = true) :
    (request.perform world index process outside).1.exitStatus? =
      (request.answer world index outside).toOption.join := by
  cases kind : request.isStop with
  | true =>
      rw [perform_stop alive kind]
      cases request with
      | check | await budget => cases kind
      | terminate | kill => exact RoleProcess.exitStatus_eq_none_iff.mpr alive
  | false =>
      obtain ⟨now, same⟩ := perform_question alive kind
      rw [same, RoleProcess.afterCheck_exitStatus alive]

/-- A request to a living process counts as a stop if it is one. -/
theorem perform_wasStopped (alive : process.isAlive = true) :
    (request.perform world index process outside).1.wasStopped =
      (process.wasStopped || request.isStop) := by
  cases kind : request.isStop with
  | true => rw [perform_stop alive kind, RoleProcess.requestStop_wasStopped alive, Bool.or_true]
  | false =>
      obtain ⟨now, same⟩ := perform_question alive kind
      rw [same, RoleProcess.afterCheck_wasStopped alive, Bool.or_false]

end Request

/-- A request, and what happens outside before it. -/
structure Turn (σ : Type) where
  meanwhile : σ → σ
  request : Request

namespace Turn

/-- Take one turn after the other. -/
def takeAll (world : World σ) (index : Nat) (turns : List (Turn σ)) (start : RoleProcess × σ) :
    RoleProcess × σ :=
  turns.foldl (fun state turn =>
    turn.request.perform world index state.1 (turn.meanwhile state.2)) start

/-- The end that the world tells at a turn, if it is asked and knows one. -/
def found (world : World σ) (index : Nat) (turn : Turn σ) (outside : σ) : Option ExitStatus :=
  (turn.request.answer world index (turn.meanwhile outside)).toOption.join

/-- Whether one of some turns asks the process to stop. -/
def anyStop (turns : List (Turn σ)) : Bool :=
  turns.any fun turn => turn.request.isStop

variable (world : World σ) (index : Nat)

/-- No turn finds an end. -/
def Silent (turns : List (Turn σ)) (start : RoleProcess × σ) : Prop :=
  ∀ earlier turn later, turns = earlier ++ turn :: later →
    turn.found world index (takeAll world index earlier start).2 = none

/-- A turn finds an end, and none before it does. -/
structure Finds (turns : List (Turn σ)) (start : RoleProcess × σ) (earlier : List (Turn σ))
    (status : ExitStatus) : Prop where
  silent : Silent world index earlier start
  found : ∃ turn later, turns = earlier ++ turn :: later ∧
    turn.found world index (takeAll world index earlier start).2 = some status

variable {world index} {turns : List (Turn σ)} {start : RoleProcess × σ}

theorem takeAll_append (earlier later : List (Turn σ)) :
    takeAll world index (earlier ++ later) start =
      takeAll world index later (takeAll world index earlier start) :=
  List.foldl_append

theorem takeAll_concat (turn : Turn σ) :
    takeAll world index (turns ++ [turn]) start =
      turn.request.perform world index (takeAll world index turns start).1
        (turn.meanwhile (takeAll world index turns start).2) := by
  rw [takeAll_append]
  rfl

/-- A process whose end is recorded stays as it is, whatever is asked of it. -/
theorem takeAll_of_ended (ended : start.1.isAlive = false) (turns : List (Turn σ)) :
    (takeAll world index turns start).1 = start.1 := by
  induction turns using List.reverseRecOn with
  | nil => rfl
  | append_singleton turns turn inductionHypothesis =>
      rw [takeAll_concat, Request.perform_of_ended (by rwa [inductionHypothesis])]
      exact inductionHypothesis

theorem Silent.concat (silent : Silent world index turns start) {turn : Turn σ}
    (nothing : turn.found world index (takeAll world index turns start).2 = none) :
    Silent world index (turns ++ [turn]) start := by
  intro earlier other later split
  rcases List.eq_nil_or_concat later with rfl | ⟨initial, last, rfl⟩
  · obtain ⟨rfl, same⟩ := List.append_inj' split rfl
    obtain rfl := List.head_eq_of_cons_eq same
    exact nothing
  · rw [List.concat_eq_append, ← List.cons_append, ← List.append_assoc] at split
    obtain ⟨rfl, -⟩ := List.append_inj' split rfl
    exact silent earlier other initial rfl

theorem Finds.concat {earlier : List (Turn σ)} {status : ExitStatus}
    (finds : Finds world index turns start earlier status) (turn : Turn σ) :
    Finds world index (turns ++ [turn]) start earlier status := by
  obtain ⟨silent, finding, later, rfl, found⟩ := finds
  exact ⟨silent, finding, later ++ [turn], by simp, found⟩

/-- After some turns either nothing was found, or the first end that was found is recorded. -/
theorem takeAll_stands (alive : start.1.isAlive = true) (turns : List (Turn σ)) :
    let process := (takeAll world index turns start).1
    (Silent world index turns start ∧ process.exitStatus? = none ∧
        process.wasStopped = (start.1.wasStopped || anyStop turns)) ∨
      ∃ earlier status, Finds world index turns start earlier status ∧
        process.exitStatus? = some status ∧
        process.wasStopped = (start.1.wasStopped || anyStop earlier) := by
  induction turns using List.reverseRecOn with
  | nil =>
      refine Or.inl ⟨fun earlier turn later split => ?_, ?_, ?_⟩
      · simp at split
      · exact RoleProcess.exitStatus_eq_none_iff.mpr alive
      · exact (Bool.or_false _).symm
  | append_singleton turns turn inductionHypothesis =>
      dsimp only at inductionHypothesis ⊢
      rw [takeAll_concat]
      rcases inductionHypothesis with
        ⟨silent, unknown, stopped⟩ | ⟨earlier, status, finds, known, stopped⟩
      · have living := RoleProcess.exitStatus_eq_none_iff.mp unknown
        rw [Request.perform_exitStatus living, Request.perform_wasStopped living, stopped]
        cases told : turn.found world index (takeAll world index turns start).2 with
        | none =>
            refine Or.inl ⟨silent.concat told, told, ?_⟩
            simp [anyStop, Bool.or_assoc]
        | some status =>
            refine Or.inr ⟨turns, status, ⟨silent, turn, [], rfl, told⟩, told, ?_⟩
            -- a turn that finds an end asks for it, so it is no stop
            have question : turn.request.isStop = false := by
              unfold Turn.found at told
              cases kind : turn.request with
              | check | await budget => rfl
              | terminate | kill =>
                  rw [kind] at told
                  cases told
            rw [question, Bool.or_false]
      · have ended : (takeAll world index turns start).1.isAlive = false := by
          refine Bool.eq_false_iff.mpr fun living => ?_
          rw [RoleProcess.exitStatus_eq_none_iff.mpr living] at known
          cases known
        rw [Request.perform_of_ended ended]
        exact Or.inr ⟨earlier, status, finds.concat turn, known, stopped⟩

end Turn

/--
The first end that is found is kept, with the reported state: a process counts as stopped
exactly when it was asked to stop at an earlier turn, and any other end is a failure unless
it is an exit with zero.  Once the end is recorded, requests neither change the process
nor reach the world.
-/
theorem first_end_is_kept (world : World σ) (index : Nat) {process : RoleProcess}
    (untouched : process.Untouched) (outside : σ) (turns : List (Turn σ)) :
    let start := (process, outside)
    let final := (Turn.takeAll world index turns start).1
    ((Turn.Silent world index turns start ∧ final.exitState = .running) ∨
      ∃ earlier status, Turn.Finds world index turns start earlier status ∧
        final.exitStatus? = some status ∧
        final.exitState =
          (if Turn.anyStop earlier then .ofStopped status else .ofStatus status) ∧
        ((∃ code signal, final.exitState = .stopped code signal) ↔
          ∃ turn ∈ earlier, turn.request.isStop = true) ∧
        (final.exitState.isFailure = true ↔
          (∀ turn ∈ earlier, turn.request.isStop = false) ∧ status ≠ .code 0)) ∧
    ¬ (final.exitState.isFailure = true ∧ final.exitState.isClean = true) ∧
    ∀ record, final.exit = some record →
      (∀ later, (Turn.takeAll world index (turns ++ later) start).1 = final) ∧
      ∀ elsewhere : σ,
        terminateProcess world index final elsewhere = (.ok (), final, elsewhere) ∧
        killProcess world index final elsewhere = (.ok (), final, elsewhere) ∧
        checkExit world index final elsewhere = (.ok final, elsewhere) ∧
        ∀ budget, awaitProcess world index budget final elsewhere =
          (.ok (some record.status), final, elsewhere) := by
  intro start final
  have fresh : process.wasStopped = false := by
    simp [RoleProcess.wasStopped, Option.isNone_iff_eq_none.mp untouched.alive, untouched.free]
  refine ⟨?_, fun both => ?_, fun record recorded => ⟨fun later => ?_, fun elsewhere => ?_⟩⟩
  · have alive : start.1.isAlive = true := untouched.alive
    rcases Turn.takeAll_stands alive turns with
      ⟨silent, unknown, -⟩ | ⟨earlier, status, finds, known, stopped⟩
    · refine Or.inl ⟨silent, ?_⟩
      have none : final.exit = none := Option.map_eq_none_iff.mp unknown
      simp only [RoleProcess.exitState, none]
    · rw [fresh, Bool.false_or] at stopped
      have state := RoleProcess.exitState_of_exitStatus known
      rw [stopped] at state
      refine Or.inr ⟨earlier, status, finds, known, state, ?_, ?_⟩
      · rw [state, ExitState.exists_stopped_iff, Turn.anyStop, List.any_eq_true]
      · rw [state, ExitState.isFailure_ite_iff, Turn.anyStop, List.any_eq_false]
        simp only [Bool.not_eq_true]
  · rw [ExitState.not_isFailure_of_isClean both.2] at both
    exact Bool.false_ne_true both.1
  · have ended : final.isAlive = false := by simp [RoleProcess.isAlive, recorded]
    rw [Turn.takeAll_append]
    exact Turn.takeAll_of_ended ended later
  · have ended : ¬ final.isAlive = true := by simp [RoleProcess.isAlive, recorded]
    have known : final.exitStatus? = some record.status := by
      simp [RoleProcess.exitStatus?, recorded]
    refine ⟨?_, ?_, ?_, fun budget => ?_⟩
    · rw [terminateProcess, if_neg ended]
    · rw [killProcess, if_neg ended]
    · rw [checkExit, if_neg ended]
    · simp only [awaitProcess, known]

end Session

/-- A world that tells the same end of every process, which is its state. -/
def Told.world : World (Option ExitStatus) where
  now _ := .zero
  launch _ _ told := (.error .noEntry, told)
  status _ told := (.ok told, told)
  read _ _ told := (.notReady, told)
  wait _ _ _ told := (.elapsed, told)
  ready_mem _ _ _ _ _ _ _ woken := nomatch woken
  awaitExit _ _ told := (.ok told, told)
  signalGroup _ _ told := (.error .noProcess, told)
  killLeader _ told := (.ok (), told)

/-- A process that crashes while nobody looks, is found dead and is stopped after that. -/
def Told.turns : List (Session.Turn (Option ExitStatus)) :=
  [⟨id, .check⟩, ⟨fun _ => some (.signal 11), .await .zero⟩, ⟨id, .terminate⟩]

def Told.process : RoleProcess := .started .server 1000 ⟨"server", []⟩ .zero 1

theorem Session.crash_stays_failure :
    Told.process.Untouched ∧
      ∀ later, (Turn.takeAll Told.world 0 (Told.turns ++ later)
        (Told.process, none)).1.exitState = .signaled 11 := by
  have untouched : Told.process.Untouched := RoleProcess.started_untouched _ _ _ _ _
  obtain ⟨-, -, kept⟩ := first_end_is_kept Told.world 0 untouched none Told.turns
  refine ⟨untouched, fun later => ?_⟩
  rw [(kept ⟨.signal 11, .zero, false⟩ rfl).1 later]
  rfl

end Rendezvous
