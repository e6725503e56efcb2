import Mathlib.Logic.Relation
import Rendezvous.Proofs.Journal
import Rendezvous.Session

/-!
What the operations of a session can do, as single moves.

A move checks a process, reads a stream, gives one up, or lets time pass; it says
what becomes of the journal.  `Session.poll`, `Session.refreshExits` and
`Session.closeAll` are sequences of moves, so whatever every move keeps is kept
by each of them.
-/

set_option autoImplicit false

namespace Rendezvous

variable {σ : Type}

/-- A process after a check of its end was answered. -/
def RoleProcess.afterCheck (process : RoleProcess) (now : Duration) :
    Except SystemError (Option ExitStatus) → RoleProcess
  | .ok (some status) => process.noticeExit now status
  | .ok none | .error _ => process

namespace Session

def journal (session : Session (σ × Journal)) : Journal :=
  session.outside.2

/-- One move of a session that is recorded. -/
inductive Move : Session (σ × Journal) → Session (σ × Journal) → Prop where
  /-- A living process was checked. -/
  | check {session : Session (σ × Journal)} {index : Nat} {process : RoleProcess}
      (found : session.processes[index]? = some process) (alive : process.isAlive = true)
      (answer : Except SystemError (Option ExitStatus)) (now : Duration) (outside : σ) :
      Move session {
        outside := (outside, session.journal ++ [.checked index answer])
        processes := session.processes.set index (process.afterCheck now answer)
        nextSeq := session.nextSeq }
  /-- An open stream was read. -/
  | receive {session : Session (σ × Journal)} {index : Nat} {process : RoleProcess}
      (found : session.processes[index]? = some process) {key : Stream}
      (isOpen : (process.stream key).isOpen = true) (outcome : ReadOutcome) (outside : σ) :
      Move session {
        outside := (outside, session.journal ++ [.received index key outcome])
        processes := session.processes.set index
          (process.setStream key (accept outcome (process.stream key) session.nextSeq).1)
        nextSeq := (accept outcome (process.stream key) session.nextSeq).2 }
  /-- An open stream was given up. -/
  | close {session : Session (σ × Journal)} {index : Nat} {process : RoleProcess}
      (found : session.processes[index]? = some process) {key : Stream}
      (isOpen : (process.stream key).isOpen = true) :
      Move session {
        outside := session.outside
        processes := session.processes.set index
          (process.setStream key ((process.stream key).close session.nextSeq).1)
        nextSeq := ((process.stream key).close session.nextSeq).2 }
  /-- Time passed. -/
  | sleep {session : Session (σ × Journal)} (outside : σ) :
      Move session { session with outside := (outside, session.journal) }

/-- Any number of moves. -/
abbrev Moves : Session (σ × Journal) → Session (σ × Journal) → Prop :=
  Relation.ReflTransGen Move

theorem getElem?_append_cons_length (before after : List RoleProcess) (process : RoleProcess) :
    (before ++ process :: after)[before.length]? = some process := by
  simp

theorem set_append_cons_length (before after : List RoleProcess)
    (process changed : RoleProcess) :
    (before ++ process :: after).set before.length changed = before ++ changed :: after := by
  simp

/-- A check notes the answer in the journal and what it says about the process. -/
theorem checkExit_recorded (world : World σ) (index : Nat) {process : RoleProcess}
    (alive : process.isAlive = true) (outside : σ × Journal) :
    ∃ answer now after,
      (checkExit world.recorded index process outside).1.toOption.getD process =
        process.afterCheck now answer ∧
      (checkExit world.recorded index process outside).2 =
        (after, outside.2 ++ [.checked index answer]) := by
  refine ⟨(world.status index outside.1).1, world.now (world.status index outside.1).2,
    (world.status index outside.1).2, ?_⟩
  simp only [checkExit, if_pos alive, World.recorded_status, World.recorded_now]
  generalize world.status index outside.1 = asked
  rcases asked with ⟨_ | _ | _, _⟩ <;> exact ⟨rfl, rfl⟩

theorem checkExit_moves (world : World σ) (before after : List RoleProcess)
    (process : RoleProcess) (seq : Nat) (outside : σ × Journal) :
    Moves ⟨outside, before ++ process :: after, seq⟩
      ⟨(checkExit world.recorded before.length process outside).2,
        before ++
          (checkExit world.recorded before.length process outside).1.toOption.getD process :: after,
        seq⟩ := by
  by_cases alive : process.isAlive = true
  · obtain ⟨answer, now, later, checked, noted⟩ :=
      checkExit_recorded world before.length alive outside
    have move : Move ⟨outside, before ++ process :: after, seq⟩ _ :=
      .check (getElem?_append_cons_length before after process) alive answer now later
    rw [set_append_cons_length] at move
    rw [checked, noted]
    exact .single move
  · rw [checkExit, if_neg alive]
    exact .refl

theorem checkExitsFrom_moves (world : World σ) (before rest : List RoleProcess) (seq : Nat)
    (outside : σ × Journal) :
    Moves ⟨outside, before ++ rest, seq⟩
      ⟨(checkExitsFrom world.recorded before.length rest outside).2.2,
        before ++ (checkExitsFrom world.recorded before.length rest outside).2.1, seq⟩ := by
  induction rest generalizing before outside with
  | nil => exact .refl
  | cons process rest inductionHypothesis =>
      have first := checkExit_moves world before rest process seq outside
      unfold checkExitsFrom
      rcases answered : checkExit world.recorded before.length process outside with
        ⟨_ | checked, later⟩ <;> rw [answered] at first
      · exact first
      · have others := inductionHypothesis (before ++ [checked]) later
        simp only [List.length_append, List.length_singleton, List.append_assoc,
          List.singleton_append] at others
        exact first.trans others

theorem checkExits_moves (world : World σ) (session : Session (σ × Journal)) :
    Moves session (session.checkExits world.recorded).2 :=
  checkExitsFrom_moves world [] session.processes session.nextSeq session.outside

theorem refreshExitsFrom_moves (world : World σ) (before rest : List RoleProcess) (seq : Nat)
    (outside : σ × Journal) :
    Moves ⟨outside, before ++ rest, seq⟩
      ⟨(refreshExitsFrom world.recorded before.length rest outside).2,
        before ++ (refreshExitsFrom world.recorded before.length rest outside).1, seq⟩ := by
  induction rest generalizing before outside with
  | nil => exact .refl
  | cons process rest inductionHypothesis =>
      have first := checkExit_moves world before rest process seq outside
      unfold refreshExitsFrom
      rcases answered : checkExit world.recorded before.length process outside with
        ⟨checked, later⟩
      rw [answered] at first
      have others := inductionHypothesis (before ++ [checked.toOption.getD process]) later
      simp only [List.length_append, List.length_singleton, List.append_assoc,
        List.singleton_append] at others
      exact first.trans others

theorem refreshExits_moves (world : World σ) (session : Session (σ × Journal)) :
    Moves session (session.refreshExits world.recorded) :=
  refreshExitsFrom_moves world [] session.processes session.nextSeq session.outside

theorem receive_move (before after : List RoleProcess) (process : RoleProcess) {key : Stream}
    (isOpen : (process.stream key).isOpen = true) (seq : Nat) (state : σ × Journal)
    (outcome : ReadOutcome) (outside : σ) :
    Move ⟨state, before ++ process :: after, seq⟩
      ⟨(outside, state.2 ++ [.received before.length key outcome]),
        before ++ process.setStream key (accept outcome (process.stream key) seq).1 :: after,
        (accept outcome (process.stream key) seq).2⟩ := by
  have move : Move ⟨state, before ++ process :: after, seq⟩ _ :=
    .receive (getElem?_append_cons_length before after process) isOpen outcome outside
  rwa [set_append_cons_length] at move

theorem sweepStream_moves (world : World σ) (before after : List RoleProcess)
    (process : RoleProcess) (key : Stream) (reads seq : Nat) (outside : σ × Journal) :
    let swept :=
      sweepStream world.recorded before.length key reads (process.stream key) seq outside
    Moves ⟨outside, before ++ process :: after, seq⟩
      ⟨swept.2.2, before ++ process.setStream key swept.1 :: after, swept.2.1⟩ := by
  induction reads generalizing process seq outside with
  | zero =>
      simp only [sweepStream, RoleProcess.setStream_stream]
      exact .refl
  | succ reads inductionHypothesis =>
      by_cases isOpen : (process.stream key).isOpen = true
      · have first := receive_move before after process isOpen seq outside
          (world.read before.length key outside.1).1 (world.read before.length key outside.1).2
        simp only [sweepStream, if_pos isOpen, World.recorded_read]
        generalize world.read before.length key outside.1 = read at first
        obtain ⟨outcome, later⟩ := read
        by_cases idle : outcome = .notReady
        · subst idle
          exact .single first
        · have others := inductionHypothesis
            (process.setStream key (accept outcome (process.stream key) seq).1)
            (accept outcome (process.stream key) seq).2
            (later, outside.2 ++ [.received before.length key outcome])
          simp only [RoleProcess.stream_setStream_same, RoleProcess.setStream_setStream] at others
          cases outcome with
          | notReady => exact absurd rfl idle
          | chunk | endOfFile | interrupted | failed => exact .head first others
      · simp only [sweepStream, if_neg isOpen, RoleProcess.setStream_stream]
        exact .refl

theorem sweepProcess_moves (world : World σ) (before after : List RoleProcess)
    (process : RoleProcess) (seq : Nat) (outside : σ × Journal) :
    let swept := sweepProcess world.recorded before.length process seq outside
    Moves ⟨outside, before ++ process :: after, seq⟩
      ⟨swept.2.2, before ++ swept.1 :: after, swept.2.1⟩ :=
  (sweepStream_moves world before after process .stdout sweepReads seq outside).trans
    (sweepStream_moves world before after _ .stderr sweepReads _ _)

theorem sweepFrom_moves (world : World σ) (before rest : List RoleProcess) (seq : Nat)
    (outside : σ × Journal) :
    let swept := sweepFrom world.recorded before.length rest seq outside
    Moves ⟨outside, before ++ rest, seq⟩ ⟨swept.2.2, before ++ swept.1, swept.2.1⟩ := by
  induction rest generalizing before seq outside with
  | nil => exact .refl
  | cons process rest inductionHypothesis =>
      have first := sweepProcess_moves world before rest process seq outside
      unfold sweepFrom
      rcases swept : sweepProcess world.recorded before.length process seq outside with
        ⟨changed, next, later⟩
      rw [swept] at first
      have others := inductionHypothesis (before ++ [changed]) next later
      simp only [List.length_append, List.length_singleton, List.append_assoc,
        List.singleton_append] at others
      exact first.trans others

theorem sweep_moves (world : World σ) (session : Session (σ × Journal)) :
    Moves session (session.sweep world.recorded) :=
  sweepFrom_moves world [] session.processes session.nextSeq session.outside

theorem mem_openStreams {session : Session σ} {index : Nat} {key : Stream} :
    (index, key) ∈ session.openStreams ↔
      ∃ process, session.processes[index]? = some process ∧
        (process.stream key).isOpen = true := by
  simp only [openStreams, List.mem_flatMap, List.mem_map, RoleProcess.openStreams, List.mem_filter,
    Prod.exists, Prod.mk.injEq]
  constructor
  · rintro ⟨process, place, membership, stream, ⟨-, isOpen⟩, rfl, rfl⟩
    exact ⟨process, List.mem_zipIdx_iff_getElem?.mp membership, isOpen⟩
  · rintro ⟨process, found, isOpen⟩
    exact ⟨process, index, List.mem_zipIdx_iff_getElem?.mpr found, key,
      ⟨Stream.mem_all key, isOpen⟩, rfl, rfl⟩

theorem mem_openStreams_of_mem_watched {session : Session σ} {budget : Duration}
    {place : Nat × Stream} (membership : place ∈ session.watched budget) :
    place ∈ session.openStreams := by
  unfold watched at membership
  split at membership
  · cases membership
  · exact membership

/-- What a wait gave for an open stream is a move. -/
theorem deliver_move {session : Session (σ × Journal)} {index : Nat} {key : Stream}
    (isOpen : (index, key) ∈ session.openStreams) (outcome : ReadOutcome) (outside : σ) :
    Move session
      (({ session with
          outside := (outside, session.journal ++ [.received index key outcome]) } :
        Session (σ × Journal)).deliver index key outcome) := by
  obtain ⟨process, found, open_⟩ := mem_openStreams.mp isOpen
  simpa [deliver, found] using Move.receive found open_ outcome outside

/-- A wait and what follows it. -/
theorem waited_moves (world : World σ) (attentive : Bool) (budget : Duration)
    (session : Session (σ × Journal)) :
    let woken :=
      world.recorded.wait (session.watched budget) budget attentive session.outside
    Moves session
      ({ session with outside := woken.2 }.afterWait world.recorded attentive woken.1).2 := by
  have woken := world.ready_mem (session.watched budget) budget attentive session.outside.1
  simp only [World.recorded_wait]
  generalize world.wait (session.watched budget) budget attentive session.outside.1 = wait at woken
  obtain ⟨wake, outside⟩ := wait
  have slept : Moves session { session with outside := (outside, session.outside.2 ++ []) } := by
    rw [List.append_nil]
    exact .single (.sleep outside)
  cases wake with
  | elapsed => exact slept.trans (sweep_moves world _)
  | interrupted =>
      cases attentive
      · exact slept.trans (sweep_moves world _)
      · exact slept
  | ready index key outcome =>
      have isOpen := mem_openStreams_of_mem_watched (woken index key outcome rfl)
      exact .head (deliver_move isOpen outcome outside) (sweep_moves world _)

theorem poll_moves (world : World σ) (attentive : Bool) (budget : Duration)
    (session : Session (σ × Journal)) :
    Moves session (session.poll world.recorded attentive budget).2 := by
  have checks := checkExits_moves world session
  unfold poll
  rcases checked : session.checkExits world.recorded with ⟨_ | _, later⟩ <;> rw [checked] at checks
  · exact checks
  · exact checks.trans (waited_moves world attentive budget later)

theorem drain_moves (world : World σ) (session : Session (σ × Journal)) :
    Moves session (session.drain world.recorded).2 :=
  poll_moves world false .zero session

theorem pause_moves (world : World σ) (time : Duration) (session : Session (σ × Journal)) :
    Moves session { session with outside := world.recorded.pause time session.outside } := by
  have nothing := world.ready_mem [] time false session.outside.1
  simp only [World.pause, World.recorded_wait]
  generalize world.wait [] time false session.outside.1 = wait at nothing
  obtain ⟨wake, outside⟩ := wait
  have slept : Moves session { session with outside := (outside, session.outside.2 ++ []) } := by
    rw [List.append_nil]
    exact .single (.sleep outside)
  cases wake with
  | elapsed | interrupted => exact slept
  | ready index key outcome => exact absurd (nothing index key outcome rfl) (by simp)

theorem closeIfOpen_moves (outside : σ × Journal) (before after : List RoleProcess)
    (process : RoleProcess) (key : Stream) (seq : Nat) :
    Moves ⟨outside, before ++ process :: after, seq⟩
      ⟨outside,
        before ++ process.setStream key ((process.stream key).closeIfOpen seq).1 :: after,
        ((process.stream key).closeIfOpen seq).2⟩ := by
  unfold OutputStream.closeIfOpen
  split
  · next isOpen =>
      have move : Move ⟨outside, before ++ process :: after, seq⟩ _ :=
        .close (getElem?_append_cons_length before after process) isOpen
      rw [set_append_cons_length] at move
      exact .single move
  · rw [RoleProcess.setStream_stream]

theorem closeFrom_moves (outside : σ × Journal) (before rest : List RoleProcess) (seq : Nat) :
    Moves ⟨outside, before ++ rest, seq⟩
      ⟨outside, before ++ (closeFrom rest seq).1, (closeFrom rest seq).2⟩ := by
  induction rest generalizing before seq with
  | nil => exact .refl
  | cons process rest inductionHypothesis =>
      have stdout := closeIfOpen_moves outside before rest process .stdout seq
      have stderr := closeIfOpen_moves outside before rest
        (process.setStream .stdout (process.stdout.closeIfOpen seq).1) .stderr
        (process.stdout.closeIfOpen seq).2
      have others := inductionHypothesis (before ++ [(process.closeStreams seq).1])
        (process.closeStreams seq).2
      simp only [List.append_assoc, List.singleton_append] at others
      exact (stdout.trans stderr).trans others

theorem closeAll_moves (session : Session (σ × Journal)) : Moves session session.closeAll :=
  closeFrom_moves session.outside [] session.processes session.nextSeq

end Session

end Rendezvous
