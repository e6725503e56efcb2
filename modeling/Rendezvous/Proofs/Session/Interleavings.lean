import Rendezvous.Proofs.Output.Consulted
import Rendezvous.Proofs.Session.Forgotten
import Rendezvous.Proofs.Session.Tally

/-!
The lines of many streams, however their chunks are interleaved.

Chunks arrive from any streams in any order, passes are made, streams end or are
given up, and lines are taken now and then.  In the end all lines were taken in
the order of their numbers, those of each stream among them in the order of its
bytes, and each history was given those of its process.
-/

set_option autoImplicit false

namespace Rendezvous

variable {σ : Type}

/-- Something that happens to the output of a session. -/
inductive Action (σ : Type) where
  /-- A read of a stream came to its end. -/
  | receive (index : Nat) (key : Stream) (outcome : ReadOutcome)
  /-- A pass over all streams was made, in any world. -/
  | poll (world : World σ) (attentive : Bool) (budget : Duration)
  /-- Every open stream was given up. -/
  | closeAll
  /-- The complete lines were taken. -/
  | takeLines

namespace Session

/-- A chunk can come from an open stream only; anything else can happen at any time. -/
def admits (session : Session σ) : Action σ → Bool
  | .receive index key (.chunk _) =>
      session.processes[index]?.any fun process => (process.stream key).isOpen
  | .receive _ _ _ | .poll _ _ _ | .closeAll | .takeLines => true

/-- The beginning of a line that a stream of a process has got so far. -/
def unfinished (session : Session σ) (index : Nat) (key : Stream) : List UInt8 :=
  (session.processes[index]?.map fun process =>
    (process.stream key).buffer.unfinished.toList).getD []

theorem unfinished_of_getElem? {session : Session σ} {index : Nat} {process : RoleProcess}
    (found : session.processes[index]? = some process) (key : Stream) :
    session.unfinished index key = (process.stream key).buffer.unfinished.toList := by
  rw [unfinished, found]
  rfl

/-- No complete line waits, and only an open stream waits for the rest of a line. -/
def Emptied (session : Session σ) : Prop :=
  ∀ process ∈ session.processes, ∀ key, (process.stream key).buffer.lines = #[] ∧
    OutputBuffer.newline ∉ (process.stream key).buffer.unfinished.toList ∧
      ((process.stream key).isOpen = false → (process.stream key).buffer.unfinished = #[])

/-- The session with an empty journal. -/
def noted (session : Session σ) : Session (σ × Journal) :=
  ⟨(session.outside, []), session.processes, session.nextSeq⟩

end Session

namespace Tally

/-- The tally of a session from which nothing was taken. -/
def start (session : Session σ) : Tally σ :=
  { session, arrived := session.unfinished }

/-- A session and its tally after an action. -/
def act (tally : Tally σ) : Action σ → Tally σ
  | .receive index key outcome =>
      { tally with
        session := tally.session.deliver index key outcome
        arrived := fun place stream =>
          tally.arrived place stream ++ if index = place ∧ key = stream then outcome.bytes else [] }
  | .poll world attentive budget =>
      let polled := (tally.session.noted.poll world.recorded attentive budget).2
      { tally with
        session := (tally.session.poll world attentive budget).2
        arrived := fun place stream =>
          tally.arrived place stream ++ polled.journal.bytes place stream }
  | .closeAll => { tally with session := tally.session.closeAll }
  | .takeLines =>
      { tally with
        session := tally.session.takeLines.2
        lines := tally.lines ++ tally.session.takeLines.1
        given := fun index => tally.given index ++ tally.session.takenFrom index }

/-- Whether each of some actions is possible in its turn. -/
def admits (tally : Tally σ) : List (Action σ) → Bool
  | [] => true
  | action :: rest => tally.session.admits action && (tally.act action).admits rest

namespace Balanced

variable {first : Nat} {start : List History} {tally : Tally σ}

/-- Moves of the session with an empty journal add what they note to what has arrived. -/
theorem noted (balanced : Balanced first start tally) {after : Session (σ × Journal)}
    (moves : Session.Moves tally.session.noted after) :
    Balanced first start { tally with
      session := after.forget
      arrived := fun index key => tally.arrived index key ++ after.journal.bytes index key } := by
  have begun : Balanced first start ⟨tally.session.noted,
      fun index key => tally.arrived index key ++ tally.session.noted.journal.bytes index key,
      tally.lines, tally.given⟩ :=
    balanced.sameOutput tally.session.noted rfl rfl fun index key => List.append_nil _
  exact (begun.moves _ moves).sameOutput after.forget rfl rfl fun _ _ => rfl

/-- A stream that is not open gives nothing, and another end of it changes nothing. -/
theorem deliver_closed (balanced : Balanced first start tally) {index : Nat} {key : Stream}
    {outcome : ReadOutcome} (admitted : tally.session.admits (.receive index key outcome) = true)
    (closed : ∀ process, tally.session.processes[index]? = some process →
      (process.stream key).isOpen = false) :
    tally.session.deliver index key outcome = tally.session ∧ outcome.bytes = [] := by
  have nothing : outcome.bytes = [] := by
    cases outcome with
    | chunk bytes =>
        obtain ⟨process, found, isOpen⟩ := (Option.any_eq_true _ _).mp admitted
        rw [closed process found] at isOpen
        cases isOpen
    | endOfFile | interrupted | failed | notReady => rfl
  refine ⟨?_, nothing⟩
  rw [Session.deliver]
  cases found : tally.session.processes[index]? with
  | none => rfl
  | some process =>
      obtain ⟨bound, here⟩ := List.getElem?_eq_some_iff.mp found
      obtain ⟨history, -, share⟩ := balanced.each index process found
      have carries := share.streams key
      rw [OutputStream.Carries, if_neg (Bool.eq_false_iff.mp (closed process found))] at carries
      -- a closed stream has no unfinished line, so closing it again finishes none
      have same : Session.accept outcome (process.stream key) tally.session.nextSeq =
          (process.stream key, tally.session.nextSeq) := by
        have finished : (process.stream key).close tally.session.nextSeq =
            (process.stream key, tally.session.nextSeq) := by
          rw [OutputStream.close, OutputBuffer.finish, if_pos carries.unfinished,
            ← closed process found]
        cases outcome with
        | chunk bytes =>
            obtain rfl : bytes = [] := nothing
            rfl
        | endOfFile | failed => exact finished
        | interrupted | notReady => rfl
      simp only [same, RoleProcess.setStream_stream]
      rw [← here, List.set_getElem_self]

theorem receive (balanced : Balanced first start tally) {index : Nat} {key : Stream}
    {outcome : ReadOutcome}
    (admitted : tally.session.admits (.receive index key outcome) = true) :
    Balanced first start (tally.act (.receive index key outcome)) := by
  -- what a closed stream is told is not a move, but it comes to nothing
  by_cases isOpen : ∃ process, tally.session.processes[index]? = some process ∧
      (process.stream key).isOpen = true
  · obtain ⟨process, found, isOpen⟩ := isOpen
    have here : tally.session.noted.processes[index]? = some process := found
    have move := Session.Move.receive here isOpen outcome tally.session.outside
    have received : ∀ place stream, Journal.bytes [.received index key outcome] place stream =
        if index = place ∧ key = stream then outcome.bytes else [] := by
      intro place stream
      split
      · next same =>
          obtain ⟨rfl, rfl⟩ := same
          exact Journal.bytes_received [] index key outcome
      · next different => exact Journal.bytes_received_other [] different outcome
    refine (balanced.noted (.single move)).sameOutput _ ?_ ?_ fun place stream => ?_
    · rw [Session.deliver, found]
      rfl
    · rw [Session.deliver, found]
      rfl
    · exact congrArg (tally.arrived place stream ++ ·) (received place stream).symm
  · obtain ⟨same, nothing⟩ := balanced.deliver_closed admitted fun process found =>
      Bool.eq_false_iff.mpr fun isOpen' => isOpen ⟨process, found, isOpen'⟩
    refine balanced.sameOutput _ ?_ ?_ fun place stream => ?_
    · rw [same]
    · rw [same]
    · rw [nothing, ite_self, List.append_nil]

theorem act (balanced : Balanced first start tally) {action : Action σ}
    (admitted : tally.session.admits action = true) : Balanced first start (tally.act action) := by
  cases action with
  | receive index key outcome => exact balanced.receive admitted
  | poll world attentive budget =>
      have polled := balanced.noted (Session.poll_moves world attentive budget tally.session.noted)
      have same : (tally.session.poll world attentive budget).2 = _ :=
        (congrArg Prod.snd (Session.poll_forget world attentive budget tally.session.noted)).symm
      rw [Tally.act, same]
      exact polled
  | closeAll =>
      exact (balanced.noted (Session.closeAll_moves tally.session.noted)).sameOutput _ rfl rfl
        fun place stream => (List.append_nil _).symm
  | takeLines => exact balanced.takeLines

theorem acts (balanced : Balanced first start tally) {actions : List (Action σ)}
    (admitted : tally.admits actions = true) :
    Balanced first start (actions.foldl Tally.act tally) := by
  induction actions generalizing tally with
  | nil => exact balanced
  | cons action rest inductionHypothesis =>
      obtain ⟨now, later⟩ := (Bool.and_eq_true _ _).mp admitted
      exact inductionHypothesis (balanced.act now) later

theorem of_emptied {session : Session σ} (emptied : session.Emptied) :
    Balanced session.nextSeq (session.processes.map RoleProcess.history) (.start session) := by
  have none : Session.pendingIn session.processes = [] := by
    refine List.flatMap_eq_nil_iff.mpr fun process membership => ?_
    simp [RoleProcess.pending, RoleProcess.pendingOf, emptied process membership]
  refine ⟨rfl, ?_, ?_, ?_, List.length_map _, ?_, fun index beyond => ⟨rfl, fun key => ?_⟩⟩
  · rw [Tally.start, none]
    exact .refl _
  · rw [Tally.start, none]
    rfl
  · have nothing : (List.range session.processes.length).flatMap (Tally.start session).given = [] :=
      List.flatMap_eq_nil_iff.mpr fun _ _ => rfl
    exact nothing ▸ .refl _
  · intro index process (found : session.processes[index]? = some process)
    have begun : ∀ key, (Tally.start session).arrived index key =
      (process.stream key).buffer.unfinished.toList := Session.unfinished_of_getElem? found
    refine ⟨process.history, ?_, fun key => ?_, .nil, List.forall_mem_nil _, fun key => ?_, rfl⟩
    · rw [List.getElem?_map, found]
      rfl
    · rw [RoleProcess.pendingOf, (emptied process (List.mem_of_getElem? found) key).1]
      exact .nil
    · obtain ⟨complete, absent, ended⟩ := emptied process (List.mem_of_getElem? found) key
      have nothing : (process.stream key).buffer.texts = [] := by
        rw [OutputBuffer.texts, complete]
        rfl
      have whole := Output.pieces_of_not_mem absent
      rw [begun]
      unfold OutputStream.Carries
      split <;> rename_i state
      · refine ⟨?_, nothing.trans ?_⟩
        · rw [Output.rest, whole]
          rfl
        · rw [Output.finished, whole]
          rfl
      · rw [ended (Bool.eq_false_iff.mpr state)]
        exact ⟨ended (Bool.eq_false_iff.mpr state), nothing⟩
  · have missing : session.processes[index]? = Option.none := List.getElem?_eq_none beyond
    exact congrArg (fun process => (process.map fun process : RoleProcess =>
      (process.stream key).buffer.unfinished.toList).getD []) missing

/-- What a stream has given when nothing of it waits. -/
theorem texts (balanced : Balanced first start tally)
    (none : Session.pendingIn tally.session.processes = []) {index : Nat} {process : RoleProcess}
    (found : tally.session.processes[index]? = some process) (key : Stream) :
    Output.textsFrom key (tally.given index) =
      if (process.stream key).isOpen then Output.finished (tally.arrived index key)
      else Output.lines (tally.arrived index key) := by
  obtain ⟨history, -, share⟩ := balanced.each index process found
  have nothing : (process.stream key).buffer.texts = [] := by
    have empty := List.flatMap_eq_nil_iff.mp none process (List.mem_of_getElem? found)
    have waits : process.pendingOf key = [] :=
      List.eq_nil_iff_forall_not_mem.mpr fun line waits =>
        List.eq_nil_iff_forall_not_mem.mp empty line (RoleProcess.mem_pending.mpr ⟨key, waits⟩)
    rw [OutputBuffer.texts, List.map_eq_nil_iff.mp waits]
    rfl
  have carries := share.streams key
  unfold OutputStream.Carries at carries
  split <;> rename_i state
  · rw [if_pos state] at carries
    rw [← carries.lines, nothing, List.append_nil]
  · rw [if_neg state] at carries
    rw [← carries.lines, nothing, List.append_nil]

end Balanced

/--
Whatever arrives from whichever streams, and whenever they end, are given up and
have their lines taken: once lines are taken at last, they were taken under all
numbers from the first to the next one, in order.  Each process has given its part
of them, and no other one: the lines of each of its streams in the order of their
bytes, and its history got those of both in the order of the numbers.  So it has the
last of all lines that it ever got, up to its limit, and has counted the others.
-/
theorem taken_in_order (session : Session σ) (emptied : session.Emptied)
    (actions : List (Action σ)) (admitted : (start session).admits actions = true) :
    let tally := (actions ++ [Action.takeLines]).foldl act (start session)
    let last := tally.session
    session.nextSeq ≤ last.nextSeq ∧
    tally.lines.map Line.seq =
      List.range' session.nextSeq (last.nextSeq - session.nextSeq) ∧
    tally.lines.Perm ((List.range session.processes.length).flatMap tally.given) ∧
    last.processes.length = session.processes.length ∧
    ∀ (index : Nat) (before after : RoleProcess), session.processes[index]? = some before →
      last.processes[index]? = some after →
        (tally.given index).Sublist tally.lines ∧
        (∀ line ∈ tally.given index, line.role = after.role) ∧
        (∀ key, Output.textsFrom key (tally.given index) =
          if (after.stream key).isOpen then Output.finished (tally.arrived index key)
          else Output.lines (tally.arrived index key)) ∧
        after.history = (tally.given index).foldl History.push before.history ∧
        ∀ (limit : Nat) (earlier : List Line),
          before.history = earlier.foldl History.push (.empty limit) →
            let all := earlier ++ tally.given index
            let kept := min (Nat.max limit 1) all.length
            after.history.lines = all.rtake kept ∧ after.history.length = kept ∧
              after.history.dropped = all.length - kept := by
  rw [List.foldl_append]
  have acted := (Balanced.of_emptied emptied).acts admitted
  generalize actions.foldl act (start session) = taking at acted
  intro tally last
  have balanced : Balanced session.nextSeq (session.processes.map RoleProcess.history) tally :=
    acted.takeLines
  have none : Session.pendingIn last.processes = [] :=
    Session.pendingIn_takeLines taking.session
  have next : last.nextSeq = session.nextSeq + tally.lines.length := by
    rw [balanced.nextSeq, none]
    rfl
  have size : last.processes.length = session.processes.length := by
    rw [← balanced.begun, List.length_map]
  refine ⟨by omega, ?_, size ▸ balanced.shares, size, fun index before after begun found => ?_⟩
  · rw [balanced.numbers, next, Nat.add_sub_cancel_left]
  · obtain ⟨history, first, share⟩ := balanced.each index after found
    rw [List.getElem?_map, begun] at first
    obtain rfl := Option.some.inj first
    refine ⟨share.increasing.sublist balanced.increasing (balanced.given_subset index),
      share.owned, balanced.texts none found, share.history, fun limit earlier got => ?_⟩
    rw [share.history, got, ← List.foldl_append]
    exact ⟨History.lines_foldl_push limit _, History.length_foldl_push limit _,
      (History.dropped_foldl_push limit _).trans
        (congrArg _ (History.length_foldl_push limit _))⟩

/-- Two servers of which nothing has been read; of the first one a single line is kept. -/
def twoServers : Session Unit where
  outside := ()
  processes := [.started .server 1 ⟨"first", []⟩ .zero 1, .started .server 2 ⟨"second", []⟩ .zero 3]
  nextSeq := 5

/-- A line and a half of the first server, a line of the second, and the end. -/
def exchange : List (Action Unit) :=
  [.receive 0 .stdout (.chunk [97, 10, 98]), .receive 1 .stderr (.chunk [99, 10]), .takeLines,
    .receive 0 .stdout .endOfFile, .closeAll]

/-- The lines of both servers were taken in order, and the first one has its last line only. -/
theorem twoServers_taken :
    let tally := (exchange ++ [Action.takeLines]).foldl act (start twoServers)
    twoServers.Emptied ∧ (start twoServers).admits exchange = true ∧
      tally.lines.map Line.seq = [5, 6, 7] ∧
      Output.textsFrom .stdout (tally.given 0) = ["a", "b"] ∧
      ∃ after, tally.session.processes[0]? = some after ∧
        after.history.lines.map Line.text = ["b"] ∧ after.history.dropped = 1 := by
  intro tally
  have emptied : twoServers.Emptied := by
    intro process membership key
    simp only [twoServers, List.mem_cons, List.not_mem_nil, or_false] at membership
    rcases membership with rfl | rfl <;> cases key <;> decide
  have admitted : (start twoServers).admits exchange = true := by decide +kernel
  obtain ⟨-, numbers, -, -, each⟩ := taken_in_order twoServers emptied exchange admitted
  have closed : (tally.session.processes[0]?.map fun process =>
      (process.stream .stdout).isOpen) = some false := by decide +kernel
  obtain ⟨after, found, state⟩ := Option.map_eq_some_iff.mp closed
  obtain ⟨-, -, texts, -, history⟩ := each 0 _ after rfl found
  obtain ⟨lines, -, dropped⟩ := history 1 [] rfl
  refine ⟨emptied, admitted, numbers.trans (by decide +kernel), ?_, after, found, ?_, ?_⟩
  · rw [texts, state]
    decide +kernel
  · rw [lines]
    decide +kernel
  · rw [dropped]
    decide +kernel

end Tally

end Rendezvous
