import Mathlib.Data.List.Perm.Subperm
import Mathlib.Data.List.Sort
import Rendezvous.Proofs.Output.Kept
import Rendezvous.Proofs.Session.Moves
import Rendezvous.Proofs.Session.Streams

/-!
Where every line of a session is.

A tally follows a session: it has the bytes that arrived, the lines that were
taken, and those among them that each process gave.  It is balanced when the lines
that were taken and the lines that wait carry all numbers so far, when each stream
has given the lines of its bytes in order, and when each history was given what
its process gave.  Every move keeps the balance, and so does taking lines.  The
processes may have any roles, the same ones too, so they are told apart by their
places.
-/

set_option autoImplicit false

namespace Rendezvous

variable {σ : Type}

namespace Output

/-- Lines in the strict order of their numbers. -/
abbrev Increasing (lines : List Line) : Prop :=
  lines.Pairwise fun line other => line.seq < other.seq

/-- The texts of the lines of a stream among some lines of one process. -/
def textsFrom (key : Stream) (lines : List Line) : List String :=
  (lines.filter fun line => line.stream = key).map Line.text

theorem textsFrom_append (key : Stream) (first second : List Line) :
    textsFrom key (first ++ second) = textsFrom key first ++ textsFrom key second := by
  simp [textsFrom]

/-- Lines in the order of their numbers stand among others in that order if they are among them. -/
theorem Increasing.sublist {first second : List Line} (former : Increasing first)
    (latter : Increasing second) (part : first ⊆ second) : first.Sublist second := by
  have : Std.Antisymm fun line other : Line => line.seq < other.seq :=
    ⟨fun _ _ less more => absurd (Nat.lt_trans less more) (Nat.lt_irrefl _)⟩
  have distinct : first.Nodup := former.imp fun less same => Nat.ne_of_lt less (congrArg _ same)
  exact List.sublist_of_subperm_of_pairwise (List.subperm_of_subset distinct part) former latter

end Output

theorem RoleProcess.heard_afterCheck (process : RoleProcess) (now : Duration)
    (answer : Except SystemError (Option ExitStatus)) :
    (process.afterCheck now answer).heard = process.heard := by
  rcases answer with _ | _ | status
  · rfl
  · rfl
  · simp only [afterCheck, noticeExit]
    split <;> rfl

/--
What a process has waiting, and what it has given of what has arrived: the lines
of each stream in their order, and those of both together in its history.
-/
structure Share (process : RoleProcess) (history : History) (arrived : Stream → List UInt8)
    (given : List Line) : Prop where
  ordered : ∀ key, Output.Increasing (process.pendingOf key)
  increasing : Output.Increasing given
  owned : ∀ line ∈ given, line.role = process.role
  streams : ∀ key, (process.stream key).Carries (arrived key) (Output.textsFrom key given)
  history : process.history = given.foldl History.push history

namespace Share

variable {process : RoleProcess} {history : History} {arrived : Stream → List UInt8}
  {given : List Line}

theorem setStream (share : Share process history arrived given) {key : Stream}
    {stream : OutputStream} {seq next : Nat}
    (grows : OutputBuffer.Grows ((process.stream key).buffer, seq) (stream.buffer, next))
    (below : ∀ line ∈ process.pendingOf key, line.seq < seq) {now : Stream → List UInt8}
    (carries : stream.Carries (now key) (Output.textsFrom key given))
    (others : ∀ other, other ≠ key → now other = arrived other) :
    Share (process.setStream key stream) history now given := by
  obtain ⟨added, grown, -, numbers, -⟩ := process.pending_setStream key grows
  refine ⟨fun other => ?_, share.increasing, ?_, fun other => ?_, ?_⟩
  · by_cases same : other = key
    · subst same
      rw [grown]
      refine List.pairwise_append.mpr ⟨share.ordered other, ?_, ?_⟩
      · exact List.pairwise_map.mp (numbers ▸ List.pairwise_lt_range' 1)
      · intro line waits newLine isNew
        have fresh := List.mem_map_of_mem (f := Line.seq) isNew
        rw [numbers, List.mem_range'_1] at fresh
        exact Nat.lt_of_lt_of_le (below line waits) fresh.1
    · rw [process.pendingOf_setStream_other stream same]
      exact share.ordered other
  · rw [RoleProcess.setStream_role]
    exact share.owned
  · by_cases same : other = key
    · subst same
      rw [RoleProcess.stream_setStream_same]
      exact carries
    · rw [process.stream_setStream_other stream same, others other same]
      exact share.streams other
  · rw [RoleProcess.setStream_history]
    exact share.history

/-- What does not touch the output of a process keeps its share. -/
theorem sameOutput (share : Share process history arrived given) {after : RoleProcess}
    (same : after.heard = process.heard) : Share after history arrived given := by
  have role : after.role = process.role := congrArg Prod.fst same
  have kept : after.history = process.history := congrArg (fun heard => heard.2.2.2) same
  exact ⟨fun key => RoleProcess.pendingOf_of_heard same key ▸ share.ordered key,
    share.increasing, role ▸ share.owned,
    fun key => RoleProcess.stream_of_heard same key ▸ share.streams key,
    kept.trans share.history⟩

/-- A process gives what it has waiting, in the order of the numbers. -/
theorem takeLines (share : Share process history arrived given)
    (distinct : (process.pending.map Line.seq).Nodup)
    (later : ∀ line ∈ given, ∀ other ∈ process.pending, line.seq < other.seq) :
    Share process.takeLines.2 history arrived (given ++ process.takeLines.1) := by
  have taken : process.takeLines.1 = Output.sorted process.pending := rfl
  have sorted : Output.Increasing process.takeLines.1 := Output.sorted_pairwise distinct
  have pending : ∀ {line}, line ∈ process.takeLines.1 ↔ line ∈ process.pending :=
    (Output.sorted_perm process.pending).mem_iff
  refine ⟨fun key => ?_, ?_, ?_, fun key => ?_, ?_⟩
  · cases key <;> exact .nil
  · exact List.pairwise_append.mpr ⟨share.increasing, sorted,
      fun line old other new => later line old other (pending.mp new)⟩
  · intro line membership
    rcases List.mem_append.mp membership with old | new
    · exact share.owned line old
    · exact (RoleProcess.role_of_mem_pending (pending.mp new) :)
  · have part : (process.takeLines.1.filter fun line => line.stream = key) =
        process.pendingOf key := by
      refine Output.eq_of_perm_of_pairwise ?_ (sorted.filter _) (share.ordered key)
      rw [← process.filter_stream_pending key, taken]
      exact (Output.sorted_perm process.pending).filter _
    have texts : Output.textsFrom key process.takeLines.1 =
        (process.stream key).buffer.texts := by
      rw [Output.textsFrom, part]
      simp [RoleProcess.pendingOf, OutputBuffer.texts, Function.comp_def]
    rw [RoleProcess.takeLines_stream, Output.textsFrom_append, texts]
    exact (share.streams key).emptied
  · rw [RoleProcess.takeLines_history, List.foldl_append, ← share.history]
    rfl

/-- A process that has just been started has given nothing. -/
theorem started (role : Role) (pid : Nat) (line : CommandLine) (now : Duration)
    (historyLines : Nat) :
    Share (.started role pid line now historyLines) (.empty historyLines) (fun _ => []) [] := by
  refine ⟨fun key => ?_, .nil, List.forall_mem_nil _, fun key => ?_, rfl⟩
  · cases key <;> exact .nil
  · cases key <;> exact OutputStream.carries_fresh

end Share

/-- A session, what has arrived in it, and what was taken from it. -/
structure Tally (σ : Type) where
  session : Session σ
  /-- The bytes that arrived in the streams of each process. -/
  arrived : Nat → Stream → List UInt8 := fun _ _ => []
  /-- The lines that were taken, in the order in which they were. -/
  lines : List Line := []
  /-- The lines among them that each process gave. -/
  given : Nat → List Line := fun _ => []

namespace Tally

/-- What was taken and what waits carries all numbers, and each process has its share of it. -/
structure Balanced (first : Nat) (start : List History) (tally : Tally σ) : Prop where
  numbers : tally.lines.map Line.seq = List.range' first tally.lines.length
  pending : ((Session.pendingIn tally.session.processes).map Line.seq).Perm
    (List.range' (first + tally.lines.length) (Session.pendingIn tally.session.processes).length)
  nextSeq : tally.session.nextSeq =
    first + tally.lines.length + (Session.pendingIn tally.session.processes).length
  shares : tally.lines.Perm ((List.range tally.session.processes.length).flatMap tally.given)
  begun : start.length = tally.session.processes.length
  each : ∀ (index : Nat) (process : RoleProcess), tally.session.processes[index]? = some process →
    ∃ history, start[index]? = some history ∧
      Share process history (tally.arrived index) (tally.given index)
  unread : ∀ index, tally.session.processes.length ≤ index →
    tally.given index = [] ∧ ∀ key, tally.arrived index key = []

namespace Balanced

variable {first : Nat} {start : List History} {tally : Tally σ}

/-- The lines that wait have different numbers, all below the next one. -/
theorem distinct (balanced : Balanced first start tally) :
    ((Session.pendingIn tally.session.processes).map Line.seq).Nodup :=
  balanced.pending.nodup_iff.mpr (List.nodup_range' 1)

theorem seq_of_pending (balanced : Balanced first start tally) {line : Line}
    (waits : line ∈ Session.pendingIn tally.session.processes) :
    first + tally.lines.length ≤ line.seq ∧ line.seq < tally.session.nextSeq := by
  have bounded := balanced.pending.mem_iff.mp (List.mem_map_of_mem waits)
  rw [List.mem_range'_1, ← balanced.nextSeq] at bounded
  exact bounded

theorem increasing (balanced : Balanced first start tally) : Output.Increasing tally.lines :=
  List.pairwise_map.mp (balanced.numbers ▸ List.pairwise_lt_range' 1)

/-- What a process gave was taken. -/
theorem given_subset (balanced : Balanced first start tally) (index : Nat) :
    tally.given index ⊆ tally.lines := by
  intro line membership
  rcases Nat.lt_or_ge index tally.session.processes.length with inside | beyond
  · exact balanced.shares.mem_iff.mpr
      (List.mem_flatMap.mpr ⟨index, List.mem_range.mpr inside, membership⟩)
  · rw [(balanced.unread index beyond).1] at membership
    cases membership

theorem seq_of_given (balanced : Balanced first start tally) {index : Nat} {line : Line}
    (membership : line ∈ tally.given index) : line.seq < first + tally.lines.length := by
  have taken := List.mem_map_of_mem (f := Line.seq) (balanced.given_subset index membership)
  rw [balanced.numbers, List.mem_range'_1] at taken
  exact taken.2

/-- One stream may change if it still carries its bytes and gives new lines the next numbers. -/
theorem setStream (balanced : Balanced first start tally) {index : Nat} {process : RoleProcess}
    (found : tally.session.processes[index]? = some process) {key : Stream}
    {stream : OutputStream} {next : Nat} {outside : σ} {now : Nat → Stream → List UInt8}
    (grows : OutputBuffer.Grows ((process.stream key).buffer, tally.session.nextSeq)
      (stream.buffer, next))
    (carries : stream.Carries (now index key) (Output.textsFrom key (tally.given index)))
    (others : ∀ other otherKey, ¬ (index = other ∧ key = otherKey) →
      now other otherKey = tally.arrived other otherKey) :
    Balanced first start { tally with
      session :=
        ⟨outside, tally.session.processes.set index (process.setStream key stream), next⟩
      arrived := now } := by
  have membership := List.mem_of_getElem? found
  have bound := (List.getElem?_eq_some_iff.mp found).1
  obtain ⟨added, -, more, numbers, final⟩ := process.pending_setStream key grows
  have waiting := Session.pendingIn_set found more
  have length := waiting.length_eq
  rw [List.length_append] at length
  refine ⟨balanced.numbers, ?_, ?_, ?_, ?_, ?_, ?_⟩
  · rw [length, ← List.range'_append_1]
    refine (waiting.map Line.seq).trans ?_
    rw [List.map_append, numbers, balanced.nextSeq]
    exact balanced.pending.append_right _
  · simp only [length, final, balanced.nextSeq]
    omega
  · rw [List.length_set]
    exact balanced.shares
  · rw [List.length_set]
    exact balanced.begun
  · intro other changed foundOther
    by_cases here : index = other
    · subst here
      rw [List.getElem?_set_self bound] at foundOther
      obtain rfl := Option.some.inj foundOther
      obtain ⟨history, begun, share⟩ := balanced.each index process found
      refine ⟨history, begun, share.setStream grows (fun line waits => ?_) carries
        fun otherKey different => others index otherKey fun both => different both.2.symm⟩
      exact (balanced.seq_of_pending (List.mem_flatMap.mpr
        ⟨process, membership, RoleProcess.mem_pending.mpr ⟨key, waits⟩⟩)).2
    · rw [List.getElem?_set_ne here] at foundOther
      have unchanged : now other = tally.arrived other :=
        funext fun otherKey => others other otherKey fun both => here both.1
      dsimp only
      rw [unchanged]
      exact balanced.each other changed foundOther
  · intro other beyond
    rw [List.length_set] at beyond
    refine ⟨(balanced.unread other beyond).1, fun otherKey => ?_⟩
    exact (others other otherKey (by omega)).trans ((balanced.unread other beyond).2 otherKey)

/-- What does not touch the output keeps the balance. -/
theorem sameOutput {τ : Type} (balanced : Balanced first start tally) (after : Session τ)
    {now : Nat → Stream → List UInt8}
    (outputs : after.processes.map RoleProcess.heard =
      tally.session.processes.map RoleProcess.heard)
    (nextSeq : after.nextSeq = tally.session.nextSeq)
    (arrived : ∀ index key, now index key = tally.arrived index key) :
    Balanced first start ⟨after, now, tally.lines, tally.given⟩ := by
  have pending := Session.pendingIn_of_heard outputs
  have length : after.processes.length = tally.session.processes.length := by
    simpa using congrArg List.length outputs
  obtain rfl : now = tally.arrived := funext fun index => funext fun key => arrived index key
  refine ⟨balanced.numbers, ?_, ?_, ?_, ?_, ?_, ?_⟩
  · rw [pending]
    exact balanced.pending
  · rw [nextSeq, pending]
    exact balanced.nextSeq
  · rw [length]
    exact balanced.shares
  · rw [length]
    exact balanced.begun
  · intro index process found
    have view := congrArg (fun outputs => outputs[index]?) outputs
    simp only [List.getElem?_map, found, Option.map_some] at view
    obtain ⟨earlier, foundEarlier, equal⟩ := Option.map_eq_some_iff.mp view.symm
    obtain ⟨history, begun, share⟩ := balanced.each index earlier foundEarlier
    exact ⟨history, begun, share.sameOutput equal.symm⟩
  · rw [length]
    exact balanced.unread

/-- What is taken enters the tally. -/
theorem takeLines (balanced : Balanced first start tally) :
    Balanced first start { tally with
      session := tally.session.takeLines.2
      lines := tally.lines ++ tally.session.takeLines.1
      given := fun index => tally.given index ++ tally.session.takenFrom index } := by
  have numbers := Session.takeLines_numbers balanced.pending
  have processes := Session.takeLines_processes tally.session
  have none := Session.pendingIn_takeLines tally.session
  have size : tally.session.takeLines.2.processes.length = tally.session.processes.length := by
    rw [processes, List.length_map]
  refine ⟨?_, ?_, ?_, ?_, balanced.begun.trans size.symm, ?_, ?_⟩
  · rw [List.map_append, balanced.numbers, numbers, List.length_append, List.range'_append_1]
  · rw [none]
    exact .refl _
  · rw [none, List.length_append, (Session.takeLines_perm tally.session).length_eq,
      List.length_nil, Nat.add_zero, ← Nat.add_assoc]
    exact balanced.nextSeq
  · rw [size]
    exact (balanced.shares.append tally.session.takeLines_perm_takenFrom).trans
      (List.flatMap_append_perm _ _ _)
  · intro index process found
    rw [processes, List.getElem?_map] at found
    obtain ⟨earlier, foundEarlier, rfl⟩ := Option.map_eq_some_iff.mp found
    obtain ⟨history, begun, share⟩ := balanced.each index earlier foundEarlier
    have waits : ∀ line ∈ earlier.pending,
        line ∈ Session.pendingIn tally.session.processes := fun line membership =>
      List.mem_flatMap.mpr ⟨earlier, List.mem_of_getElem? foundEarlier, membership⟩
    refine ⟨history, begun, ?_⟩
    dsimp only
    rw [Session.takenFrom_of_getElem? foundEarlier]
    refine share.takeLines ?_ fun line old other new => ?_
    · refine balanced.distinct.sublist (List.Sublist.map _ ?_)
      exact List.sublist_flatten_of_mem
        (List.mem_map_of_mem (List.mem_of_getElem? foundEarlier))
    · exact Nat.lt_of_lt_of_le (balanced.seq_of_given old)
        (balanced.seq_of_pending (waits other new)).1
  · intro index beyond
    rw [size] at beyond
    have outside := List.getElem?_eq_none beyond
    refine ⟨?_, (balanced.unread index beyond).2⟩
    dsimp only
    rw [(balanced.unread index beyond).1, Session.takenFrom, outside]
    rfl

/-- A process that has just been started has no lines. -/
theorem launch (balanced : Balanced first start tally) (role : Role) (pid : Nat)
    (line : CommandLine) (time : Duration) (historyLines : Nat) {outside : σ}
    {now : Nat → Stream → List UInt8}
    (arrived : ∀ index key, now index key = tally.arrived index key) :
    Balanced first (start ++ [.empty historyLines]) { tally with
      session := { tally.session with
        outside
        processes := tally.session.processes ++ [.started role pid line time historyLines] }
      arrived := now } := by
  obtain rfl : now = tally.arrived := funext fun index => funext fun key => arrived index key
  have pending : Session.pendingIn
      (tally.session.processes ++ [.started role pid line time historyLines]) =
        Session.pendingIn tally.session.processes := by
    simp [Session.pendingIn, RoleProcess.pending, RoleProcess.pendingOf, RoleProcess.started,
      RoleProcess.stream]
  refine ⟨balanced.numbers, ?_, ?_, ?_, ?_, ?_, ?_⟩
  · rw [pending]
    exact balanced.pending
  · rw [pending]
    exact balanced.nextSeq
  · have nothing := (balanced.unread tally.session.processes.length (Nat.le_refl _)).1
    rw [List.length_append, List.length_singleton, List.range_succ, List.flatMap_append,
      List.flatMap_singleton, nothing, List.append_nil]
    exact balanced.shares
  · rw [List.length_append, List.length_append, balanced.begun]
    rfl
  · intro index process found
    rcases Nat.lt_or_ge index tally.session.processes.length with old | new
    · rw [List.getElem?_append_left old] at found
      obtain ⟨history, begun, share⟩ := balanced.each index process found
      have inside := (List.getElem?_eq_some_iff.mp begun).1
      exact ⟨history, (List.getElem?_append_left inside).trans begun, share⟩
    · obtain ⟨nothing, silent⟩ := balanced.unread index new
      have last : index = tally.session.processes.length := by
        have inside := (List.getElem?_eq_some_iff.mp found).1
        rw [List.length_append, List.length_singleton] at inside
        omega
      subst last
      rw [List.getElem?_concat_length] at found
      obtain rfl := Option.some.inj found
      refine ⟨.empty historyLines, ?_, ?_⟩
      · rw [← balanced.begun, List.getElem?_concat_length]
      · have arrived : tally.arrived tally.session.processes.length = fun _ => [] := funext silent
        dsimp only
        rw [nothing, arrived]
        exact .started role pid line time historyLines
  · intro index beyond
    rw [List.length_append] at beyond
    exact balanced.unread index (by omega)

/-- A move adds what it notes in the journal to what has arrived. -/
theorem move (before : Nat → Stream → List UInt8) {session after : Session (σ × Journal)}
    {lines : List Line} {given : Nat → List Line}
    (balanced : Balanced first start ⟨session,
      fun index key => before index key ++ session.journal.bytes index key, lines, given⟩)
    (move : Session.Move session after) :
    Balanced first start ⟨after,
      fun index key => before index key ++ after.journal.bytes index key, lines, given⟩ := by
  cases move with
  | check found alive answer now outside =>
      refine balanced.sameOutput _
        (Session.map_set_eq found (RoleProcess.heard_afterCheck _ now answer)) rfl
        fun index key => ?_
      exact congrArg (before index key ++ ·)
        ((Journal.bytes_append _ _ _ _).trans (List.append_nil _))
  | receive found isOpen outcome outside =>
      obtain ⟨history, -, share⟩ := balanced.each _ _ found
      refine balanced.setStream found (OutputStream.grows_accept _ _ _) ?_ ?_
      · have carries := (share.streams _).accept isOpen outcome session.nextSeq
        rwa [List.append_assoc, ← Journal.bytes_received] at carries
      · intro other otherKey different
        exact congrArg (before other otherKey ++ ·)
          (Journal.bytes_received_other _ different outcome)
  | close found isOpen =>
      obtain ⟨history, -, share⟩ := balanced.each _ _ found
      exact balanced.setStream found (OutputStream.grows_close _ _)
        ((share.streams _).close isOpen _) fun _ _ _ => rfl
  | sleep outside =>
      exact balanced.sameOutput { session with outside := (outside, session.journal) } rfl rfl
        fun _ _ => rfl

theorem moves (before : Nat → Stream → List UInt8) {session after : Session (σ × Journal)}
    {lines : List Line} {given : Nat → List Line}
    (balanced : Balanced first start ⟨session,
      fun index key => before index key ++ session.journal.bytes index key, lines, given⟩)
    (moves : Session.Moves session after) :
    Balanced first start ⟨after,
      fun index key => before index key ++ after.journal.bytes index key, lines, given⟩ := by
  induction moves with
  | refl => exact balanced
  | tail _ step inductionHypothesis => exact inductionHypothesis.move before step

end Balanced

end Tally

end Rendezvous
