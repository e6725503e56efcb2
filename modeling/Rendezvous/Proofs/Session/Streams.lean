import Rendezvous.Proofs.Journal
import Rendezvous.Proofs.Output.Lines
import Rendezvous.Proofs.Session.Pending

/-!
What a stream carries, and the lines that a process has waiting when one of its
streams changes.

A stream that is read or given up carries its bytes as before and gives new lines
the next numbers.
-/

set_option autoImplicit false

namespace Rendezvous

/--
What was taken from a stream and what it still has are the lines of the bytes
that were received; an unfinished line counts once the stream is closed.
-/
def OutputStream.Carries (stream : OutputStream) (received : List UInt8) (taken : List String) :
    Prop :=
  if stream.isOpen then stream.buffer.Holds received taken
  else stream.buffer.HoldsAll received taken

/-- The bytes of a chunk; anything else has none. -/
def ReadOutcome.bytes : ReadOutcome → List UInt8
  | .chunk bytes => bytes
  | .endOfFile | .interrupted | .failed | .notReady => []

namespace OutputStream

variable {stream : OutputStream} {received : List UInt8} {taken : List String}

theorem carries_fresh : ({} : OutputStream).Carries [] [] := by
  rw [Carries, if_pos rfl]
  exact ⟨rfl, rfl⟩

theorem Carries.close (carries : stream.Carries received taken) (isOpen : stream.isOpen = true)
    (seq : Nat) : (stream.close seq).1.Carries received taken := by
  rw [Carries, if_pos isOpen] at carries
  exact carries.finish seq

theorem Carries.accept (carries : stream.Carries received taken) (isOpen : stream.isOpen = true)
    (outcome : ReadOutcome) (seq : Nat) :
    (Session.accept outcome stream seq).1.Carries (received ++ outcome.bytes) taken := by
  cases outcome with
  | chunk bytes =>
      rw [Carries, if_pos isOpen] at carries
      have pushed := carries.push bytes seq
      simpa [Session.accept, OutputStream.push, Carries, isOpen, ReadOutcome.bytes] using pushed
  | endOfFile | failed =>
      rw [ReadOutcome.bytes, List.append_nil]
      exact carries.close isOpen seq
  | interrupted | notReady =>
      rw [ReadOutcome.bytes, List.append_nil]
      exact carries

/-- When its complete lines are taken, a stream has none. -/
theorem Carries.emptied (carries : stream.Carries received taken) :
    (RoleProcess.emptied stream).Carries received (taken ++ stream.buffer.texts) := by
  unfold Carries at carries ⊢
  have same : (RoleProcess.emptied stream).isOpen = stream.isOpen := rfl
  rw [same]
  split
  · next isOpen =>
      rw [if_pos isOpen] at carries
      exact ⟨carries.unfinished, by simpa [RoleProcess.emptied, OutputBuffer.texts] using
        carries.lines⟩
  · next closed =>
      rw [if_neg closed] at carries
      exact ⟨carries.unfinished, by simpa [RoleProcess.emptied, OutputBuffer.texts] using
        carries.lines⟩

theorem grows_close (stream : OutputStream) (seq : Nat) :
    OutputBuffer.Grows (stream.buffer, seq) ((stream.close seq).1.buffer, (stream.close seq).2) :=
  OutputBuffer.grows_finish stream.buffer seq

theorem grows_accept (outcome : ReadOutcome) (stream : OutputStream) (seq : Nat) :
    OutputBuffer.Grows (stream.buffer, seq)
      ((Session.accept outcome stream seq).1.buffer, (Session.accept outcome stream seq).2) := by
  cases outcome with
  | chunk bytes => exact OutputBuffer.grows_push stream.buffer bytes seq
  | endOfFile | failed => exact grows_close stream seq
  | interrupted | notReady => exact .refl _

end OutputStream

namespace Journal

theorem bytes_received (journal : Journal) (index : Nat) (key : Stream) (outcome : ReadOutcome) :
    bytes (journal ++ [.received index key outcome]) index key =
      journal.bytes index key ++ outcome.bytes := by
  cases outcome <;> simp [bytes, ReadOutcome.bytes]

theorem bytes_received_other (journal : Journal) {index other : Nat} {key stream : Stream}
    (different : ¬ (index = other ∧ key = stream)) (outcome : ReadOutcome) :
    bytes (journal ++ [.received index key outcome]) other stream = journal.bytes other stream := by
  cases outcome <;> simp [bytes, different]

end Journal

namespace RoleProcess

/-- What has been heard from a process. -/
def heard (process : RoleProcess) : Role × OutputStream × OutputStream × History :=
  (process.role, process.stdout, process.stderr, process.history)

section

variable {process other : RoleProcess}

theorem stream_of_heard (same : other.heard = process.heard) (key : Stream) :
    other.stream key = process.stream key := by
  cases key with
  | stdout => exact congrArg (fun heard => heard.2.1) same
  | stderr => exact congrArg (fun heard => heard.2.2.1) same

theorem pendingOf_of_heard (same : other.heard = process.heard) (key : Stream) :
    other.pendingOf key = process.pendingOf key := by
  have role : other.role = process.role := congrArg Prod.fst same
  rw [pendingOf, role, stream_of_heard same]
  rfl

theorem pending_of_heard (same : other.heard = process.heard) :
    other.pending = process.pending := by
  rw [pending, pendingOf_of_heard same, pendingOf_of_heard same]
  rfl

end

@[simp]
theorem setStream_role (process : RoleProcess) (key : Stream) (stream : OutputStream) :
    (process.setStream key stream).role = process.role := by
  cases key <;> rfl

@[simp]
theorem setStream_history (process : RoleProcess) (key : Stream) (stream : OutputStream) :
    (process.setStream key stream).history = process.history := by
  cases key <;> rfl

theorem pendingOf_setStream_other (process : RoleProcess) {key other : Stream}
    (stream : OutputStream) (different : other ≠ key) :
    (process.setStream key stream).pendingOf other = process.pendingOf other := by
  rw [pendingOf, setStream_role, process.stream_setStream_other stream different]
  rfl

theorem mem_pending {process : RoleProcess} {line : Line} :
    line ∈ process.pending ↔ ∃ key, line ∈ process.pendingOf key := by
  rw [pending, List.mem_append]
  constructor
  · rintro (waits | waits)
    · exact ⟨.stdout, waits⟩
    · exact ⟨.stderr, waits⟩
  · rintro ⟨_ | _, waits⟩
    · exact Or.inl waits
    · exact Or.inr waits

theorem pending_setStream (process : RoleProcess) (key : Stream) {stream : OutputStream}
    {seq next : Nat}
    (grows : OutputBuffer.Grows ((process.stream key).buffer, seq) (stream.buffer, next)) :
    ∃ added : List Line,
      (process.setStream key stream).pendingOf key = process.pendingOf key ++ added ∧
        (process.setStream key stream).pending.Perm (process.pending ++ added) ∧
        added.map Line.seq = List.range' seq added.length ∧ next = seq + added.length := by
  obtain ⟨added, lines, numbers, final⟩ := grows
  let numbered := added.map fun line : PendingLine =>
    (⟨line.seq, process.role, key, line.text⟩ : Line)
  have grown : (process.setStream key stream).pendingOf key =
      process.pendingOf key ++ numbered := by
    cases key <;> simp only [pendingOf, setStream, RoleProcess.stream] at lines ⊢ <;>
      rw [lines, List.map_append]
  refine ⟨numbered, grown, ?_, ?_, ?_⟩
  · cases key
    · have other : (process.setStream .stdout stream).pendingOf .stderr =
          process.pendingOf .stderr := rfl
      rw [pending, pending, grown, other, List.append_assoc, List.append_assoc]
      exact List.perm_append_comm.append_left _
    · have other : (process.setStream .stderr stream).pendingOf .stdout =
          process.pendingOf .stdout := rfl
      rw [pending, pending, grown, other, List.append_assoc]
  · simpa [numbered, Function.comp_def] using numbers
  · simpa [numbered] using final

end RoleProcess

namespace Session

theorem closeFrom_isOpen (processes : List RoleProcess) (seq : Nat) :
    ∀ process ∈ (closeFrom processes seq).1, ∀ key, (process.stream key).isOpen = false := by
  have closed : ∀ (stream : OutputStream) (seq : Nat),
      (stream.closeIfOpen seq).1.isOpen = false := by
    intro stream seq
    unfold OutputStream.closeIfOpen
    split
    · rfl
    · next closed => exact Bool.eq_false_iff.mpr closed
  induction processes generalizing seq with
  | nil =>
      intro process membership
      cases membership
  | cons first rest inductionHypothesis =>
      intro process membership key
      rcases List.mem_cons.mp membership with rfl | later
      · cases key <;> exact closed _ _
      · exact inductionHypothesis _ process later key

theorem pendingIn_of_heard {processes others : List RoleProcess}
    (same : others.map RoleProcess.heard = processes.map RoleProcess.heard) :
    pendingIn others = pendingIn processes := by
  induction others generalizing processes with
  | nil =>
      obtain rfl := List.map_eq_nil_iff.mp same.symm
      rfl
  | cons other rest inductionHypothesis =>
      cases processes with
      | nil => cases same
      | cons process processes =>
          obtain ⟨head, tail⟩ := List.cons.inj same
          have next := inductionHypothesis tail
          rw [pendingIn, pendingIn] at next ⊢
          rw [List.flatMap_cons, List.flatMap_cons, RoleProcess.pending_of_heard head, next]

theorem pendingIn_set {processes : List RoleProcess} {index : Nat} {process changed : RoleProcess}
    {added : List Line} (found : processes[index]? = some process)
    (more : changed.pending.Perm (process.pending ++ added)) :
    (pendingIn (processes.set index changed)).Perm (pendingIn processes ++ added) := by
  obtain ⟨bound, rfl⟩ := List.getElem?_eq_some_iff.mp found
  obtain ⟨before, after, split, -, updated⟩ :=
    @List.exists_of_set _ _ changed _ bound
  generalize processes[index] = process at more split
  rw [updated, split]
  simp only [pendingIn, List.flatMap_append, List.flatMap_cons, List.append_assoc]
  refine List.Perm.append_left _ ((more.append_right _).trans ?_)
  rw [List.append_assoc]
  exact List.perm_append_comm.append_left _

/-- A changed entry that looks the same leaves the view of a list as it is. -/
theorem map_set_eq {α : Type} {view : RoleProcess → α} {processes : List RoleProcess}
    {index : Nat} {process changed : RoleProcess} (found : processes[index]? = some process)
    (same : view changed = view process) :
    (processes.set index changed).map view = processes.map view := by
  obtain ⟨bound, rfl⟩ := List.getElem?_eq_some_iff.mp found
  rw [List.map_set, same, ← List.getElem_map view (h := by simpa using bound)]
  exact List.set_getElem_self _

end Session

end Rendezvous
