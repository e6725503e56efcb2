import Rendezvous.Proofs.Session.Scripts

/-!
Sweeps over streams with scripts.

In a sweep every stream has its turn, in which nothing but its own script tells how often
it is read, what it gives and whether it is closed.  Only the numbers of its lines come
from the turns before.
-/

set_option autoImplicit false

namespace Rendezvous

variable {σ : Type}

/-- What a stream gives in a sweep. -/
def Scripts.inSweep (scripts : Scripts) (index : Nat) (key : Stream) (reads : Reads)
    (stream : OutputStream) : List ReadOutcome :=
  if stream.isOpen then heard (scripts index key) (reads index key) Session.sweepReads else []

/-- The process with no other streams open than those that are kept. -/
def RoleProcess.keeping (process : RoleProcess) (kept : Stream → Bool) : RoleProcess :=
  { process with
    stdout := { process.stdout with isOpen := process.stdout.isOpen && kept .stdout }
    stderr := { process.stderr with isOpen := process.stderr.isOpen && kept .stderr } }

theorem RoleProcess.stream_keeping (process : RoleProcess) {kept : Stream → Bool} {key : Stream}
    (isKept : kept key = true) : (process.keeping kept).stream key = process.stream key := by
  cases key <;> simp [keeping, stream, isKept]

namespace Session

theorem sweepStream_of_closed (world : World σ) (index : Nat) (key : Stream) (count : Nat)
    {stream : OutputStream} (closed : stream.isOpen = false) (seq : Nat) (outside : σ) :
    sweepStream world index key count stream seq outside = (stream, seq, outside) := by
  cases count with
  | zero => rfl
  | succ count => rw [sweepStream, if_neg (Bool.eq_false_iff.mp closed)]

theorem sweepStream_of_open (scripts : Scripts) (index : Nat) (key : Stream) (count : Nat)
    {stream : OutputStream} (isOpen : stream.isOpen = true) (seq : Nat) (reads : Reads) :
    let outcomes := Scripts.heard (scripts index key) (reads index key) count
    let accepted := acceptEach outcomes (stream, seq)
    sweepStream scripts.world index key count stream seq reads =
      (accepted.1, accepted.2, reads.add index key outcomes.length) := by
  induction count generalizing stream seq reads with
  | zero => simp [sweepStream, Scripts.heard, acceptEach]
  | succ count inductionHypothesis =>
      have given : scripts.world.read index key reads =
          (scripts index key (reads index key), reads.add index key 1) := rfl
      -- what comes after a first read that did not end the turn
      have rest := fun (stream : OutputStream) (isOpen : stream.isOpen = true) (seq : Nat) =>
        inductionHypothesis isOpen seq (reads.add index key 1)
      simp only [Reads.add_same, Reads.add_add, Nat.add_comm 1] at rest
      simp only [sweepStream, if_pos isOpen, given, Scripts.heard]
      cases outcome : scripts index key (reads index key) with
      | notReady => rfl
      | endOfFile | failed =>
          exact sweepStream_of_closed scripts.world index key count rfl _ _
      | chunk bytes => exact rest (stream.push bytes seq).1 isOpen (stream.push bytes seq).2
      | interrupted => exact rest stream isOpen seq

/-- A stream had its turn in a sweep, and its lines got numbers from some number on. -/
structure Swept (scripts : Scripts) (index : Nat) (key : Stream) (reads later : Reads)
    (seq : Nat) (before after : OutputStream) : Prop where
  accepted : ∃ first, seq ≤ first ∧
    after = (acceptEach (scripts.inSweep index key reads before) (before, first)).1
  counted : later index key = reads index key + (scripts.inSweep index key reads before).length

namespace Swept

variable {scripts : Scripts} {index : Nat} {key : Stream} {reads later : Reads} {seq : Nat}
  {before after : OutputStream}

/-- Only the counts of the stream itself and the least number matter. -/
theorem congr (swept : Swept scripts index key reads later seq before after)
    {others latest : Reads} (same : others index key = reads index key)
    (kept : latest index key = later index key) {least : Nat} (order : least ≤ seq) :
    Swept scripts index key others latest least before after := by
  obtain ⟨⟨first, begins, accepted⟩, counted⟩ := swept
  have outcomes : scripts.inSweep index key others before =
      scripts.inSweep index key reads before := by
    unfold Scripts.inSweep
    rw [same]
  refine ⟨⟨first, Nat.le_trans order begins, ?_⟩, ?_⟩
  · rw [outcomes]
    exact accepted
  · rw [kept, counted, same, outcomes]

end Swept

theorem seq_le_acceptEach (outcomes : List ReadOutcome) (state : OutputStream × Nat) :
    state.2 ≤ (acceptEach outcomes state).2 := by
  obtain ⟨added, -, -, next⟩ := acceptEach_grows outcomes state
  dsimp only at next
  omega

/-- A stream has its turn, and no other one is read. -/
theorem sweepStream_swept (scripts : Scripts) (index : Nat) (key : Stream) (before : OutputStream)
    (seq : Nat) (reads : Reads) :
    let swept := sweepStream scripts.world index key sweepReads before seq reads
    Swept scripts index key reads swept.2.2 seq before swept.1 ∧ seq ≤ swept.2.1 ∧
      ∀ place stream, ¬ (place = index ∧ stream = key) →
        swept.2.2 place stream = reads place stream := by
  let outcomes := scripts.inSweep index key reads before
  have read : sweepStream scripts.world index key sweepReads before seq reads =
      ((acceptEach outcomes (before, seq)).1, (acceptEach outcomes (before, seq)).2,
        reads.add index key outcomes.length) := by
    cases state : before.isOpen with
    | true =>
        simp only [outcomes, Scripts.inSweep, if_pos state]
        exact sweepStream_of_open scripts index key sweepReads state seq reads
    | false =>
        have nothing : outcomes = [] := if_neg (Bool.eq_false_iff.mp state)
        rw [nothing, List.length_nil, Reads.add_zero]
        exact sweepStream_of_closed scripts.world index key sweepReads state seq reads
  intro swept
  simp only [swept, read]
  refine ⟨⟨⟨seq, Nat.le_refl seq, rfl⟩, reads.add_same index key _⟩, ?_, ?_⟩
  · exact seq_le_acceptEach outcomes (before, seq)
  · intro place stream other
    exact reads.add_other index key _ other

/-- The streams of a process have their turns, and nothing else of it changes. -/
theorem sweepProcess_swept (scripts : Scripts) (index : Nat) (before : RoleProcess) (seq : Nat)
    (reads : Reads) :
    let swept := sweepProcess scripts.world index before seq reads
    { before with stdout := swept.1.stdout, stderr := swept.1.stderr } = swept.1 ∧
    (∀ key, Swept scripts index key reads swept.2.2 seq (before.stream key)
      (swept.1.stream key)) ∧
    seq ≤ swept.2.1 ∧
    ∀ place, place ≠ index → ∀ key, swept.2.2 place key = reads place key := by
  have first := sweepStream_swept scripts index .stdout before.stdout seq reads
  unfold sweepProcess
  rcases former : sweepStream scripts.world index .stdout sweepReads before.stdout seq reads with
    ⟨stdout, next, middle⟩
  rw [former] at first
  have second := sweepStream_swept scripts index .stderr before.stderr next middle
  dsimp only
  rcases latter : sweepStream scripts.world index .stderr sweepReads before.stderr next middle with
    ⟨stderr, last, later⟩
  rw [latter] at second
  obtain ⟨firstSwept, firstOrder, firstFrame⟩ := first
  obtain ⟨secondSwept, secondOrder, secondFrame⟩ := second
  refine ⟨rfl, ?_, Nat.le_trans firstOrder secondOrder, ?_⟩
  · intro key
    cases key with
    | stdout =>
        apply firstSwept.congr rfl _ (Nat.le_refl seq)
        exact secondFrame index .stdout (by simp)
    | stderr =>
        apply secondSwept.congr _ rfl firstOrder
        exact (firstFrame index .stderr (by simp)).symm
  · intro place other key
    exact (secondFrame place key fun same => other same.1).trans
      (firstFrame place key fun same => other same.1)

theorem sweepFrom_swept (scripts : Scripts) (index : Nat) (processes : List RoleProcess)
    (seq : Nat) (reads : Reads) :
    let swept := sweepFrom scripts.world index processes seq reads
    (∀ place, place < index → ∀ key, swept.2.2 place key = reads place key) ∧
    ∀ (offset : Nat) (before : RoleProcess), processes[offset]? = some before →
      ∃ after, swept.1[offset]? = some after ∧
        { before with stdout := after.stdout, stderr := after.stderr } = after ∧
        ∀ key, Swept scripts (index + offset) key reads swept.2.2 seq (before.stream key)
          (after.stream key) := by
  induction processes generalizing index seq reads with
  | nil => exact ⟨fun _ _ _ => rfl, fun _ _ found => nomatch found⟩
  | cons process rest inductionHypothesis =>
      have own := sweepProcess_swept scripts index process seq reads
      unfold sweepFrom
      rcases first : sweepProcess scripts.world index process seq reads with
        ⟨changed, next, middle⟩
      rw [first] at own
      have others := inductionHypothesis (index + 1) next middle
      dsimp only
      rcases later : sweepFrom scripts.world (index + 1) rest next middle with
        ⟨final, last, latest⟩
      rw [later] at others
      obtain ⟨frame, turns, ordered, unread⟩ := own
      obtain ⟨earlier, each⟩ := others
      refine ⟨?_, ?_⟩
      · intro place order key
        exact (earlier place (Nat.lt_succ_of_lt order) key).trans
          (unread place (Nat.ne_of_lt order) key)
      · intro offset before found
        cases offset with
        | zero =>
            cases found
            refine ⟨changed, rfl, frame, ?_⟩
            intro key
            exact (turns key).congr rfl (earlier index (Nat.lt_succ_self index) key)
              (Nat.le_refl seq)
        | succ offset =>
            obtain ⟨after, there, same, swept⟩ := each offset before found
            refine ⟨after, there, same, ?_⟩
            intro key
            have place : index + 1 + offset = index + (offset + 1) := by omega
            rw [place] at swept
            apply (swept key).congr _ rfl ordered
            exact (unread (index + (offset + 1)) (by omega) key).symm

/-- How a stream was read in its turn. -/
structure Attempts (isOpen : Bool) (outcomes : List ReadOutcome) : Prop where
  closed : isOpen = false → outcomes = []
  attempted : isOpen = true → outcomes ≠ []
  atMost : outcomes.length ≤ 64
  goesOn : ∀ outcome ∈ outcomes.dropLast, outcome.goesOn = true
  stops : isOpen = true →
    outcomes.length = 64 ∨ ∃ outcome ∈ outcomes, outcome.goesOn = false

/-- What became of a stream that gave some outcomes. -/
structure Became (before after : OutputStream) (outcomes : List ReadOutcome) : Prop where
  untouched : outcomes = [] → after = before
  closed_iff : after.isOpen = false ↔
    before.isOpen = false ∨ ∃ outcome ∈ outcomes, outcome.ends = true
  pushed : (∀ outcome ∈ outcomes, outcome.ends = false) →
    after.buffer.Like (before.buffer.push (outcomes.flatMap ReadOutcome.bytes) 0).1
  flushed : (∃ outcome ∈ outcomes, outcome.ends = true) →
    let buffer := (before.buffer.push (outcomes.flatMap ReadOutcome.bytes) 0).1
    after.buffer.unfinished = #[] ∧ after.buffer.texts = buffer.texts ++
      if buffer.unfinished = #[] then [] else [Line.textOf buffer.unfinished.toList]

theorem inSweep_attempts (scripts : Scripts) (index : Nat) (key : Stream) (reads : Reads)
    (before : OutputStream) : Attempts before.isOpen (scripts.inSweep index key reads before) := by
  unfold Scripts.inSweep
  split
  · next isOpen =>
      refine ⟨fun closed => ?_, fun _ => ?_, ?_, ?_, fun _ => ?_⟩
      · rw [isOpen] at closed
        cases closed
      · exact List.cons_ne_nil _ _
      · exact Scripts.length_heard_le _ _ _
      · exact Scripts.goesOn_of_mem_dropLast _ _ _
      · exact Scripts.length_heard_or _ _ _
  · next closed =>
      refine ⟨fun _ => rfl, fun isOpen => absurd isOpen closed, Nat.zero_le _, ?_,
        fun isOpen => absurd isOpen closed⟩
      exact List.forall_mem_nil _

theorem finish_texts (buffer : OutputBuffer) (seq : Nat) :
    (buffer.finish seq).1.unfinished = #[] ∧ (buffer.finish seq).1.texts = buffer.texts ++
      if buffer.unfinished = #[] then [] else [Line.textOf buffer.unfinished.toList] := by
  unfold OutputBuffer.finish
  split
  · next empty => exact ⟨empty, (List.append_nil _).symm⟩
  · exact ⟨rfl, by simp [OutputBuffer.texts, OutputBuffer.complete]⟩

theorem became_of_unended {outcomes : List ReadOutcome}
    (unended : ∀ outcome ∈ outcomes, outcome.ends = false) {before : OutputStream}
    (isOpen : before.isOpen = true) (seq : Nat) :
    Became before (acceptEach outcomes (before, seq)).1 outcomes := by
  have none : ¬ ∃ outcome ∈ outcomes, outcome.ends = true := by
    rintro ⟨outcome, membership, ends⟩
    rw [unended outcome membership] at ends
    cases ends
  rw [acceptEach_of_unended unended]
  refine ⟨?_, ?_, ?_, fun ended => absurd ended none⟩
  · rintro rfl
    rfl
  · simp [OutputStream.push, isOpen, none]
  · intro _
    exact (OutputBuffer.Like.refl before.buffer).push _ seq 0

theorem became_of_ended {former : List ReadOutcome}
    (unended : ∀ outcome ∈ former, outcome.ends = false) {last : ReadOutcome}
    (ends : last.ends = true) (before : OutputStream) (seq : Nat) :
    Became before (acceptEach (former ++ [last]) (before, seq)).1 (former ++ [last]) := by
  have final : last ∈ former ++ [last] := List.mem_append_right _ List.mem_cons_self
  have closes (stream : OutputStream) (next : Nat) :
      accept last stream next = stream.close next ∧ last.bytes = [] := by
    cases last with
    | endOfFile | failed => exact ⟨rfl, rfl⟩
    | chunk bytes | interrupted | notReady => cases ends
  have same : (former ++ [last]).flatMap ReadOutcome.bytes =
      former.flatMap ReadOutcome.bytes := by
    rw [List.flatMap_append, List.flatMap_singleton, (closes before seq).2, List.append_nil]
  have closed : acceptEach (former ++ [last]) (before, seq) =
      (before.push (former.flatMap ReadOutcome.bytes) seq).1.close
        (before.push (former.flatMap ReadOutcome.bytes) seq).2 := by
    rw [acceptEach_append, acceptEach_of_unended unended]
    exact (closes _ _).1
  rw [closed]
  refine ⟨?_, ?_, ?_, fun _ => ?_⟩
  · intro none
    rw [none] at final
    cases final
  · exact ⟨fun _ => Or.inr ⟨last, final, ends⟩, fun _ => rfl⟩
  · intro unended
    rw [unended last final] at ends
    cases ends
  · -- the texts of the flush are those of the pushed bytes under any numbers
    have like := (OutputBuffer.Like.refl before.buffer).push
      (former.flatMap ReadOutcome.bytes) seq 0
    have flushed := finish_texts (before.buffer.push (former.flatMap ReadOutcome.bytes) seq).1
      (before.buffer.push (former.flatMap ReadOutcome.bytes) seq).2
    rw [like.texts, like.unfinished] at flushed
    rw [same]
    exact flushed

/-- If a stream is read on up to the last outcome, only that one can close it. -/
theorem became_acceptEach {outcomes : List ReadOutcome}
    (goesOn : ∀ outcome ∈ outcomes.dropLast, outcome.goesOn = true) {before : OutputStream}
    (isOpen : before.isOpen = true) (seq : Nat) :
    Became before (acceptEach outcomes (before, seq)).1 outcomes := by
  rcases List.eq_nil_or_concat' outcomes with rfl | ⟨former, last, rfl⟩
  · exact became_of_unended (List.forall_mem_nil _) isOpen seq
  · rw [List.dropLast_concat] at goesOn
    have unended : ∀ outcome ∈ former, outcome.ends = false := fun outcome membership =>
      ReadOutcome.ends_eq_false_of_goesOn (goesOn outcome membership)
    cases ends : last.ends with
    | true => exact became_of_ended unended ends before seq
    | false =>
        apply became_of_unended _ isOpen seq
        intro outcome membership
        rcases List.mem_append.mp membership with early | final
        · exact unended outcome early
        · rwa [List.mem_singleton.mp final]

namespace Swept

variable {scripts : Scripts} {index : Nat} {key : Stream} {reads later : Reads} {seq : Nat}
  {before after : OutputStream}

theorem between (swept : Swept scripts index key reads later seq before after) :
    scripts.between index key (reads index key) (later index key) =
      scripts.inSweep index key reads before := by
  rw [swept.counted, Scripts.between, Nat.add_sub_cancel_left]
  unfold Scripts.inSweep
  split
  · exact (Scripts.heard_eq_map _ _ _).symm
  · rfl

theorem became (swept : Swept scripts index key reads later seq before after) :
    Became before after (scripts.inSweep index key reads before) := by
  obtain ⟨⟨first, -, rfl⟩, -⟩ := swept
  have attempts := inSweep_attempts scripts index key reads before
  cases state : before.isOpen with
  | true => exact became_acceptEach attempts.goesOn state first
  | false =>
      rw [attempts.closed state]
      refine ⟨fun _ => rfl, by simp [acceptEach, state], fun _ => .refl before.buffer, ?_⟩
      rintro ⟨outcome, membership, -⟩
      cases membership

theorem numbers (swept : Swept scripts index key reads later seq before after) :
    ∃ first next, seq ≤ first ∧
      OutputBuffer.Grows (before.buffer, first) (after.buffer, next) := by
  obtain ⟨⟨first, begins, rfl⟩, -⟩ := swept
  exact ⟨first, _, begins, acceptEach_grows _ (before, first)⟩

/-- Two sweeps that find the same stream at the same place of its script leave the same. -/
theorem agree (swept : Swept scripts index key reads later seq before after) {latest : Reads}
    {other : Nat} {alternative : OutputStream}
    (alone : Swept scripts index key reads latest other before alternative) :
    alternative.Like after ∧ latest index key = later index key := by
  obtain ⟨⟨first, -, rfl⟩, counted⟩ := swept
  obtain ⟨⟨second, -, rfl⟩, countedAlone⟩ := alone
  refine ⟨?_, countedAlone.trans counted.symm⟩
  exact acceptEach_like ⟨rfl, .refl before.buffer⟩ _ second first

end Swept

/-- The session with no other stream left to be read. -/
def alone (session : Session σ) (index : Nat) (key : Stream) : Session σ :=
  { session with
    processes := session.processes.mapIdx fun place process =>
      process.keeping fun stream => place = index && stream = key }

theorem getElem?_alone {session : Session σ} {index : Nat} {before : RoleProcess}
    (found : session.processes[index]? = some before) (key : Stream) :
    (session.alone index key).processes[index]? =
      some (before.keeping fun stream => stream = key) := by
  rw [alone, List.getElem?_mapIdx, found, Option.map_some]
  simp

theorem sweep_swept (scripts : Scripts) {session : Session Reads} {index : Nat}
    {before : RoleProcess} (found : session.processes[index]? = some before) :
    let swept := session.sweep scripts.world
    ∃ after, swept.processes[index]? = some after ∧
      { before with stdout := after.stdout, stderr := after.stderr } = after ∧
      ∀ key, Swept scripts index key session.outside swept.outside session.nextSeq
        (before.stream key) (after.stream key) := by
  obtain ⟨-, each⟩ :=
    sweepFrom_swept scripts 0 session.processes session.nextSeq session.outside
  have own := each index before found
  rw [Nat.zero_add] at own
  exact own

/--
In a sweep every stream is read as its own script says, and as if it were the only one.
An open stream is read once at least and 64 times at most, up to something after which
it is not read on; it is closed by its end or by a failure and by nothing else.  The
bytes that it gave were pushed, and closing it made one line of what was left unless
that was nothing.  A sweep in which no other stream can be read takes as much from the
script and leaves the same but for the numbers of the new lines, which are consecutive;
nothing else of a process changes.
-/
theorem swept_as_if_alone (scripts : Scripts) (session : Session Reads) (index : Nat)
    {before : RoleProcess} (found : session.processes[index]? = some before) :
    let swept := session.sweep scripts.world
    ∃ after, swept.processes[index]? = some after ∧
      { before with stdout := after.stdout, stderr := after.stderr } = after ∧
      ∀ key,
        let start := session.outside index key
        let outcomes := scripts.between index key start (swept.outside index key)
        let alone := (session.alone index key).sweep scripts.world
        swept.outside index key = start + outcomes.length ∧
        Attempts (before.stream key).isOpen outcomes ∧
        Became (before.stream key) (after.stream key) outcomes ∧
        (∃ single, alone.processes[index]? = some single ∧
          (single.stream key).Like (after.stream key)) ∧
        alone.outside index key = swept.outside index key ∧
        ∃ first next, session.nextSeq ≤ first ∧
          OutputBuffer.Grows ((before.stream key).buffer, first)
            ((after.stream key).buffer, next) := by
  intro swept
  obtain ⟨after, there, frame, turns⟩ := sweep_swept scripts found
  refine ⟨after, there, frame, ?_⟩
  intro key start outcomes alone
  have turn := turns key
  have given : outcomes = scripts.inSweep index key session.outside (before.stream key) :=
    turn.between
  obtain ⟨single, here, -, turnsAlone⟩ := sweep_swept scripts (getElem?_alone found key)
  have turnAlone := turnsAlone key
  rw [before.stream_keeping (decide_eq_true rfl)] at turnAlone
  obtain ⟨same, counts⟩ := turn.agree turnAlone
  refine ⟨?_, ?_, ?_, ⟨single, here, same⟩, counts, turn.numbers⟩
  · rw [given]
    exact turn.counted
  · rw [given]
    exact inSweep_attempts scripts index key session.outside (before.stream key)
  · rw [given]
    exact turn.became

end Session

namespace Neighbours

/-- The first stream gives a line and a half and ends; its neighbours wait, talk on or fail. -/
def scripts : Scripts
  | 0, .stdout, 0 => .chunk [97, 10, 98]
  | 0, .stdout, 1 => .interrupted
  | 0, .stdout, _ => .endOfFile
  | 0, .stderr, _ => .notReady
  | _, .stdout, _ => .chunk [99, 10]
  | _, .stderr, _ => .failed

def brief : RoleProcess := .started .server 1 ⟨"brief", []⟩ .zero 3

def session : Session Reads where
  outside := fun _ _ => 0
  processes := [brief, .started .client 2 ⟨"talkative", []⟩ .zero 3]

def swept : Session Reads := session.sweep scripts.world

end Neighbours

open Neighbours in
/-- A stream that ends within the sweep leaves the line that it had begun. -/
theorem Session.brief_stream_ends :
    session.processes[0]? = some brief ∧
      ∃ after, swept.processes[0]? = some after ∧ after.stdout.isOpen = false ∧
        after.stdout.buffer.texts = ["a", "b"] ∧ after.stderr.isOpen = true := by
  have found : session.processes[0]? = some brief := rfl
  obtain ⟨after, there, -, each⟩ := swept_as_if_alone scripts session 0 found
  have first : (session.sweep scripts.world).outside 0 .stdout = 3 := by decide +kernel
  have second : (session.sweep scripts.world).outside 0 .stderr = 1 := by decide +kernel
  obtain ⟨-, -, stdout, -⟩ := each .stdout
  obtain ⟨-, -, stderr, -⟩ := each .stderr
  rw [first] at stdout
  rw [second] at stderr
  have ended : ∃ outcome ∈ scripts.between 0 .stdout (session.outside 0 .stdout) 3,
      outcome.ends = true := ⟨.endOfFile, by decide, rfl⟩
  refine ⟨found, after, there, stdout.closed_iff.mpr (Or.inr ended), ?_, ?_⟩
  · exact (stdout.flushed ended).2.trans (by decide +kernel)
  · apply eq_true_of_ne_false
    intro closed
    exact absurd (stderr.closed_iff.mp closed) (by decide)

end Rendezvous
