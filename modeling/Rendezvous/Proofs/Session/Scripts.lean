import Rendezvous.Proofs.Session.Streams

/-!
Streams that give what is written down for them.

In the world of some scripts, each stream has a script of its own, and the world only
remembers how often each stream was read.  One stream takes outcomes from its script
until one of them says that there is no more for now (`heard`), and what it comes to
have follows from these, up to the numbers of its lines (`OutputStream.Like`).
-/

set_option autoImplicit false

namespace Rendezvous

namespace ReadOutcome

/-- More may come at once. -/
def goesOn : ReadOutcome → Bool
  | .chunk _ | .interrupted => true
  | .endOfFile | .failed | .notReady => false

/-- The stream is at its end. -/
def ends : ReadOutcome → Bool
  | .endOfFile | .failed => true
  | .chunk _ | .interrupted | .notReady => false

theorem ends_eq_false_of_goesOn {outcome : ReadOutcome} (going : outcome.goesOn = true) :
    outcome.ends = false := by
  cases outcome with
  | chunk bytes | interrupted => rfl
  | endOfFile | failed | notReady => cases going

end ReadOutcome

/-- What each stream gives when it is read for the first time, the second time, and so on. -/
abbrev Scripts := Nat → Stream → Nat → ReadOutcome

/-- How often each stream was read. -/
abbrev Reads := Nat → Stream → Nat

namespace Reads

def add (reads : Reads) (index : Nat) (key : Stream) (count : Nat) : Reads := fun place stream =>
  if place = index ∧ stream = key then reads place stream + count else reads place stream

variable (reads : Reads) (index : Nat) (key : Stream) (count : Nat)

@[simp]
theorem add_same : reads.add index key count index key = reads index key + count :=
  if_pos ⟨rfl, rfl⟩

theorem add_other {place : Nat} {stream : Stream} (other : ¬ (place = index ∧ stream = key)) :
    reads.add index key count place stream = reads place stream :=
  if_neg other

@[simp]
theorem add_zero : reads.add index key 0 = reads := by
  funext place stream
  simp [add]

@[simp]
theorem add_add (more : Nat) :
    (reads.add index key count).add index key more = reads.add index key (count + more) := by
  funext place stream
  unfold add
  split <;> simp_all [Nat.add_assoc]

end Reads

namespace Scripts

/-- A world whose streams give what the scripts say, and in which nothing else happens. -/
def world (scripts : Scripts) : World Reads where
  now _ := .zero
  launch _ _ reads := (.error .noEntry, reads)
  status _ reads := (.ok none, reads)
  read index key reads := (scripts index key (reads index key), reads.add index key 1)
  wait _ _ _ reads := (.elapsed, reads)
  ready_mem _ _ _ _ _ _ _ woken := nomatch woken
  awaitExit _ _ reads := (.ok none, reads)
  signalGroup _ _ reads := (.error .noProcess, reads)
  killLeader _ reads := (.ok (), reads)

/-- The outcomes of a stream from one count of reads to another. -/
def between (scripts : Scripts) (index : Nat) (key : Stream) (first last : Nat) :
    List ReadOutcome :=
  (List.range' first (last - first)).map (scripts index key)

/-- What an open stream gives from a count of reads on when it is read so often at most. -/
def heard (script : Nat → ReadOutcome) : Nat → Nat → List ReadOutcome
  | _, 0 => []
  | count, reads + 1 =>
      script count :: if (script count).goesOn then heard script (count + 1) reads else []

variable (script : Nat → ReadOutcome)

theorem heard_eq_map (count reads : Nat) :
    heard script count reads =
      (List.range' count (heard script count reads).length).map script := by
  induction reads generalizing count with
  | zero => rfl
  | succ reads inductionHypothesis =>
      rw [heard]
      split
      · rw [List.length_cons, List.range'_succ, List.map_cons, ← inductionHypothesis]
      · rfl

theorem length_heard_le (count reads : Nat) : (heard script count reads).length ≤ reads := by
  induction reads generalizing count with
  | zero => exact Nat.le_refl 0
  | succ reads inductionHypothesis =>
      rw [heard, List.length_cons]
      split
      · exact Nat.succ_le_succ (inductionHypothesis (count + 1))
      · exact Nat.succ_le_succ (Nat.zero_le reads)

/-- Only what is heard last can end the turn of a stream. -/
theorem goesOn_of_mem_dropLast (count reads : Nat) :
    ∀ outcome ∈ (heard script count reads).dropLast, outcome.goesOn = true := by
  induction reads generalizing count with
  | zero => exact List.forall_mem_nil _
  | succ reads inductionHypothesis =>
      intro outcome membership
      rw [heard] at membership
      split at membership
      · next more =>
          by_cases last : heard script (count + 1) reads = []
          · rw [last] at membership
            cases membership
          · rw [List.dropLast_cons_of_ne_nil last] at membership
            rcases List.mem_cons.mp membership with rfl | later
            · exact more
            · exact inductionHypothesis (count + 1) outcome later
      · cases membership

/-- A stream is read often enough, or something ends its turn. -/
theorem length_heard_or (count reads : Nat) :
    (heard script count reads).length = reads ∨
      ∃ outcome ∈ heard script count reads, outcome.goesOn = false := by
  induction reads generalizing count with
  | zero => exact Or.inl rfl
  | succ reads inductionHypothesis =>
      rw [heard]
      split
      · rcases inductionHypothesis (count + 1) with full | ⟨outcome, membership, stops⟩
        · exact Or.inl (congrArg Nat.succ full)
        · exact Or.inr ⟨outcome, List.mem_cons_of_mem _ membership, stops⟩
      · next stops =>
          exact Or.inr ⟨script count, List.mem_cons_self, Bool.eq_false_iff.mpr stops⟩

end Scripts

/-- The same but for the numbers of the lines. -/
structure OutputBuffer.Like (first second : OutputBuffer) : Prop where
  texts : first.texts = second.texts
  unfinished : first.unfinished = second.unfinished
  total : first.total = second.total

namespace OutputBuffer.Like

variable {first second : OutputBuffer}

theorem refl (buffer : OutputBuffer) : Like buffer buffer :=
  ⟨rfl, rfl, rfl⟩

theorem complete (like : Like first second) (seq other : Nat) :
    Like (first.complete seq) (second.complete other) where
  texts := by
    have same := like.texts
    unfold OutputBuffer.texts at same
    simp [OutputBuffer.texts, OutputBuffer.complete, same, like.unfinished]
  unfinished := rfl
  total := like.total

theorem step (like : Like first second) (seq other : Nat) (byte : UInt8) :
    Like (step (first, seq) byte).1 (OutputBuffer.step (second, other) byte).1 := by
  have counted : first.total + 1 = second.total + 1 := congrArg (· + 1) like.total
  have grown : Like { first with total := first.total + 1 }
      { second with total := second.total + 1 } := ⟨like.texts, like.unfinished, counted⟩
  by_cases ends : byte = newline
  · simp only [OutputBuffer.step, if_pos ends]
    exact grown.complete seq other
  · simp only [OutputBuffer.step, if_neg ends]
    exact ⟨like.texts, congrArg (Array.push · byte) like.unfinished, counted⟩

theorem push (like : Like first second) (bytes : List UInt8) (seq other : Nat) :
    Like (first.push bytes seq).1 (second.push bytes other).1 := by
  unfold OutputBuffer.push
  induction bytes generalizing first second seq other with
  | nil => exact like
  | cons byte bytes inductionHypothesis =>
      exact inductionHypothesis (like.step seq other byte) _ _

theorem finish (like : Like first second) (seq other : Nat) :
    Like (first.finish seq).1 (second.finish other).1 := by
  unfold OutputBuffer.finish
  rw [like.unfinished]
  split
  · exact like
  · exact like.complete seq other

end OutputBuffer.Like

/-- The same but for the numbers of the lines. -/
structure OutputStream.Like (first second : OutputStream) : Prop where
  isOpen : first.isOpen = second.isOpen
  buffer : first.buffer.Like second.buffer

namespace Session

/-- A stream and the number of the next line, once some outcomes were accepted. -/
def acceptEach (outcomes : List ReadOutcome) (state : OutputStream × Nat) : OutputStream × Nat :=
  outcomes.foldl (fun state outcome => accept outcome state.1 state.2) state

theorem accept_like {first second : OutputStream} (like : first.Like second)
    (outcome : ReadOutcome) (seq other : Nat) :
    (accept outcome first seq).1.Like (accept outcome second other).1 := by
  cases outcome with
  | chunk bytes => exact ⟨like.isOpen, like.buffer.push bytes seq other⟩
  | endOfFile | failed => exact ⟨rfl, like.buffer.finish seq other⟩
  | interrupted | notReady => exact like

/-- What a stream comes to have does not depend on the numbers that its lines get. -/
theorem acceptEach_like {first second : OutputStream} (like : first.Like second)
    (outcomes : List ReadOutcome) (seq other : Nat) :
    (acceptEach outcomes (first, seq)).1.Like (acceptEach outcomes (second, other)).1 := by
  unfold acceptEach
  induction outcomes generalizing first second seq other with
  | nil => exact like
  | cons outcome outcomes inductionHypothesis =>
      exact inductionHypothesis (accept_like like outcome seq other) _ _

theorem acceptEach_grows (outcomes : List ReadOutcome) (state : OutputStream × Nat) :
    OutputBuffer.Grows (state.1.buffer, state.2)
      ((acceptEach outcomes state).1.buffer, (acceptEach outcomes state).2) := by
  unfold acceptEach
  induction outcomes generalizing state with
  | nil => exact .refl _
  | cons outcome outcomes inductionHypothesis =>
      exact (OutputStream.grows_accept outcome state.1 state.2).trans (inductionHypothesis _)

theorem acceptEach_append (former latter : List ReadOutcome) (state : OutputStream × Nat) :
    acceptEach (former ++ latter) state = acceptEach latter (acceptEach former state) :=
  List.foldl_append

/-- Before its end, a stream has its bytes pushed and stays as open as it was. -/
theorem acceptEach_of_unended {outcomes : List ReadOutcome}
    (unended : ∀ outcome ∈ outcomes, outcome.ends = false) (stream : OutputStream) (seq : Nat) :
    acceptEach outcomes (stream, seq) =
      stream.push (outcomes.flatMap ReadOutcome.bytes) seq := by
  unfold acceptEach
  induction outcomes generalizing stream seq with
  | nil => rfl
  | cons outcome outcomes inductionHypothesis =>
      obtain ⟨first, others⟩ := List.forall_mem_cons.mp unended
      rw [List.foldl_cons, inductionHypothesis others, List.flatMap_cons]
      cases outcome with
      | chunk bytes => simp only [accept, OutputStream.push, ReadOutcome.bytes,
          OutputBuffer.push_append]
      | interrupted | notReady => rfl
      | endOfFile | failed => cases first

end Session

end Rendezvous
