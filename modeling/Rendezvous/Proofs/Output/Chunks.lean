import Rendezvous.Proofs.Output.Lines

/-!
A buffer in use.

Bytes are pushed in chunks, and lines are popped in between.  A `Feed` remembers
what was popped, and `Feed.Stands` says what it and the buffer come to: the lines of
all bytes that were pushed, under consecutive numbers, wherever the bytes were cut.
-/

set_option autoImplicit false

namespace Rendezvous

namespace OutputBuffer

/-- What is done with a buffer while its stream is open. -/
inductive Operation where
  | push (bytes : List UInt8)
  | pop
  deriving DecidableEq, Repr

/-- The bytes that some operations push. -/
def pushed (operations : List Operation) : List UInt8 :=
  operations.flatMap fun
    | .push bytes => bytes
    | .pop => []

/-- A buffer with the number of the next line and the lines that were popped. -/
structure Feed where
  buffer : OutputBuffer := {}
  nextSeq : Nat
  popped : List PendingLine := []
  deriving DecidableEq, Repr

theorem popLine_lines (buffer : OutputBuffer) :
    buffer.popLine.1.toList ++ buffer.popLine.2.lines.toList = buffer.lines.toList := by
  obtain ⟨unfinished, ⟨lines⟩, total⟩ := buffer
  cases lines with
  | nil => rfl
  | cons line lines => simp [popLine]

theorem step_total (state : Numbered) (byte : UInt8) :
    (step state byte).1.total = state.1.total + 1 := by
  by_cases ends : byte = newline <;> simp [step, ends, complete]

theorem push_total (buffer : OutputBuffer) (bytes : List UInt8) (seq : Nat) :
    (buffer.push bytes seq).1.total = buffer.total + bytes.length := by
  unfold push
  generalize state : (buffer, seq) = start
  have total : buffer.total = start.1.total := by rw [← state]
  rw [total]
  clear state total
  induction bytes generalizing start with
  | nil => rfl
  | cons byte bytes inductionHypothesis =>
      rw [List.foldl_cons, inductionHypothesis, step_total, List.length_cons]
      omega

theorem finish_total (buffer : OutputBuffer) (seq : Nat) :
    (buffer.finish seq).1.total = buffer.total := by
  unfold finish
  split <;> rfl

namespace Feed

def ofNumbered (feed : Feed) (numbered : Numbered) : Feed :=
  { feed with buffer := numbered.1, nextSeq := numbered.2 }

def act (feed : Feed) : Operation → Feed
  | .push bytes => feed.ofNumbered (feed.buffer.push bytes feed.nextSeq)
  | .pop => {
      feed with
      buffer := feed.buffer.popLine.2
      popped := feed.popped ++ feed.buffer.popLine.1.toList }

/-- A new buffer after some operations. -/
def after (seq : Nat) (operations : List Operation) : Feed :=
  operations.foldl act { nextSeq := seq }

/-- The end of the stream. -/
def finish (feed : Feed) : Feed :=
  feed.ofNumbered (feed.buffer.finish feed.nextSeq)

/-- The lines that were popped and those that still wait. -/
def lines (feed : Feed) : List PendingLine :=
  feed.popped ++ feed.buffer.lines.toList

/--
The lines have the given texts and are numbered from the given number on, and of one
more line there are the given bytes.
-/
structure Stands (feed : Feed) (seq : Nat) (received : List UInt8) (ended : List String)
    (begun : List UInt8) : Prop where
  texts : feed.lines.map PendingLine.text = ended
  numbers : feed.lines.map PendingLine.seq = List.range' seq ended.length
  nextSeq : feed.nextSeq = seq + ended.length
  unfinished : feed.buffer.unfinished.toList = begun
  total : feed.buffer.total = received.length

namespace Stands

variable {feed : Feed} {seq : Nat} {received : List UInt8} {ended : List String}
  {begun : List UInt8}

theorem fresh (seq : Nat) : Stands { nextSeq := seq } seq [] [] [] :=
  ⟨rfl, rfl, rfl, rfl, rfl⟩

theorem length_lines (stands : feed.Stands seq received ended begun) :
    feed.lines.length = ended.length := by
  rw [← stands.texts, List.length_map]

/-- The lines that are added get the next numbers. -/
theorem grow (stands : feed.Stands seq received ended begun) {numbered : Numbered}
    (grows : Grows (feed.buffer, feed.nextSeq) numbered) {others : List String}
    (texts : (feed.ofNumbered numbered).lines.map PendingLine.text = others) :
    (feed.ofNumbered numbered).lines.map PendingLine.seq = List.range' seq others.length ∧
      (feed.ofNumbered numbered).nextSeq = seq + others.length := by
  obtain ⟨added, lines, numbers, next⟩ := grows
  have whole : (feed.ofNumbered numbered).lines = feed.lines ++ added := by
    rw [Feed.lines, Feed.lines, List.append_assoc, ← lines]
    rfl
  have length : others.length = ended.length + added.length := by
    rw [← texts, whole, List.length_map, List.length_append, stands.length_lines]
  constructor
  · rw [whole, List.map_append, stands.numbers, numbers, stands.nextSeq, length,
      List.range'_append_1]
  · rw [length, ← Nat.add_assoc, ← stands.nextSeq]
    exact next

theorem holds (stands : feed.Stands seq received (Output.finished received)
    (Output.rest received)) :
    feed.buffer.Holds received (feed.popped.map PendingLine.text) where
  unfinished := stands.unfinished
  lines := by
    rw [← stands.texts, Feed.lines, List.map_append]
    rfl

theorem push (stands : feed.Stands seq received (Output.finished received)
    (Output.rest received)) (bytes : List UInt8) :
    (feed.act (.push bytes)).Stands seq (received ++ bytes) (Output.finished (received ++ bytes))
      (Output.rest (received ++ bytes)) := by
  have holds := stands.holds.push bytes feed.nextSeq
  have texts : (feed.act (.push bytes)).lines.map PendingLine.text =
      Output.finished (received ++ bytes) := by
    rw [← holds.lines, Feed.lines, List.map_append]
    rfl
  obtain ⟨numbers, next⟩ := stands.grow (grows_push feed.buffer bytes feed.nextSeq) texts
  refine ⟨texts, numbers, next, holds.unfinished, ?_⟩
  rw [List.length_append, ← stands.total]
  exact push_total feed.buffer bytes feed.nextSeq

theorem pop (stands : feed.Stands seq received ended begun) :
    (feed.act .pop).Stands seq received ended begun := by
  have lines : (feed.act .pop).lines = feed.lines := by
    simp only [Feed.lines, act, List.append_assoc, popLine_lines]
  exact ⟨lines ▸ stands.texts, lines ▸ stands.numbers, stands.nextSeq, stands.unfinished,
    stands.total⟩

theorem finish (stands : feed.Stands seq received (Output.finished received)
    (Output.rest received)) :
    feed.finish.Stands seq received (Output.lines received) [] := by
  have holds := stands.holds.finish feed.nextSeq
  have texts : feed.finish.lines.map PendingLine.text = Output.lines received := by
    rw [← holds.lines, Feed.lines, List.map_append]
    rfl
  obtain ⟨numbers, next⟩ := stands.grow (grows_finish feed.buffer feed.nextSeq) texts
  refine ⟨texts, numbers, next, congrArg Array.toList holds.unfinished, ?_⟩
  exact (finish_total feed.buffer feed.nextSeq).trans stands.total

theorem acts (stands : feed.Stands seq received (Output.finished received)
    (Output.rest received)) (operations : List Operation) :
    (operations.foldl act feed).Stands seq (received ++ pushed operations)
      (Output.finished (received ++ pushed operations))
      (Output.rest (received ++ pushed operations)) := by
  induction operations generalizing feed received with
  | nil => simpa [pushed] using stands
  | cons operation operations inductionHypothesis =>
      cases operation with
      | push bytes => simpa [pushed] using inductionHypothesis (stands.push bytes)
      | pop => simpa [pushed] using inductionHypothesis stands.pop

end Stands

end Feed

end OutputBuffer

end Rendezvous
