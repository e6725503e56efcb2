import Mathlib.Data.List.Basic
import Mathlib.Data.List.Induction
import Rendezvous.Output.Buffer

/-!
The lines of a stream, read off all of its bytes at once, and the lines that a
buffer makes of them when they arrive in chunks.

`Output.finished` are the lines that end in a newline, `Output.rest` is what
follows the last newline, and `Output.lines` are the lines of a stream that has
ended.  A buffer `Holds` a stream when what was taken from it and what it still
has are these lines.
-/

set_option autoImplicit false

namespace Rendezvous

namespace Output

/-- The bytes between the newlines; the last piece follows the last newline. -/
def pieces (bytes : List UInt8) : List (List UInt8) :=
  bytes.splitOn OutputBuffer.newline

theorem pieces_ne_nil (bytes : List UInt8) : pieces bytes ≠ [] :=
  List.splitOn_ne_nil _ _

/-- What follows the last newline. -/
def rest (bytes : List UInt8) : List UInt8 :=
  (pieces bytes).getLastD []

/-- The lines that end in a newline. -/
def finished (bytes : List UInt8) : List String :=
  (pieces bytes).dropLast.map Line.textOf

/-- The lines of a stream that has ended; what follows the last newline is one unless it is empty. -/
def lines (bytes : List UInt8) : List String :=
  finished bytes ++ if rest bytes = [] then [] else [Line.textOf (rest bytes)]

theorem pieces_append_newline (bytes : List UInt8) :
    pieces (bytes ++ [OutputBuffer.newline]) = pieces bytes ++ [[]] := by
  unfold pieces
  rw [List.splitOn_append_cons_self, List.splitOn_nil]

theorem pieces_cons (head : UInt8) (tail : List UInt8) :
    pieces (head :: tail) =
      if head = OutputBuffer.newline then [] :: pieces tail
      else (pieces tail).modifyHead (List.cons head) := by
  simp [pieces, List.splitOn_cons_eq_if_modifyHead]

theorem pieces_append_other (bytes : List UInt8) {byte : UInt8}
    (other : byte ≠ OutputBuffer.newline) :
    pieces (bytes ++ [byte]) = (pieces bytes).dropLast ++ [rest bytes ++ [byte]] := by
  induction bytes with
  | nil => simp [pieces, rest, List.splitOn_cons_eq_if_modifyHead, other]
  | cons head tail inductionHypothesis =>
      have nonempty := pieces_ne_nil tail
      simp only [rest, List.cons_append, pieces_cons, inductionHypothesis]
      generalize pieces tail = cut at nonempty
      cases cut with
      | nil => exact absurd rfl nonempty
      | cons first others =>
          by_cases ends : head = OutputBuffer.newline <;> cases others <;> simp [ends]

theorem pieces_of_not_mem {bytes : List UInt8} (absent : OutputBuffer.newline ∉ bytes) :
    pieces bytes = [bytes] := by
  induction bytes with
  | nil => exact List.splitOn_nil _
  | cons head tail inductionHypothesis =>
      have other : head ≠ OutputBuffer.newline := fun same => absent (same ▸ List.mem_cons_self)
      rw [pieces_cons, if_neg other,
        inductionHypothesis fun later => absent (List.mem_cons_of_mem _ later)]
      rfl

theorem rest_append_newline (bytes : List UInt8) :
    rest (bytes ++ [OutputBuffer.newline]) = [] := by
  simp [rest, pieces_append_newline]

theorem finished_append_newline (bytes : List UInt8) :
    finished (bytes ++ [OutputBuffer.newline]) = finished bytes ++ [Line.textOf (rest bytes)] := by
  obtain ⟨initial, last, cut⟩ :=
    (List.eq_nil_or_concat (pieces bytes)).resolve_left (pieces_ne_nil bytes)
  simp [finished, rest, pieces_append_newline, cut]

theorem rest_append_other (bytes : List UInt8) {byte : UInt8}
    (other : byte ≠ OutputBuffer.newline) : rest (bytes ++ [byte]) = rest bytes ++ [byte] := by
  simp [rest, pieces_append_other bytes other]

theorem finished_append_other (bytes : List UInt8) {byte : UInt8}
    (other : byte ≠ OutputBuffer.newline) : finished (bytes ++ [byte]) = finished bytes := by
  simp [finished, pieces_append_other bytes other]

theorem length_finished (bytes : List UInt8) :
    (finished bytes).length = bytes.count OutputBuffer.newline := by
  induction bytes using List.reverseRecOn with
  | nil => rfl
  | append_singleton bytes byte inductionHypothesis =>
      by_cases ends : byte = OutputBuffer.newline
      · rw [ends, finished_append_newline, List.length_append, inductionHypothesis,
          List.count_append, List.count_singleton_self]
        rfl
      · rw [finished_append_other bytes ends, inductionHypothesis, List.count_append,
          List.count_singleton, beq_eq_false_iff_ne.mpr ends]
        rfl

theorem newline_not_mem_rest (bytes : List UInt8) : OutputBuffer.newline ∉ rest bytes := by
  induction bytes using List.reverseRecOn with
  | nil => simp [rest, pieces]
  | append_singleton bytes byte inductionHypothesis =>
      by_cases ends : byte = OutputBuffer.newline
      · rw [ends, rest_append_newline]
        exact List.not_mem_nil
      · rw [rest_append_other bytes ends, List.mem_append, List.mem_singleton, not_or]
        exact ⟨inductionHypothesis, Ne.symm ends⟩

end Output

namespace OutputBuffer

/-- The texts of the lines that wait to be taken. -/
def texts (buffer : OutputBuffer) : List String :=
  buffer.lines.toList.map PendingLine.text

/--
The buffer of an open stream after the given bytes, when the given texts were
taken from it.
-/
structure Holds (buffer : OutputBuffer) (received : List UInt8) (taken : List String) : Prop where
  unfinished : buffer.unfinished.toList = Output.rest received
  lines : taken ++ buffer.texts = Output.finished received

/-- The buffer of a stream that has ended. -/
structure HoldsAll (buffer : OutputBuffer) (received : List UInt8) (taken : List String) :
    Prop where
  unfinished : buffer.unfinished = #[]
  lines : taken ++ buffer.texts = Output.lines received

theorem Holds.step {buffer : OutputBuffer} {received : List UInt8} {taken : List String}
    (holds : buffer.Holds received taken) (seq : Nat) (byte : UInt8) :
    (step (buffer, seq) byte).1.Holds (received ++ [byte]) taken := by
  by_cases ends : byte = newline
  · subst ends
    constructor
    · simp [OutputBuffer.step, complete, Output.rest_append_newline]
    · simp [OutputBuffer.step, complete, texts, Output.finished_append_newline, ← holds.lines,
        holds.unfinished]
  · constructor
    · simp [OutputBuffer.step, ends, Output.rest_append_other received ends, holds.unfinished]
    · simpa [OutputBuffer.step, ends, texts, Output.finished_append_other received ends]
        using holds.lines

theorem Holds.push {buffer : OutputBuffer} {received : List UInt8} {taken : List String}
    (holds : buffer.Holds received taken) (bytes : List UInt8) (seq : Nat) :
    (buffer.push bytes seq).1.Holds (received ++ bytes) taken := by
  unfold OutputBuffer.push
  induction bytes generalizing buffer received seq with
  | nil => simpa using holds
  | cons byte bytes inductionHypothesis =>
      have stepped := holds.step seq byte
      simpa using inductionHypothesis stepped (OutputBuffer.step (buffer, seq) byte).2

theorem Holds.finish {buffer : OutputBuffer} {received : List UInt8} {taken : List String}
    (holds : buffer.Holds received taken) (seq : Nat) :
    (buffer.finish seq).1.HoldsAll received taken := by
  have unfinished := holds.unfinished
  by_cases empty : buffer.unfinished = #[]
  · rw [empty] at unfinished
    constructor
    · simp [OutputBuffer.finish, empty]
    · simpa [OutputBuffer.finish, empty, Output.lines, ← unfinished] using holds.lines
  · have nonempty : Output.rest received ≠ [] := by
      rw [← unfinished]
      simpa using empty
    constructor
    · simp [OutputBuffer.finish, empty, complete]
    · simp [OutputBuffer.finish, empty, complete, texts, Output.lines, nonempty, ← holds.lines,
        unfinished]

/-- Lines were added behind those of a buffer, under the next numbers. -/
def Grows (before after : Numbered) : Prop :=
  ∃ added : List PendingLine,
    after.1.lines.toList = before.1.lines.toList ++ added ∧
      added.map PendingLine.seq = List.range' before.2 added.length ∧
      after.2 = before.2 + added.length

theorem Grows.refl (state : Numbered) : Grows state state :=
  ⟨[], by simp⟩

theorem Grows.trans {first second third : Numbered} (former : Grows first second)
    (latter : Grows second third) : Grows first third := by
  obtain ⟨added, lines, numbers, next⟩ := former
  obtain ⟨more, moreLines, moreNumbers, moreNext⟩ := latter
  refine ⟨added ++ more, ?_, ?_, ?_⟩
  · rw [moreLines, lines, List.append_assoc]
  · rw [List.map_append, numbers, moreNumbers, next, List.length_append, List.range'_append_1]
  · rw [moreNext, next, List.length_append, Nat.add_assoc]

theorem grows_complete (buffer : OutputBuffer) (seq : Nat) :
    Grows (buffer, seq) (buffer.complete seq, seq + 1) :=
  ⟨[⟨seq, Line.textOf buffer.unfinished.toList⟩], by simp [complete], by simp, by simp⟩

theorem grows_step (state : Numbered) (byte : UInt8) : Grows state (step state byte) := by
  obtain ⟨buffer, seq⟩ := state
  by_cases ends : byte = newline
  · rw [step, if_pos ends]
    exact grows_complete { buffer with total := buffer.total + 1 } seq
  · exact ⟨[], by simp [step, ends]⟩

theorem grows_push (buffer : OutputBuffer) (bytes : List UInt8) (seq : Nat) :
    Grows (buffer, seq) (buffer.push bytes seq) := by
  unfold push
  generalize (buffer, seq) = state
  induction bytes generalizing state with
  | nil => exact .refl state
  | cons byte bytes inductionHypothesis =>
      exact (grows_step state byte).trans (inductionHypothesis (step state byte))

theorem grows_finish (buffer : OutputBuffer) (seq : Nat) :
    Grows (buffer, seq) (buffer.finish seq) := by
  unfold finish
  split
  · exact .refl _
  · exact grows_complete buffer seq

end OutputBuffer

end Rendezvous
