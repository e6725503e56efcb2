import Mathlib.Data.List.Basic
import Mathlib.Data.List.Induction
import Rendezvous.Console.FileScan
import Rendezvous.Proofs.Output.Lines
import Rendezvous.Proofs.Text.Cutting
import Rendezvous.Proofs.Text.Decoding

/-!
Captured output.

A scan decodes a whole file and cuts the text into lines; a buffer cuts the bytes
as they arrive and decodes each line.  As a newline and a carriage return are
ASCII, both come to the same lines, apart from a carriage return at the very end.
-/

set_option autoImplicit false

namespace Rendezvous

namespace Output

open Utf8 (charsOf)

/-- The byte of a carriage return. -/
def carriageReturn : UInt8 := 13

theorem newline_unmarked {bytes : List UInt8} (absent : OutputBuffer.newline ∉ bytes) :
    ∀ char ∈ charsOf bytes, decide (char = '\n') = false := by
  rintro char read
  refine decide_eq_false ?_
  rintro rfl
  have cut : OutputBuffer.newline ∈ bytes :=
    Utf8.mem_of_mem_charsOf (by decide) (by decide) read
  exact absent cut

/-- Cutting the text at newlines is decoding the pieces between the newline bytes. -/
theorem splitBy_charsOf (bytes : List UInt8) :
    Text.splitBy (· = '\n') (charsOf bytes) = (pieces bytes).map charsOf := by
  induction length : bytes.length using Nat.strongRecOn generalizing bytes with
  | ind length' inductionHypothesis =>
      by_cases cut : OutputBuffer.newline ∈ bytes
      · obtain ⟨first, second, rfl, absent⟩ := List.eq_append_cons_of_mem cut
        have shorter : second.length < length' := by
          rw [← length, List.length_append, List.length_cons]
          omega
        have rest := inductionHypothesis second.length shorter second rfl
        have joined : pieces (first ++ OutputBuffer.newline :: second) =
            first :: pieces second := by
          rw [pieces, List.splitOn_append_cons_self, ← pieces, ← pieces, pieces_of_not_mem absent]
          rfl
        rw [Utf8.charsOf_append_ascii first second (by decide),
          Text.splitBy_append_cons (newline_unmarked absent) (by decide), rest, joined,
          List.map_cons]
      · rw [pieces_of_not_mem cut, Text.splitBy_of_unmarked (newline_unmarked cut)]
        rfl

/-- A text ends with a carriage return when its bytes do. -/
theorem dropReturn_charsOf (bytes : List UInt8) :
    Text.dropReturn (charsOf bytes) =
      charsOf (if bytes.getLast? = some carriageReturn then bytes.dropLast else bytes) := by
  rcases List.eq_nil_or_concat bytes with rfl | ⟨earlier, last, rfl⟩
  · rfl
  rw [List.concat_eq_append, List.getLast?_concat, List.dropLast_concat]
  rcases Nat.lt_or_ge last.toNat 0x80 with ascii | large
  · rw [Utf8.charsOf_append_singleton earlier ascii, Text.dropReturn, List.getLast?_concat,
      List.dropLast_concat]
    by_cases same : last = carriageReturn
    · subst same
      rfl
    · have other : Char.ofNat last.toNat ≠ '\r' := by
        intro equal
        have codes := congrArg Char.toNat equal
        rw [Utf8.toNat_ofNat_ascii ascii] at codes
        exact same (UInt8.toNat_inj.mp codes)
      rw [if_neg (by simpa using other), if_neg (by simpa using same),
        Utf8.charsOf_append_singleton earlier ascii]
  · obtain ⟨chars, char, read, wide⟩ := Utf8.exists_wide_last earlier large
    have other : char ≠ '\r' := by
      rintro rfl
      exact absurd wide.toNat_eq_zero_or (by decide)
    have same : last ≠ carriageReturn := by
      rintro rfl
      exact absurd large (by decide)
    rw [read, Text.dropReturn, List.getLast?_concat, if_neg (by simpa using other),
      if_neg (by simpa using same), read]

theorem textOf_eq (bytes : List UInt8) :
    Line.textOf bytes = String.ofList (Text.dropReturn (charsOf bytes)) := by
  rw [dropReturn_charsOf]
  rfl

/-- The lines of a scan, by the pieces of the bytes. -/
theorem linesOf_eq (content : List UInt8) :
    FileScan.linesOf content = finished content ++
      if rest content = [] then [] else [Utf8.decodeLossy (rest content)] := by
  obtain ⟨earlier, last, cut⟩ :=
    (List.eq_nil_or_concat (pieces content)).resolve_left (pieces_ne_nil content)
  rw [List.concat_eq_append] at cut
  have texts : Line.textOf = fun bytes => String.ofList (Text.dropReturn (charsOf bytes)) :=
    funext textOf_eq
  rw [FileScan.linesOf, Utf8.toList_decodeLossy, Text.lines, splitBy_charsOf, finished, rest, cut,
    texts]
  by_cases empty : last = []
  · simp [empty, Utf8.charsOf_nil]
  · simp [empty, Utf8.charsOf_eq_nil_iff, Utf8.decodeLossy_eq]

theorem textOf_of_other {bytes : List UInt8} (other : bytes.getLast? ≠ some carriageReturn) :
    Line.textOf bytes = Utf8.decodeLossy bytes :=
  congrArg Utf8.decodeLossy (if_neg other)

theorem textOf_append_return (bytes : List UInt8) :
    Line.textOf (bytes ++ [carriageReturn]) = Utf8.decodeLossy bytes := by
  have last : (bytes ++ [carriageReturn]).getLast? = some carriageReturn := List.getLast?_concat
  have dropped : (bytes ++ [carriageReturn]).dropLast = bytes := List.dropLast_concat
  exact congrArg Utf8.decodeLossy ((if_pos last).trans dropped)

theorem decodeLossy_append_return (bytes : List UInt8) :
    Utf8.decodeLossy (bytes ++ [carriageReturn]) = Utf8.decodeLossy bytes ++ "\r" := by
  rw [Utf8.decodeLossy_eq, Utf8.charsOf_append_singleton bytes (by decide), String.ofList_append]
  rfl

theorem getLast?_rest (content : List UInt8) :
    (rest content).getLast? = some carriageReturn ↔ content.getLast? = some carriageReturn := by
  rcases List.eq_nil_or_concat content with rfl | ⟨earlier, last, rfl⟩
  · simp [rest, pieces]
  rw [List.concat_eq_append]
  by_cases ends : last = OutputBuffer.newline
  · rw [ends, rest_append_newline, List.getLast?_concat]
    decide
  · rw [rest_append_other earlier ends, List.getLast?_concat, List.getLast?_concat]

/-- A scan sees the lines of a stream that has ended, unless that ends with a carriage return. -/
theorem linesOf_eq_lines {content : List UInt8}
    (other : content.getLast? ≠ some carriageReturn) :
    FileScan.linesOf content = lines content := by
  have kept := textOf_of_other fun ends => other ((getLast?_rest content).mp ends)
  rw [linesOf_eq, lines, kept]

/-- A carriage return at the very end stays with the last line. -/
theorem linesOf_of_return {content : List UInt8}
    (ends : content.getLast? = some carriageReturn) :
    ∃ earlier last, lines content = earlier ++ [last] ∧
      FileScan.linesOf content = earlier ++ [last ++ "\r"] := by
  obtain ⟨bytes, whole⟩ := List.getLast?_eq_some_iff.mp ((getLast?_rest content).mpr ends)
  have nonempty : rest content ≠ [] := by simp [whole]
  refine ⟨finished content, Utf8.decodeLossy bytes, ?_, ?_⟩
  · rw [lines, if_neg nonempty, whole, textOf_append_return]
  · rw [linesOf_eq, if_neg nonempty, whole, decodeLossy_append_return]

end Output

namespace OutputBuffer

/-- A new buffer after some chunks of bytes. -/
def ofChunks (chunks : List (List UInt8)) (seq : Nat) : Numbered :=
  chunks.foldl (fun (buffer, seq) bytes => buffer.push bytes seq) ({}, seq)

theorem holds_foldl_push (state : Numbered) {received : List UInt8} {taken : List String}
    (holds : state.1.Holds received taken) (chunks : List (List UInt8)) :
    (chunks.foldl (fun (buffer, seq) bytes => buffer.push bytes seq) state).1.Holds
      (received ++ chunks.flatten) taken := by
  induction chunks generalizing state received with
  | nil => simpa using holds
  | cons bytes chunks inductionHypothesis =>
      simpa using inductionHypothesis _ (holds.push bytes state.2)

/-- The texts in a buffer when its stream ends, however the bytes were cut into chunks. -/
theorem texts_ofChunks (chunks : List (List UInt8)) (seq : Nat) :
    ((ofChunks chunks seq).1.finish (ofChunks chunks seq).2).1.texts =
      Output.lines chunks.flatten := by
  have fresh : ({} : OutputBuffer).Holds [] [] := ⟨rfl, rfl⟩
  have holds := holds_foldl_push ({}, seq) fresh chunks
  rw [List.nil_append] at holds
  exact (holds.finish _).lines

end OutputBuffer

end Rendezvous
