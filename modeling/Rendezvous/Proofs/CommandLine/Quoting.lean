import Mathlib.Data.List.Basic
import Rendezvous.Scenario.Resolve

/-!
Splitting gives back what was quoted.

The splitter is followed through a command line as it is shown.  A quoted
argument puts its own characters into the open word, whatever they are, and the
space behind it ends that word.
-/

set_option autoImplicit false

namespace Rendezvous

/-- An ASCII letter or digit has a code point outside the ranges of white space. -/
theorem Text.isBlank_eq_false_of_isAlphanum {char : Char} (alphanumeric : char.isAlphanum = true) :
    isBlank char = false := by
  have bounds : 48 ≤ char.toNat ∧ char.toNat ≤ 122 := by
    have ranges : char.isAlphanum =
        (decide ('A'.val ≤ char.val ∧ char.val ≤ 'Z'.val) ||
          decide ('a'.val ≤ char.val) && decide (char.val ≤ 'z'.val) ||
          decide ('0'.val ≤ char.val) && decide (char.val ≤ '9'.val)) := rfl
    simp only [ranges, Bool.or_eq_true, Bool.and_eq_true, decide_eq_true_eq,
      UInt32.le_iff_toNat_le] at alphanumeric
    have code : char.toNat = char.val.toNat := rfl
    have letters : 'A'.val.toNat = 65 ∧ 'Z'.val.toNat = 90 ∧ 'a'.val.toNat = 97 ∧
        'z'.val.toNat = 122 ∧ '0'.val.toNat = 48 ∧ '9'.val.toNat = 57 := by decide
    omega
  simp only [isBlank, blankRanges, List.any_cons, List.any_nil, Bool.or_false,
    Bool.or_eq_false_iff, Bool.and_eq_false_iff, decide_eq_false_iff_not]
  omega

namespace Quoting

/-- A safe character means nothing to the splitter but itself. -/
theorem plain_of_isSafe {char : Char} (safe : isSafe char = true) :
    char ≠ '\'' ∧ char ≠ '"' ∧ char ≠ '\\' ∧ Text.isBlank char = false := by
  rcases Bool.or_eq_true_iff.mp safe with alphanumeric | marked
  · refine ⟨?_, ?_, ?_, Text.isBlank_eq_false_of_isAlphanum alphanumeric⟩ <;> rintro rfl <;>
      exact absurd alphanumeric (by decide)
  · have marks : (safeMarks.all fun mark => decide (mark ≠ '\'' ∧ mark ≠ '"' ∧ mark ≠ '\\' ∧
        Text.isBlank mark = false)) = true := by
      decide
    exact of_decide_eq_true (List.all_eq_true.mp marks char (List.contains_iff_mem.mp marked))

end Quoting

namespace Words

namespace Splitter

theorem step_of_isSafe {char : Char} (safe : Quoting.isSafe char = true)
    (word : Option (Array Char)) (words : Array String) :
    step ⟨.plain, word, words⟩ char = ⟨.plain, some ((word.getD #[]).push char), words⟩ := by
  obtain ⟨single, double, escape, blank⟩ := Quoting.plain_of_isSafe safe
  simp [step, add, single, double, escape, blank]

theorem foldl_step_safe {chars : List Char} (safe : ∀ char ∈ chars, Quoting.isSafe char = true)
    (word : Array Char) (words : Array String) :
    chars.foldl step ⟨.plain, some word, words⟩ =
      ⟨.plain, some (word ++ chars.toArray), words⟩ := by
  induction chars generalizing word with
  | nil => simp
  | cons char chars inductionHypothesis =>
      obtain ⟨first, others⟩ := List.forall_mem_cons.mp safe
      rw [List.foldl_cons, step_of_isSafe first, inductionHypothesis others]
      simp

/-- An escaped character between single quotes is that character; the quotes are open again. -/
theorem foldl_step_escape (char : Char) (word : Array Char) (words : Array String) :
    (Quoting.escape char).foldl step ⟨.single, some word, words⟩ =
      ⟨.single, some (word.push char), words⟩ := by
  by_cases quote : char = '\''
  · subst quote
    rfl
  · simp [Quoting.escape, quote, step, add]

theorem foldl_step_escaped (chars : List Char) (word : Array Char) (words : Array String) :
    (chars.flatMap Quoting.escape).foldl step ⟨.single, some word, words⟩ =
      ⟨.single, some (word ++ chars.toArray), words⟩ := by
  induction chars generalizing word with
  | nil => simp
  | cons char chars inductionHypothesis =>
      rw [List.flatMap_cons, List.foldl_append, foldl_step_escape, inductionHypothesis]
      simp

/-- A quoted argument opens a word and puts its own characters into it, if there are any. -/
theorem foldl_step_quote (argument : String) (words : Array String) :
    (Quoting.quote argument).toList.foldl step ⟨.plain, none, words⟩ =
      ⟨.plain, some argument.toList.toArray, words⟩ := by
  unfold Quoting.quote
  dsimp only
  split
  · next bare =>
      obtain ⟨nonempty, safe⟩ := bare
      generalize argument.toList = chars at nonempty safe
      cases chars with
      | nil => exact absurd rfl nonempty
      | cons char chars =>
          obtain ⟨first, others⟩ := List.forall_mem_cons.mp (List.all_eq_true.mp safe)
          rw [List.foldl_cons, step_of_isSafe first, foldl_step_safe others]
          simp
  · rw [String.toList_ofList, List.cons_append, List.foldl_cons, List.foldl_append]
    have opens : step ⟨.plain, none, words⟩ '\'' = ⟨.single, some #[], words⟩ := rfl
    rw [opens, foldl_step_escaped]
    simp [step, opened]

/-- Quoted arguments with a space between them are split into these arguments. -/
theorem finish_foldl_step_quoted (argument : String) (rest : List String) (words : Array String) :
    ((" ".intercalate ((argument :: rest).map Quoting.quote)).toList.foldl step
      ⟨.plain, none, words⟩).finish = .ok (words.toList ++ argument :: rest) := by
  induction rest generalizing argument words with
  | nil =>
      rw [List.map_singleton, String.intercalate_singleton, foldl_step_quote]
      simp [finish, close]
  | cons next rest inductionHypothesis =>
      have ends : step ⟨.plain, some argument.toList.toArray, words⟩ ' ' =
          ⟨.plain, none, words.push argument⟩ := by
        simp [step, close, Text.isBlank, Text.blankRanges]
      rw [List.map_cons, List.map_cons, String.intercalate_cons_cons, String.toList_append,
        String.toList_append, List.foldl_append, List.foldl_append, foldl_step_quote]
      simp only [String.reduceToList, List.foldl_cons, List.foldl_nil]
      rw [ends, ← List.map_cons, inductionHypothesis]
      simp

end Splitter

end Words

/--
A command line as it is shown is split into the program and its arguments,
whatever characters they consist of.
-/
theorem CommandLine.splitFlags_display (line : CommandLine) :
    Scenario.splitFlags line.display = .ok line.argv := by
  have split : Words.split line.display = .ok line.argv := by
    refine (Words.Splitter.finish_foldl_step_quoted line.program line.args #[]).trans ?_
    rfl
  rw [Scenario.splitFlags, split]
  rfl

end Rendezvous
