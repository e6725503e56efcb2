import Rendezvous.Text.Search

/-!
Cutting text at a mark.

Pieces without a mark that are joined by marks are found again when the text is
cut at the marks.
-/

set_option autoImplicit false

namespace Rendezvous

universe u

namespace Text

variable {α : Type u} {isMark : α → Bool}

theorem splitBy_go_append {first : List α} (unmarked : ∀ item ∈ first, isMark item = false)
    (piece rest : List α) :
    splitBy.go isMark piece (first ++ rest) = splitBy.go isMark (first.reverse ++ piece) rest := by
  induction first generalizing piece with
  | nil => rfl
  | cons item first inductionHypothesis =>
      have other : isMark item ≠ true := by simp [unmarked item List.mem_cons_self]
      rw [List.cons_append, splitBy.go, if_neg other,
        inductionHypothesis fun later place => unmarked later (List.mem_cons_of_mem item place)]
      simp

theorem splitBy_of_unmarked {items : List α} (unmarked : ∀ item ∈ items, isMark item = false) :
    splitBy isMark items = [items] := by
  have all := splitBy_go_append unmarked [] []
  rw [List.append_nil, List.append_nil] at all
  rw [splitBy, all, splitBy.go, List.reverse_reverse]

theorem splitBy_append_cons {first : List α} (unmarked : ∀ item ∈ first, isMark item = false)
    {mark : α} (marked : isMark mark = true) (second : List α) :
    splitBy isMark (first ++ mark :: second) = first :: splitBy isMark second := by
  rw [splitBy, splitBy_go_append unmarked, splitBy.go, if_pos marked, List.append_nil,
    List.reverse_reverse]
  rfl

/-- Pieces that each end with a mark are cut apart again, whatever follows. -/
theorem splitBy_flatMap_append {pieces : List (List α)}
    (unmarked : ∀ piece ∈ pieces, ∀ item ∈ piece, isMark item = false) {mark : α}
    (marked : isMark mark = true) (rest : List α) :
    splitBy isMark ((pieces.flatMap fun piece => piece ++ [mark]) ++ rest) =
      pieces ++ splitBy isMark rest := by
  induction pieces with
  | nil => rfl
  | cons piece pieces inductionHypothesis =>
      have later := inductionHypothesis fun other place =>
        unmarked other (List.mem_cons_of_mem piece place)
      rw [List.flatMap_cons, List.append_assoc, List.append_assoc, List.singleton_append,
        splitBy_append_cons (unmarked piece List.mem_cons_self) marked, later, List.cons_append]

/-- Lines that each end with a newline are cut apart again, whatever follows. -/
theorem splitBy_join_append {lines : List String} (plain : ∀ line ∈ lines, '\n' ∉ line.toList)
    (rest : String) :
    splitBy (· = '\n') (String.join (lines.map (· ++ "\n")) ++ rest).toList =
      lines.map String.toList ++ splitBy (· = '\n') rest.toList := by
  have chars : (String.join (lines.map (· ++ "\n"))).toList =
      (lines.map String.toList).flatMap fun line => line ++ ['\n'] := by
    rw [String.toList_join, List.flatMap_map, List.flatMap_map]
    simp only [String.toList_append]
    rfl
  have unmarked : ∀ line ∈ lines.map String.toList, ∀ char ∈ line,
      decide (char = '\n') = false := by
    simp only [List.forall_mem_map]
    intro line place char membership
    exact decide_eq_false fun same => plain line place (same ▸ membership)
  rw [String.toList_append, chars, splitBy_flatMap_append unmarked (by decide)]

/-- Nothing is left behind the last newline. -/
theorem splitBy_join_lines {lines : List String} (plain : ∀ line ∈ lines, '\n' ∉ line.toList) :
    splitBy (· = '\n') (String.join (lines.map (· ++ "\n"))).toList =
      lines.map String.toList ++ [[]] := by
  have cut := splitBy_join_append plain ""
  rw [String.append_empty] at cut
  exact cut

theorem splitBy_go_front (piece items : List α) :
    ∃ rest pieces, splitBy.go isMark piece items = (piece.reverse ++ rest) :: pieces := by
  induction items generalizing piece with
  | nil => exact ⟨[], [], by rw [splitBy.go, List.append_nil]⟩
  | cons item items inductionHypothesis =>
      rw [splitBy.go]
      split
      · exact ⟨[], _, by rw [List.append_nil]⟩
      · obtain ⟨rest, pieces, cut⟩ := inductionHypothesis (item :: piece)
        exact ⟨item :: rest, pieces, by simp [cut]⟩

/-- The first piece begins where the whole begins. -/
theorem splitBy_cons {item : α} (unmarked : isMark item = false) (items : List α) :
    ∃ rest pieces, splitBy isMark (item :: items) = (item :: rest) :: pieces := by
  rw [splitBy, splitBy.go, if_neg (by simp [unmarked])]
  exact splitBy_go_front [item] items

/-- What is cut off at a mark ends before the first one. -/
theorem cutAt?_append_cons {mark : Char} {before : List Char} (absent : mark ∉ before)
    (after : List Char) : cutAt? mark (before ++ mark :: after) = some (before, after) := by
  induction before with
  | nil => rw [List.nil_append, cutAt?, if_pos rfl]
  | cons head tail inductionHypothesis =>
      obtain ⟨other, absentLater⟩ := not_or.mp (mt List.mem_cons.mpr absent)
      rw [List.cons_append, cutAt?, if_neg (Ne.symm other), inductionHypothesis absentLater]
      rfl

end Text

end Rendezvous
