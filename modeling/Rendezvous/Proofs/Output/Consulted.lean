import Mathlib.Data.List.DropRight
import Rendezvous.Proofs.Output.Kept

/-!
A history in use.

Lines are pushed and the history is asked about them, in any order.  Every answer is
what a list of all lines that were pushed by then would say about the last of them, so
no question changes what later ones find.
-/

set_option autoImplicit false

namespace Rendezvous

namespace History

inductive Query where
  | lines
  | tail (count : Nat)
  | text
  | length
  | dropped
  deriving DecidableEq, Repr

inductive Answer where
  | lines (lines : List Line)
  | text (text : String)
  | count (number : Nat)
  deriving DecidableEq, Repr

inductive Use where
  | push (line : Line)
  | ask (query : Query)
  deriving DecidableEq, Repr

def answer (history : History) : Query → Answer
  | .lines => .lines history.lines
  | .tail count => .lines (history.tail count)
  | .text => .text history.text
  | .length => .count history.length
  | .dropped => .count history.dropped

/-- The answer for a list of all lines, of which so many are kept. -/
def Query.ofAll (kept : Nat) (lines : List Line) : Query → Answer
  | .lines => .lines (lines.rtake (min kept lines.length))
  | .tail count => .lines (lines.rtake (min (min count kept) lines.length))
  | .text => .text (String.join
      ((lines.rtake (min kept lines.length)).map fun line => line.text ++ "\n"))
  | .length => .count (min kept lines.length)
  | .dropped => .count (lines.length - min kept lines.length)

/-- The lines that some uses push. -/
def pushed : List Use → List Line
  | [] => []
  | .push line :: uses => line :: pushed uses
  | .ask _ :: uses => pushed uses

/-- The queries among some uses, each with all lines that were pushed before it. -/
def asked (before : List Line) : List Use → List (List Line × Query)
  | [] => []
  | .push line :: uses => asked (before ++ [line]) uses
  | .ask query :: uses => (before, query) :: asked before uses

/-- A history and the answers it has given. -/
structure Consulted where
  history : History
  answers : List Answer := []
  deriving DecidableEq, Repr

namespace Consulted

def act (consulted : Consulted) : Use → Consulted
  | .push line => { consulted with history := consulted.history.push line }
  | .ask query => {
      consulted with answers := consulted.answers ++ [consulted.history.answer query] }

/-- A new history after some uses. -/
def after (limit : Nat) (uses : List Use) : Consulted :=
  uses.foldl act { history := empty limit }

end Consulted

/-- The last lines up to a limit, counted from either end. -/
theorem reverse_take_reverse (limit : Nat) (lines : List Line) :
    (lines.reverse.take limit).reverse = lines.rtake (min limit lines.length) := by
  rw [List.rtake_eq_reverse_take_reverse, List.take_eq_take_iff.mpr]
  simp

theorem lines_foldl_push (limit : Nat) (lines : List Line) :
    (lines.foldl push (empty limit)).lines =
      lines.rtake (min (Nat.max limit 1) lines.length) := by
  rw [foldl_push_empty]
  exact reverse_take_reverse _ lines

theorem length_foldl_push (limit : Nat) (lines : List Line) :
    (lines.foldl push (empty limit)).length = min (Nat.max limit 1) lines.length := by
  rw [foldl_push_empty, length, List.length_take, List.length_reverse]

theorem tail_foldl_push (limit : Nat) (lines : List Line) (count : Nat) :
    (lines.foldl push (empty limit)).tail count =
      lines.rtake (min (min count (Nat.max limit 1)) lines.length) := by
  rw [foldl_push_empty, tail, List.take_take]
  exact reverse_take_reverse _ lines

theorem dropped_foldl_push (limit : Nat) (lines : List Line) :
    (lines.foldl push (empty limit)).dropped =
      lines.length - (lines.foldl push (empty limit)).length := by
  have whole := length_add_dropped_foldl_push limit lines
  omega

theorem answer_foldl_push (limit : Nat) (lines : List Line) (query : Query) :
    (lines.foldl push (empty limit)).answer query = query.ofAll (Nat.max limit 1) lines := by
  cases query with
  | lines => exact congrArg Answer.lines (lines_foldl_push limit lines)
  | tail count => exact congrArg Answer.lines (tail_foldl_push limit lines count)
  | text => rw [answer, text, lines_foldl_push, Query.ofAll]
  | length => exact congrArg Answer.count (length_foldl_push limit lines)
  | dropped => rw [answer, dropped_foldl_push, length_foldl_push, Query.ofAll]

namespace Consulted

/-- Questions leave the history as it is. -/
theorem foldl_act_history (consulted : Consulted) (uses : List Use) :
    (uses.foldl act consulted).history = (pushed uses).foldl push consulted.history := by
  induction uses generalizing consulted with
  | nil => rfl
  | cons first uses inductionHypothesis =>
      cases first with
      | push line | ask query => exact inductionHypothesis _

/-- Each question finds the lines that were pushed before it. -/
theorem foldl_act_answers (limit : Nat) (before : List Line) (answers : List Answer)
    (uses : List Use) :
    (uses.foldl act ⟨before.foldl push (empty limit), answers⟩).answers =
      answers ++ (asked before uses).map fun (before, query) =>
        query.ofAll (Nat.max limit 1) before := by
  induction uses generalizing before answers with
  | nil => exact (List.append_nil answers).symm
  | cons first uses inductionHypothesis =>
      cases first with
      | push line =>
          have next := inductionHypothesis (before ++ [line]) answers
          rw [List.foldl_append] at next
          exact next
      | ask query =>
          have given := answer_foldl_push limit before query
          have next := inductionHypothesis before
            (answers ++ [query.ofAll (Nat.max limit 1) before])
          rw [List.foldl_cons, act, given, next, List.append_assoc]
          rfl

end Consulted

/--
However pushes and questions are mixed, a history has the last of the lines that were
pushed, up to its limit and one at least, in the order of the pushes, and it counts the
others.  Each question was answered from the lines that had been pushed by then.
-/
theorem last_lines_at_any_time (limit : Nat) (uses : List Use) :
    let kept := Nat.max limit 1
    let lines := pushed uses
    let consulted := Consulted.after limit uses
    let history := consulted.history
    history.lines = lines.rtake (min kept lines.length) ∧
    history.length = min kept lines.length ∧
    history.dropped = lines.length - history.length ∧
    (∀ count, history.tail count = lines.rtake (min (min count kept) lines.length)) ∧
    history.text = String.join (history.lines.map fun line => line.text ++ "\n") ∧
    consulted.answers =
      (asked [] uses).map fun (before, query) => query.ofAll kept before := by
  intro kept lines consulted history
  have pushes : history = lines.foldl push (empty limit) :=
    Consulted.foldl_act_history { history := empty limit } uses
  rw [pushes]
  refine ⟨lines_foldl_push limit lines, length_foldl_push limit lines,
    dropped_foldl_push limit lines, tail_foldl_push limit lines, ?_, ?_⟩
  · rw [text]
  · exact Consulted.foldl_act_answers limit [] [] uses

end History

end Rendezvous
