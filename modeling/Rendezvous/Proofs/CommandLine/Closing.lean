import Mathlib.Data.List.Basic
import Rendezvous.CommandLine.Words

/-!
Which texts can be split.

A text can be split exactly when every quote that it opens is closed in it.
`Words.Closed` reads this off the text itself; the splitter is followed through
it by its mode, on which nothing but the characters has an influence.
-/

set_option autoImplicit false

namespace Rendezvous

namespace Words

/-- Text that may stand between double quotes: a backslash takes the next character with it. -/
inductive Enclosed : List Char → Prop where
  | nil : Enclosed []
  | escaped (char : Char) {rest : List Char} (enclosed : Enclosed rest) :
      Enclosed ('\\' :: char :: rest)
  | ordinary {char : Char} {rest : List Char} (noQuote : char ≠ '"') (noEscape : char ≠ '\\')
      (enclosed : Enclosed rest) : Enclosed (char :: rest)

/-- Every quote that is opened in the text is closed in it. -/
inductive Closed : List Char → Prop where
  | nil : Closed []
  | lastEscape : Closed ['\\']
  | escaped (char : Char) {rest : List Char} (closed : Closed rest) :
      Closed ('\\' :: char :: rest)
  | single {inside rest : List Char} (plain : '\'' ∉ inside) (closed : Closed rest) :
      Closed ('\'' :: (inside ++ '\'' :: rest))
  | double {inside rest : List Char} (enclosed : Enclosed inside) (closed : Closed rest) :
      Closed ('"' :: (inside ++ '"' :: rest))
  | ordinary {char : Char} {rest : List Char} (noSingle : char ≠ '\'') (noDouble : char ≠ '"')
      (noEscape : char ≠ '\\') (closed : Closed rest) : Closed (char :: rest)

namespace Mode

def next : Mode → Char → Mode
  | .plain, char =>
      if char = '\'' then .single
      else if char = '"' then .double
      else if char = '\\' then .escaped
      else .plain
  | .escaped, _ => .plain
  | .single, char => if char = '\'' then .plain else .single
  | .double, char =>
      if char = '"' then .plain else if char = '\\' then .doubleEscaped else .double
  | .doubleEscaped, _ => .double

/-- Outside all quotes. -/
def IsOpen : Mode → Prop
  | .plain | .escaped => True
  | .single | .double | .doubleEscaped => False

/-- The splitter is outside all quotes once it has read the text. -/
def Leaves (mode : Mode) (text : List Char) : Prop :=
  (text.foldl next mode).IsOpen

theorem leaves_cons {mode : Mode} {char : Char} {text : List Char} :
    mode.Leaves (char :: text) ↔ (mode.next char).Leaves text :=
  Iff.rfl

theorem leaves_append {mode : Mode} {first second : List Char} :
    mode.Leaves (first ++ second) ↔ (first.foldl next mode).Leaves second := by
  rw [Leaves, Leaves, List.foldl_append]

theorem foldl_next_single {inside : List Char} (plain : '\'' ∉ inside) :
    inside.foldl next .single = .single := by
  induction inside with
  | nil => rfl
  | cons char inside inductionHypothesis =>
      have other : char ≠ '\'' := fun same => plain (same ▸ List.mem_cons_self)
      rw [List.foldl_cons, next, if_neg other]
      exact inductionHypothesis fun later => plain (List.mem_cons_of_mem char later)

theorem foldl_next_double {inside : List Char} (enclosed : Enclosed inside) :
    inside.foldl next .double = .double := by
  induction enclosed with
  | nil => rfl
  | escaped char enclosed inductionHypothesis => exact inductionHypothesis
  | ordinary noQuote noEscape enclosed inductionHypothesis =>
      rw [List.foldl_cons, next, if_neg noQuote, if_neg noEscape]
      exact inductionHypothesis

theorem leaves_of_closed {text : List Char} (closed : Closed text) : Leaves .plain text := by
  induction closed with
  | nil => trivial
  | lastEscape => trivial
  | escaped char closed inductionHypothesis => exact inductionHypothesis
  | single plain closed inductionHypothesis =>
      apply leaves_cons.mpr
      apply leaves_append.mpr
      rw [show next .plain '\'' = .single from rfl, foldl_next_single plain]
      exact inductionHypothesis
  | double enclosed closed inductionHypothesis =>
      apply leaves_cons.mpr
      apply leaves_append.mpr
      rw [show next .plain '"' = .double from rfl, foldl_next_double enclosed]
      exact inductionHypothesis
  | ordinary noSingle noDouble noEscape closed inductionHypothesis =>
      apply leaves_cons.mpr
      rw [next, if_neg noSingle, if_neg noDouble, if_neg noEscape]
      exact inductionHypothesis

/-- A single quote that is left again ends at the next single quote. -/
theorem leaves_single {text : List Char} (leaves : Leaves .single text) :
    ∃ inside rest, text = inside ++ '\'' :: rest ∧ '\'' ∉ inside ∧ Leaves .plain rest := by
  induction text with
  | nil => exact leaves.elim
  | cons char text inductionHypothesis =>
      by_cases ends : char = '\''
      · subst ends
        exact ⟨[], text, rfl, List.not_mem_nil, leaves⟩
      · rw [leaves_cons, next, if_neg ends] at leaves
        obtain ⟨inside, rest, rfl, plain, left⟩ := inductionHypothesis leaves
        refine ⟨char :: inside, rest, rfl, ?_, left⟩
        simpa [Ne.symm ends] using plain

/-- A double quote that is left again ends at the next double quote without a backslash. -/
theorem leaves_double : {text : List Char} → Leaves .double text →
    ∃ inside rest, text = inside ++ '"' :: rest ∧ Enclosed inside ∧ Leaves .plain rest
  | [], leaves => leaves.elim
  | ['\\'], leaves => leaves.elim
  | char :: text, leaves => by
      by_cases ends : char = '"'
      · subst ends
        exact ⟨[], text, rfl, .nil, leaves⟩
      · by_cases escapes : char = '\\'
        · subst escapes
          cases text with
          | nil => exact leaves.elim
          | cons taken text =>
              have later : Leaves .double text := leaves
              obtain ⟨inside, rest, rfl, enclosed, left⟩ := leaves_double later
              exact ⟨'\\' :: taken :: inside, rest, rfl, .escaped taken enclosed, left⟩
        · rw [leaves_cons, next, if_neg ends, if_neg escapes] at leaves
          obtain ⟨inside, rest, rfl, enclosed, left⟩ := leaves_double leaves
          exact ⟨char :: inside, rest, rfl, .ordinary ends escapes enclosed, left⟩

theorem closed_of_leaves : (text : List Char) → Leaves .plain text → Closed text
  | [], _ => .nil
  | char :: text, leaves => by
      by_cases single : char = '\''
      · subst single
        have quoted : Leaves .single text := leaves
        obtain ⟨inside, rest, rfl, plain, left⟩ := leaves_single quoted
        exact .single plain (closed_of_leaves rest left)
      · by_cases double : char = '"'
        · subst double
          have quoted : Leaves .double text := leaves
          obtain ⟨inside, rest, rfl, enclosed, left⟩ := leaves_double quoted
          exact .double enclosed (closed_of_leaves rest left)
        · by_cases escapes : char = '\\'
          · subst escapes
            cases text with
            | nil => exact .lastEscape
            | cons taken text => exact .escaped taken (closed_of_leaves text leaves)
          · rw [leaves_cons, next, if_neg single, if_neg double, if_neg escapes] at leaves
            exact .ordinary single double escapes (closed_of_leaves text leaves)
  termination_by text => text.length

end Mode

namespace Splitter

theorem close_mode (splitter : Splitter) : splitter.close.mode = splitter.mode := by
  unfold close
  split <;> rfl

theorem step_mode (splitter : Splitter) (char : Char) :
    (splitter.step char).mode = splitter.mode.next char := by
  obtain ⟨mode, word, words⟩ := splitter
  cases mode with
  | plain =>
      simp only [step, Mode.next]
      split_ifs <;> simp [opened, add, close_mode]
  | escaped => rfl
  | single | double =>
      simp only [step, Mode.next]
      split_ifs <;> rfl
  | doubleEscaped =>
      simp only [step, Mode.next]
      split_ifs <;> rfl

theorem foldl_step_mode (text : List Char) (splitter : Splitter) :
    (text.foldl step splitter).mode = text.foldl Mode.next splitter.mode := by
  induction text generalizing splitter with
  | nil => rfl
  | cons char text inductionHypothesis =>
      rw [List.foldl_cons, List.foldl_cons, inductionHypothesis, step_mode]

theorem finish_eq_ok_iff (splitter : Splitter) :
    (∃ words, splitter.finish = .ok words) ↔ splitter.mode.IsOpen := by
  obtain ⟨mode, word, words⟩ := splitter
  cases mode <;> simp [finish, Mode.IsOpen]

end Splitter

/-- A text is split into words exactly when its quotes are closed. -/
theorem split_eq_ok_iff (text : String) :
    (∃ words, split text = .ok words) ↔ Closed text.toList := by
  have left : (∃ words, split text = .ok words) ↔ Mode.Leaves .plain text.toList := by
    rw [split, Splitter.finish_eq_ok_iff, Splitter.foldl_step_mode]
    rfl
  rw [left]
  exact ⟨Mode.closed_of_leaves text.toList, Mode.leaves_of_closed⟩

instance (text : String) : Decidable (Closed text.toList) :=
  decidable_of_iff ((split text).isOk = true) <| by
    rw [← split_eq_ok_iff]
    cases split text <;> simp [Except.isOk, Except.toBool]

end Words

end Rendezvous
