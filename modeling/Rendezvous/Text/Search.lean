/-!
Finding, cutting and joining text.

Texts are lists of characters here; `contains` and `cutAt?` are the two
questions the scanner and the readers ask.
-/

set_option autoImplicit false

namespace Rendezvous

namespace Text

universe u

def occurs {α : Type u} [BEq α] (part : List α) : List α → Bool
  | [] => part.isEmpty
  | head :: tail => part.isPrefixOf (head :: tail) || occurs part tail

def contains (text part : String) : Bool :=
  occurs part.toList text.toList

/-- The texts before and after the first occurrence of a character. -/
def cutAt? (mark : Char) : List Char → Option (List Char × List Char)
  | [] => none
  | head :: tail =>
      if head = mark then some ([], tail)
      else (cutAt? mark tail).map fun (before, after) => (head :: before, after)

/-- The pieces of a list between the elements that satisfy a test; never empty. -/
def splitBy {α : Type u} (isMark : α → Bool) (items : List α) : List (List α) :=
  let rec go (piece : List α) : List α → List (List α)
    | [] => [piece.reverse]
    | head :: tail => if isMark head then piece.reverse :: go [] tail else go (head :: piece) tail
  go [] items

/-- The text with a part that is not empty replaced wherever it occurs, from the left. -/
def replace (part replacement text : List Char) : List Char :=
  -- the first argument counts what is left of an occurrence that has been replaced
  let rec go : Nat → List Char → List Char
    | _, [] => []
    | left + 1, _ :: tail => go left tail
    | 0, head :: tail =>
        if part.isPrefixOf (head :: tail) then replacement ++ go (part.length - 1) tail
        else head :: go 0 tail
  go 0 text

/-- The text without one trailing carriage return. -/
def dropReturn (line : List Char) : List Char :=
  if line.getLast? = some '\r' then line.dropLast else line

/--
The lines of a text.  Each line ends at a newline, which a carriage return may
precede; what follows the last newline is a line unless it is empty, and keeps
a carriage return at its end.
-/
def lines (text : List Char) : List (List Char) :=
  let pieces := splitBy (· = '\n') text
  let last := pieces.getLastD []
  pieces.dropLast.map dropReturn ++ (if last = [] then [] else [last])

theorem occurs_iff {α : Type u} [BEq α] [LawfulBEq α] {part items : List α} :
    occurs part items = true ↔ part <:+: items := by
  induction items with
  | nil => simp [occurs]
  | cons head tail inductionHypothesis =>
      rw [occurs, Bool.or_eq_true, inductionHypothesis, List.infix_cons_iff,
        List.isPrefixOf_iff_prefix]

theorem cutAt?_eq_some {mark : Char} {text before after : List Char}
    (found : cutAt? mark text = some (before, after)) :
    text = before ++ mark :: after ∧ mark ∉ before := by
  induction text generalizing before with
  | nil => simp [cutAt?] at found
  | cons head tail inductionHypothesis =>
      by_cases same : head = mark
      · simp [cutAt?, same] at found
        obtain ⟨rfl, rfl⟩ := found
        simp [same]
      · simp only [cutAt?, same, if_false, Option.map_eq_some_iff, Prod.exists, Prod.mk.injEq]
          at found
        obtain ⟨rest, _, deeper, rfl, rfl⟩ := found
        obtain ⟨rfl, absent⟩ := inductionHypothesis deeper
        exact ⟨rfl, by simp [absent, Ne.symm same]⟩

end Text

end Rendezvous
