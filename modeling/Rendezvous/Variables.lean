import Rendezvous.Text.Search

/-!
Environment variables as lists of assignments, applied in order.
-/

set_option autoImplicit false

namespace Rendezvous

/-- Assignments of environment variables; a later one overrides an earlier one. -/
abbrev Variables := List (String × String)

namespace Variables

/-- The value a variable has after all assignments. -/
def value? (env : Variables) (name : String) : Option String :=
  (env.reverse.find? (·.1 = name)).map (·.2)

/-- A name that an environment can hold: not empty, without `=` and without NUL. -/
def isName (name : String) : Bool :=
  name ≠ "" && !name.toList.contains '=' && !name.toList.contains '\x00'

/-- The first assignment whose name an environment cannot hold. -/
def badName? (env : Variables) : Option String :=
  (env.map (·.1)).find? fun name => !isName name

/-- Read `KEY=VALUE`; the key ends at the first `=` and is not empty. -/
def readPair (text : String) : Except String (String × String) :=
  match Text.cutAt? '=' text.toList with
  | some (key, value) =>
      if key = [] then .error s!"expected KEY=VALUE, got '{text}'"
      else .ok (String.ofList key, String.ofList value)
  | none => .error s!"expected KEY=VALUE, got '{text}'"

theorem badName?_eq_none {env : Variables} :
    badName? env = none ↔ ∀ entry ∈ env, isName entry.1 = true := by
  simp [badName?]

end Variables

end Rendezvous
