/-!
Quoting an argument so that splitting gives it back.
-/

set_option autoImplicit false

namespace Rendezvous

namespace Quoting

/-- The characters besides ASCII letters and digits that need no quotes. -/
def safeMarks : List Char :=
  ['_', '-', '.', '/', '=', ':', ',', '+', '@', '%']

def isSafe (char : Char) : Bool :=
  char.isAlphanum || safeMarks.contains char

/-- Between single quotes only a single quote is special: it is written outside them. -/
def escape (char : Char) : List Char :=
  if char = '\'' then ['\'', '\\', '\'', '\''] else [char]

/-- An argument as it is shown: in single quotes unless it is made of safe characters. -/
def quote (argument : String) : String :=
  let chars := argument.toList
  if chars ≠ [] ∧ chars.all isSafe then argument
  else String.ofList ('\'' :: chars.flatMap escape ++ ['\''])

end Quoting

end Rendezvous
