import Rendezvous.CommandLine.Quoting

/-!
Command lines: a program and its arguments.
-/

set_option autoImplicit false

namespace Rendezvous

/-- A program and the arguments it is started with. -/
structure CommandLine where
  program : String
  args : List String
  deriving DecidableEq, Repr, Inhabited

namespace CommandLine

/-- The program followed by its arguments. -/
def argv (line : CommandLine) : List String :=
  line.program :: line.args

/-- The command line as it is shown, each part quoted where it needs to be. -/
def display (line : CommandLine) : String :=
  " ".intercalate (line.argv.map Quoting.quote)

instance : ToString CommandLine := ⟨display⟩

end CommandLine

end Rendezvous
