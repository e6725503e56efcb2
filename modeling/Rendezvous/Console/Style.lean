import Rendezvous.Variables

/-!
Styled text for terminals.
-/

set_option autoImplicit false

namespace Rendezvous

/-- A style, as the numbers that select it. -/
inductive Style where
  | bold
  | dim
  | red
  | green
  | yellow
  | boldRed
  | boldGreen
  | boldYellow
  deriving DecidableEq, Repr

namespace Style

def numbers : Style → String
  | .bold => "1"
  | .dim => "2"
  | .red => "31"
  | .green => "32"
  | .yellow => "33"
  | .boldRed => "1;31"
  | .boldGreen => "1;32"
  | .boldYellow => "1;33"

def escape (numbers : String) : String := "\x1b[" ++ numbers ++ "m"

/-- The sequence that ends every style. -/
def reset : String := escape "0"

/-- Text in a style; a style that ends within the text is followed by this one again. -/
def paint (style : Style) (text : String) : String :=
  let start := escape style.numbers
  let again := Text.replace reset.toList (reset ++ start).toList text.toList
  start ++ String.ofList again ++ reset

def apply (colored : Bool) (style : Style) (text : String) : String :=
  if colored then style.paint text else text

/--
Whether styles are wanted: the variable that forces them outweighs the one that
forbids them, and without either of the two a terminal decides.
-/
def wanted (terminal : Bool) (env : Variables) : Bool :=
  let isOn (name : String) : Bool := (env.value? name).any (· ≠ "0")
  if isOn "CLICOLOR_FORCE" then true
  else if (env.value? "NO_COLOR").isSome then false
  else terminal && ((env.value? "CLICOLOR").isNone || isOn "CLICOLOR")

end Style

end Rendezvous
