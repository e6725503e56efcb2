import Rendezvous.ArgSlice
import Rendezvous.Role
import Rendezvous.Timeout
import Rendezvous.Variables

/-!
What the command line of a run says.

Every option overrides the setting of the same meaning, see
`Rendezvous.Scenario.Resolve`.
-/

set_option autoImplicit false

namespace Rendezvous

structure RoleOptions where
  path : Option String := none
  processes : Option Nat := none
  preflags : Option String := none
  postflags : Option String := none
  args : Option ArgSlice := none
  env : Variables := []
  deriving DecidableEq, Repr, Inhabited

structure RunOptions where
  roles : RoleTable RoleOptions := .replicate {}
  launcher : Option String := none
  countFlag : Option String := none
  /-- Flags in front of the executable of every role. -/
  preflags : Option String := none
  /-- Flags behind the executable of every role. -/
  postflags : Option String := none
  serial : Bool := false
  distributed : Bool := false
  /-- In seconds. -/
  timeouts : TimeoutTable (Option Binary64) := ⟨none, none, none, none⟩
  marker : Option String := none
  patterns : List String := []
  tolerateErrorText : Bool := false
  env : Variables := []
  backend : Option String := none
  /-- The path of the configuration file. -/
  settings : Option String := none
  quiet : Bool := false
  report : Option String := none
  /-- The trailing arguments, of which every role takes a slice. -/
  tail : List String := []
  deriving DecidableEq, Repr, Inhabited

end Rendezvous
