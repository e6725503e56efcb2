import Rendezvous.Duration
import Rendezvous.Exit
import Rendezvous.Usage.Values

/-!
A stand-in for a server, a client or a helper.

It prints what it is told to, in a fixed order, and ends as it is told to.
-/

set_option autoImplicit false

namespace Rendezvous

/-- What the stand-in is told. -/
structure MockRole where
  /-- Printed before anything else but the words. -/
  first : List String := []
  errors : List String := []
  /-- Whether the marker is printed. -/
  ready : Bool := false
  /-- How many milliseconds pass before the marker. -/
  readyAfter : Nat := 0
  marker : String := "READY"
  afterwards : List String := []
  /-- Variables that are printed with their values. -/
  shown : List String := []
  /-- How many milliseconds pass before the end. -/
  sleep : Nat := 0
  /-- Whether the end never comes. -/
  hang : Bool := false
  /-- Whether the end is an abort. -/
  crash : Bool := false
  exitCode : Int := 0
  words : List String := []
  deriving DecidableEq, Repr, Inhabited

namespace MockRole

open Usage

def grammar : Grammar MockRole where
  options :=
    [
      repeated "print" .ok fun text role => { role with first := role.first ++ [text] },
      repeated "stderr" .ok fun text role => { role with errors := role.errors ++ [text] },
      flag "ready" (fun role => { role with ready := true }) none,
      single "ready-after-ms" readMillis fun millis role => { role with readyAfter := millis },
      single "marker" .ok fun text role => { role with marker := text },
      repeated "then" .ok fun text role => { role with afterwards := role.afterwards ++ [text] },
      repeated "show-env" .ok fun name role => { role with shown := role.shown ++ [name] },
      single "sleep-ms" readMillis fun millis role => { role with sleep := millis },
      flag "hang" (fun role => { role with hang := true }) none,
      flag "crash" (fun role => { role with crash := true }) none,
      single "exit-code" readExitCode fun code role => { role with exitCode := code },
      helpOption
    ]
  positional := some {
    trailingOnly := false
    store := fun word role => .ok { role with words := role.words ++ [word] } }

/-- Read the words behind the name of the program. -/
def read (words : List String) : Except UsageError MockRole :=
  grammar.read {} words

def outputLines (role : MockRole) (env : Variables) : List String :=
  (if role.words = [] then [] else ["args: " ++ " ".intercalate role.words]) ++ role.first ++
    (role.shown.map fun name => name ++ "=" ++ (env.value? name).getD "") ++
    (if role.ready then [role.marker] else []) ++ role.afterwards

/-- How long the stand-in takes; there is no such time if it hangs. -/
def lifetime? (role : MockRole) : Option Duration :=
  let before := if role.ready then role.readyAfter else 0
  if role.crash then some (.ofMillis before)
  else if role.hang then none
  else some (.ofMillis (before + role.sleep))

/-- An abort is this signal. -/
def abortNumber : Int := 6

/-- How the stand-in ends; one byte of the exit code reaches the parent. -/
def status (role : MockRole) : ExitStatus :=
  if role.crash then .signal abortNumber else .code (role.exitCode % 256)

/-- What was printed and how the stand-in ended; words that cannot be used are its end at once. -/
structure Performance where
  status : ExitStatus
  stdout : String
  stderr : String
  deriving DecidableEq, Repr

def textOf (lines : List String) : String :=
  String.join (lines.map (· ++ "\n"))

def usageText : String := "Usage: mock_role [OPTIONS] [REST]...\n"

/-- The stand-in, from the words behind its name to its end. -/
def perform (env : Variables) (words : List String) : Performance :=
  match read words with
  | .error .helpWanted => ⟨.code 0, usageText, ""⟩
  | .error _ => ⟨.code 2, "", usageText⟩
  | .ok role => ⟨role.status, textOf (role.outputLines env), textOf role.errors⟩

end MockRole

end Rendezvous
