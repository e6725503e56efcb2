/-!
How a process ended, and what is reported about it.
-/

set_option autoImplicit false

namespace Rendezvous

/-- How a process ended, as the operating system tells it. -/
inductive ExitStatus where
  | code (value : Int)
  | signal (number : Int)
  deriving DecidableEq, Repr, Inhabited

namespace ExitStatus

/-- The exit code of a process that was not killed by a signal. -/
def code? : ExitStatus → Option Int
  | .code value => some value
  | .signal _ => none

def signal? : ExitStatus → Option Int
  | .code _ => none
  | .signal number => some number

end ExitStatus

/-- The state of the process of a role, as it is reported. -/
inductive ExitState where
  | notStarted
  | running
  /-- The process exited on its own. -/
  | exited (code : Int)
  /-- The process was killed by a signal that nobody here sent. -/
  | signaled (signal : Int)
  /-- The process ended after it was asked to stop. -/
  | stopped (code signal : Option Int)
  deriving DecidableEq, Repr, Inhabited

namespace ExitState

/-- The state of a process that ended on its own. -/
def ofStatus : ExitStatus → ExitState
  | .code value => .exited value
  | .signal number => .signaled number

/-- The state of a process that ended after it was asked to stop. -/
def ofStopped (status : ExitStatus) : ExitState :=
  .stopped status.code? status.signal?

/-- Whether the process exited on its own with status zero. -/
def isClean : ExitState → Bool
  | .exited code => code = 0
  | _ => false

/-- Whether the process ended on its own with a failure status. -/
def isFailure : ExitState → Bool
  | .exited code => code ≠ 0
  | .signaled _ => true
  | _ => false

theorem isClean_iff {state : ExitState} : state.isClean = true ↔ state = .exited 0 := by
  cases state <;> simp [isClean]

def display : ExitState → String
  | .notStarted => "not started"
  | .running => "running"
  | .exited code => s!"exit code {code}"
  | .signaled signal => s!"signal {signal}"
  | .stopped _ (some signal) => s!"stopped (signal {signal})"
  | .stopped (some code) none => s!"stopped (exit code {code})"
  | .stopped none none => "stopped"

instance : ToString ExitState := ⟨display⟩

end ExitState

end Rendezvous
