import Rendezvous.Deadline
import Rendezvous.Session
import Rendezvous.Transcript

/-!
Waiting until a process says that it is ready.

The wait ends with the first pass that holds a decisive line of the target: one
with an error signature or one with the marker.  An error signature anywhere in
that pass outweighs the marker.
-/

set_option autoImplicit false

namespace Rendezvous

/-- Where a handshake stands. -/
inductive Handshake where
  | waiting
  /-- The marker was printed, in this line. -/
  | found (line : String)
  | timedOut
  /-- The process ended without printing the marker. -/
  | exitedEarly (exit : ExitState)
  /-- The process printed an error signature. -/
  | errorText (pattern line : String)
  deriving DecidableEq, Repr, Inhabited

namespace Handshake

def isWaiting (state : Handshake) : Bool := state = .waiting

def isFound : Handshake → Bool
  | .found _ => true
  | _ => false

def isErrorText : Handshake → Bool
  | .errorText _ _ => true
  | _ => false

/-- What a handshake that has ended means for the run. -/
def toResult (state : Handshake) (role : Role) (marker : String) (deadline : Deadline) :
    Except Error Unit :=
  match state with
  | .found _ => .ok ()
  | .timedOut => .error (.handshakeTimeout role marker deadline.budget.toSeconds)
  | .exitedEarly exit => .error (.exitBeforeHandshake role marker exit.display)
  | .errorText pattern line => .error (.errorTextBeforeHandshake role pattern line)
  | .waiting => .error (.internal "handshake wait ended while still waiting")

/-- How long a process that has ended may keep its streams open before it counts as finished. -/
def linger : Duration := .ofMillis 200

/-- Who is waited for, and how. -/
structure Target where
  role : Role
  marker : String
  deadline : Deadline
  /-- Whether the lines of the target are relayed during the wait. -/
  relaying : Bool
  deriving DecidableEq, Repr

/-- The handshake after a line of the target that contains the given signature, if any. -/
def afterLine (state : Handshake) (marker : String) (line : String)
    (signature? : Option String) : Handshake :=
  if state.isErrorText then state
  else match signature? with
    | some pattern => .errorText pattern line
    | none => if state.isWaiting && Text.contains line marker then .found line else state

def observe (target : Target) : Handshake × Transcript → Line → Handshake × Transcript
  | (state, transcript), line =>
      let isTarget := line.role = target.role
      let relaying := !isTarget || target.relaying || !state.isWaiting
      let (transcript, signature?) := transcript.observe line relaying
      (if isTarget then state.afterLine target.marker line.text signature? else state, transcript)

variable {σ : Type}

/-- A wait between two passes: it goes on, or it has ended. -/
def afterPass (world : World σ) (target : Target) (state : Handshake) (session : Session σ) :
    Except Error Handshake :=
  if !state.isWaiting then .ok state
  else match session.process? target.role with
    | none => .error (.processNotTracked target.role)
    | some process =>
        if process.isFinished (session.now world) linger && !process.hasPendingLines then
          .ok (.exitedEarly process.exitState)
        else if target.deadline.isExpired (session.now world) then .ok .timedOut
        else .ok .waiting

/-- Passes until the wait ends; when no more passes are allowed, time is up. -/
def passes (world : World σ) (target : Target) :
    Nat → Session σ → Transcript → Except Error Handshake × Session σ × Transcript
  | more, session, transcript =>
      let budget := target.deadline.slice (session.now world) Session.pollInterval
      match session.poll world true budget with
      | (.error cause, session) => (.error cause, session, transcript)
      | (.ok (), session) =>
          let (lines, session) := session.takeLines
          let (state, transcript) := lines.foldl (observe target) (.waiting, transcript)
          match afterPass world target state session, more with
          | .ok .waiting, more + 1 => passes world target more session transcript
          | .ok .waiting, 0 => (.ok .timedOut, session, transcript)
          | outcome, _ => (outcome, session, transcript)

/-- The end of a pass that was not cut short, and how the wait goes on from there. -/
theorem passes_of_polled {world : World σ} {target : Target} {session polled : Session σ}
    (passed : session.poll world true
      (target.deadline.slice (session.now world) Session.pollInterval) = (.ok (), polled))
    (more : Nat) (transcript : Transcript) :
    passes world target more session transcript =
      let observed := polled.takeLines.1.foldl (observe target) (.waiting, transcript)
      match afterPass world target observed.1 polled.takeLines.2, more with
      | .ok .waiting, more + 1 => passes world target more polled.takeLines.2 observed.2
      | .ok .waiting, 0 => (.ok .timedOut, polled.takeLines.2, observed.2)
      | outcome, _ => (outcome, polled.takeLines.2, observed.2) := by
  rw [passes]
  simp only [passed]

theorem passes_of_interrupted {world : World σ} {target : Target} {session polled : Session σ}
    {cause : Error}
    (passed : session.poll world true
      (target.deadline.slice (session.now world) Session.pollInterval) = (.error cause, polled))
    (more : Nat) (transcript : Transcript) :
    passes world target more session transcript = (.error cause, polled, transcript) := by
  rw [passes]
  simp only [passed]

/-- Wait for the marker of the target, one pass at least. -/
def await (world : World σ) (target : Target) (more : Nat) (session : Session σ)
    (transcript : Transcript) : Except Error Handshake × Session σ × Transcript :=
  match session.process? target.role with
  | none => (.error (.processNotTracked target.role), session, transcript)
  | some _ => passes world target more session transcript

end Handshake

end Rendezvous
