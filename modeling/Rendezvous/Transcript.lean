import Rendezvous.Output.Line
import Rendezvous.Scanner

/-!
The transcript of a run.

Every line that is taken from a process goes through the transcript: it is
scanned for error signatures and relayed under the name of its role.
-/

set_option autoImplicit false

namespace Rendezvous

/-- A line of output that contains an error signature. -/
structure Finding where
  role : Role
  stream : Stream
  pattern : String
  line : String
  deriving DecidableEq, Repr, Inhabited

/-- What has been seen and relayed. -/
structure Transcript where
  scanner : Scanner
  /-- Whether relayed lines are counted only. -/
  quiet : Bool
  /-- How many findings are kept for each role. -/
  limit : Nat
  /-- Whether relayed lines can be written. -/
  writable : Bool := true
  findings : Array Finding := #[]
  /-- How many lines of each role contained a signature. -/
  hits : RoleTable Nat := .replicate 0
  relayed : Nat := 0
  written : String := ""
  deriving Repr

namespace Transcript

/-- How many findings are kept for each role unless something else is said. -/
def defaultLimit : Nat := 20

def start (scanner : Scanner) (quiet : Bool) (limit : Nat) : Transcript :=
  { scanner, quiet, limit }

/-- The tag of a relayed line: its role, and its stream if that is not standard output. -/
def tag (role : Role) : Stream → String
  | .stdout => role.name
  | .stderr => role.name ++ ":stderr"

def render (line : Line) : String :=
  "[" ++ tag line.role line.stream ++ "] " ++ line.text ++ "\n"

/-- Count a line that contains a signature; it is kept as a finding up to the limit. -/
def record (transcript : Transcript) (line : Line) (pattern : String) : Transcript :=
  let hits := transcript.hits.get line.role + 1
  { transcript with
    hits := transcript.hits.set line.role hits
    findings :=
      if hits ≤ transcript.limit then
        transcript.findings.push ⟨line.role, line.stream, pattern, line.text⟩
      else transcript.findings }

def relay (transcript : Transcript) (line : Line) : Transcript :=
  { transcript with
    relayed := transcript.relayed + 1
    written :=
      if transcript.quiet || !transcript.writable then transcript.written
      else transcript.written ++ render line }

/-- Scan a line and, if asked to, relay it; also tells the signature that it contains. -/
def observe (transcript : Transcript) (line : Line) (relaying : Bool) :
    Transcript × Option String :=
  let found := transcript.scanner.match? line.text
  let scanned := match found with
    | some pattern => transcript.record line pattern
    | none => transcript
  (if relaying then scanned.relay line else scanned, found)

def observeAll (transcript : Transcript) (lines : List Line) : Transcript :=
  lines.foldl (fun transcript line => (transcript.observe line true).1) transcript

/-- Whether a line of a role contained a signature. -/
def hasErrorText (transcript : Transcript) (role : Role) : Bool :=
  0 < transcript.hits.get role

/-- Whether a line of any role contained a signature. -/
def hasAnyErrorText (transcript : Transcript) : Bool :=
  Role.all.any transcript.hasErrorText

/-- How many lines with a signature are not kept as findings. -/
def dropped (transcript : Transcript) : Nat :=
  Role.all.foldl (fun total role => total + (transcript.hits.get role - transcript.limit)) 0

end Transcript

end Rendezvous
