import Rendezvous.Role
import Rendezvous.Text.Utf8

/-!
Lines of output and the streams they come from.
-/

set_option autoImplicit false

namespace Rendezvous

/-- An output stream of a process. -/
inductive Stream where
  | stdout
  | stderr
  deriving DecidableEq, Repr, Inhabited

namespace Stream

/-- Both streams, in the order in which they are read. -/
def all : List Stream := [.stdout, .stderr]

def name : Stream → String
  | .stdout => "stdout"
  | .stderr => "stderr"

def ofName? (text : String) : Option Stream :=
  all.find? (·.name = text)

instance : ToString Stream := ⟨name⟩

theorem mem_all (stream : Stream) : stream ∈ all := by
  cases stream <;> decide

end Stream

/-- A complete line of output. -/
structure Line where
  /-- The place of the line among all lines of a run. -/
  seq : Nat
  role : Role
  stream : Stream
  text : String
  deriving DecidableEq, Repr, Inhabited

namespace Line

/-- The text of the bytes of a line; one carriage return at their end is not part of it. -/
def textOf (bytes : List UInt8) : String :=
  Utf8.decodeLossy (if bytes.getLast? = some 13 then bytes.dropLast else bytes)

end Line

end Rendezvous
