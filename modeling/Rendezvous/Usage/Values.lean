import Rendezvous.ArgSlice
import Rendezvous.Decimal.Reader
import Rendezvous.Usage.Grammar
import Rendezvous.Variables

/-!
The values of options.
-/

set_option autoImplicit false

namespace Rendezvous

namespace Usage

/-- A path, which is not empty. -/
def readPath (text : String) : Except UsageError String :=
  if text = "" then .error .invalidValue else .ok text

/-- A value that some reader finds in a text. -/
def readWith {α : Type} (read : List Char → Option α) (text : String) : Except UsageError α :=
  match read text.toList with
  | some value => .ok value
  | none => .error .malformedValue

def readSlice (text : String) : Except UsageError ArgSlice :=
  (ArgSlice.read text).mapError fun _ => .malformedValue

def readVariable (text : String) : Except UsageError (String × String) :=
  (Variables.readPair text).mapError fun _ => .malformedValue

/-- A count of processes, of 32 bits. -/
def readProcessCount : String → Except UsageError Nat :=
  readWith fun text => (Decimal.readInt? 0 (UInt32.size - 1) text).map Int.toNat

def readSeconds : String → Except UsageError Binary64 :=
  readWith Decimal.readBinary64?

/-- A count of milliseconds, of 64 bits. -/
def readMillis : String → Except UsageError Nat :=
  readWith (Decimal.readNat? UInt64.size)

/-- An exit code, of 32 bits with a sign. -/
def readExitCode : String → Except UsageError Int :=
  readWith (Decimal.readInt? Int32.minValue.toInt Int32.maxValue.toInt)

variable {σ α : Type}

def single (long : String) (read : String → Except UsageError α) (put : α → σ → σ) : Opt σ where
  long
  effect := .single false fun text value => do return put (← read text) value

/-- An option with one text, which may look like an option. -/
def anyText (long : String) (put : String → σ → σ) : Opt σ where
  long
  effect := .single true fun text value => .ok (put text value)

def repeated (long : String) (read : String → Except UsageError α) (put : α → σ → σ) : Opt σ where
  long
  effect := .repeated fun text value => do return put (← read text) value

def flag (long : String) (put : σ → σ) (short : Option Char) : Opt σ where
  long
  short
  effect := .flag put

def helpOption : Opt σ where
  long := "help"
  short := some 'h'
  effect := .stop .helpWanted

def versionOption : Opt σ where
  long := "version"
  short := some 'V'
  effect := .stop .versionWanted

end Usage

end Rendezvous
