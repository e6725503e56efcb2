import Rendezvous.Settings
import Rendezvous.Text.Search

/-!
Error signatures.

A process may report a failure in its output only and still exit with status
zero.  A scanner is a list of texts that mark such failures.
-/

set_option autoImplicit false

namespace Rendezvous

/-- Texts that mark a failure wherever they occur in output. -/
structure Scanner where
  /-- The texts, none of them empty, each of them once. -/
  signatures : List String
  deriving DecidableEq, Repr

namespace Scanner

/-- The signatures that every scanner has unless they are replaced. -/
def defaultSignatures : List String :=
  ["FAILED", "ERROR:", "Assertion failed", "panicked at", "Segmentation fault"]

/-- Add a pattern behind the signatures, unless it is empty or one of them. -/
def insert (signatures : List String) (pattern : String) : List String :=
  if pattern = "" || signatures.contains pattern then signatures else signatures ++ [pattern]

/-- The scanner of a list of patterns; each keeps the place of its first occurrence. -/
def ofPatterns (patterns : List String) : Scanner :=
  ⟨patterns.foldl insert []⟩

/-- The patterns that settings and extra patterns give, in order. -/
def patterns (settings : ScanSettings) (extra : List String) : List String :=
  (if settings.replaceDefaults then [] else defaultSignatures) ++ settings.patterns ++ extra

def configured (settings : ScanSettings) (extra : List String) : Scanner :=
  ofPatterns (patterns settings extra)

def builtIn : Scanner := configured {} []

instance : Inhabited Scanner := ⟨builtIn⟩

/-- The first signature that occurs in a text. -/
def match? (scanner : Scanner) (text : String) : Option String :=
  scanner.signatures.find? fun signature => Text.contains text signature

def hasError (scanner : Scanner) (text : String) : Bool :=
  (scanner.match? text).isSome

end Scanner

end Rendezvous
