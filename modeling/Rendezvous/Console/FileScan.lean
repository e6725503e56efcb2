import Rendezvous.Console.Style
import Rendezvous.Error
import Rendezvous.Scanner
import Rendezvous.Text.Utf8

/-!
Scanning files for error signatures.
-/

set_option autoImplicit false

namespace Rendezvous

/-- A line of a file that contains an error signature. -/
structure ScanRecord where
  path : String
  /-- The number of the line, counted from one. -/
  number : Nat
  signature : String
  line : String
  deriving DecidableEq, Repr, Inhabited

namespace ScanRecord

def display (record : ScanRecord) : String :=
  s!"{record.path}:{record.number}: [{record.signature}] {record.line}"

end ScanRecord

namespace FileScan

def linesOf (content : List UInt8) : List String :=
  (Text.lines (Utf8.decodeLossy content).toList).map String.ofList

/-- The records of some lines, the first of which has the given number. -/
def recordsFrom (scanner : Scanner) (path : String) : Nat → List String → List ScanRecord
  | _, [] => []
  | number, line :: lines =>
      let rest := recordsFrom scanner path (number + 1) lines
      match scanner.match? line with
      | some signature => ⟨path, number, signature, line⟩ :: rest
      | none => rest

def records (scanner : Scanner) (path : String) (content : List UInt8) : List ScanRecord :=
  recordsFrom scanner path 1 (linesOf content)

/-- The records of files in order; the first file that cannot be read ends the scan. -/
def scan (scanner : Scanner) (read : String → Except SystemError (List UInt8)) :
    List String → List ScanRecord × Option Error
  | [] => ([], none)
  | path :: paths =>
      match read path with
      | .error cause => ([], some (.fileRead path cause.message))
      | .ok content =>
          let (rest, failure) := scan scanner read paths
          (records scanner path content ++ rest, failure)

/-- What a complete scan says at its end. -/
def verdict (colored : Bool) (files hits : Nat) : String :=
  if hits = 0 then
    Style.green.apply colored "✓" ++ s!" No error signatures in {files} file(s)\n"
  else Style.red.apply colored "✗" ++ s!" {hits} line(s) matched an error signature\n"

end FileScan

end Rendezvous
