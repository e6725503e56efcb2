import Rendezvous.Text.Search

/-!
The text of a file path.

A path is a text with slashes.  A repeated slash, a slash at the end and a dot
between slashes do not count as parts of it.
-/

set_option autoImplicit false

namespace Rendezvous

namespace Path

def isAbsolute (path : String) : Bool :=
  path.toList.head? = some '/'

/-- What stands between the slashes, empty pieces included. -/
def pieces (path : String) : List String :=
  (Text.splitBy (· = '/') path.toList).map String.ofList

/-- The names on the way to the file, without empty ones. -/
def steps (path : String) : List String :=
  (pieces path).filter (· ≠ "")

/-- Whether the path says that it names a directory. -/
def endsInSlash (path : String) : Bool :=
  path.toList.getLast? = some '/'

def withoutSlashes (path : String) : String :=
  String.ofList (path.toList.reverse.dropWhile (· = '/')).reverse

/-- Whether a piece counts as a part; a dot counts at the start of a relative path only. -/
def isPart (first : Bool) (piece : String) : Bool :=
  piece ≠ "" && (first || piece ≠ ".")

/-- The parts of a path; the slash at its start is one. -/
def parts (path : String) : List String :=
  match pieces path with
  | [] => []
  | first :: rest =>
      (if isAbsolute path then ["/"] else if isPart true first then [first] else []) ++
        rest.filter (isPart false)

/-- The pieces up to the last part. -/
def dropIdle (reversed : List String) : List String :=
  match reversed with
  | [] => []
  | [first] => [first]
  | last :: rest => if isPart false last then last :: rest else dropIdle rest

/-- Join pieces with slashes; a single empty piece is the slash at the start. -/
def ofPieces (absolute : Bool) (pieces : List String) : String :=
  if absolute && pieces.length ≤ 1 then "/" else "/".intercalate pieces

/-- The path without its last part; there is none for the root and for the empty path. -/
def parent? (path : String) : Option String :=
  match dropIdle (pieces path).reverse with
  | [] => none
  | [only] => if only = "" then none else some ""
  | _ :: rest => some (ofPieces (isAbsolute path) (dropIdle rest).reverse)

/-- The last part, if it is a name. -/
def fileName? (path : String) : Option String :=
  match dropIdle (pieces path).reverse with
  | [] => none
  | last :: _ => if last = "" || last = "." || last = ".." then none else some last

/-- A path inside a directory; an absolute path stands for itself. -/
def join (directory path : String) : String :=
  if isAbsolute path || directory = "" then path
  else if endsInSlash directory then directory ++ path
  else directory ++ "/" ++ path

end Path

end Rendezvous
