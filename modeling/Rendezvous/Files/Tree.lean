import Rendezvous.Files.Path
import Rendezvous.SystemError
import Rendezvous.Text.Utf8

/-!
A tree of files.

The tree is a table from places, the lists of names that lead to them from the
root, to files and directories.  `walk` follows a path from the working
directory through the tree, one name at a time.
-/

set_option autoImplicit false

namespace Rendezvous

/-- What is at a place. -/
inductive FileEntry where
  | file (content : List UInt8) (executable : Bool)
  | directory
  deriving DecidableEq, Repr

/-- Files and directories, and the working directory. -/
structure FileTree where
  /-- The entries by place, each place once. -/
  entries : List (List String × FileEntry)
  current : List String
  deriving Repr

namespace FileTree

/-- Where a path leads, and what is there. -/
structure Place where
  names : List String
  entry : Option FileEntry
  deriving Repr

/-- What is at a place; the root is always a directory. -/
def entry? (tree : FileTree) (names : List String) : Option FileEntry :=
  if names = [] then some .directory else tree.entries.lookup names

def put (tree : FileTree) (names : List String) (entry : FileEntry) : FileTree :=
  { tree with entries := (names, entry) :: tree.entries.filter (·.1 ≠ names) }

/-- The longest name and the longest path, in bytes. -/
def nameBound : Nat := 255
def pathBound : Nat := 4096

/-- Follow one step of a path, whatever is there. -/
def follow (names : List String) (step : String) : List String :=
  if step = "." then names else if step = ".." then names.dropLast else names ++ [step]

/-- Follow names from a place; the last one may be missing. -/
def walk (tree : FileTree) : List String → List String → Except SystemError Place
  | [], names => .ok ⟨names, tree.entry? names⟩
  | step :: rest, names =>
      match tree.entry? names with
      | none => .error .noEntry
      | some (.file _ _) => .error .notDirectory
      | some .directory =>
          if nameBound < step.utf8ByteSize then .error .nameTooLong
          else tree.walk rest (follow names step)

def place (tree : FileTree) (path : String) : Except SystemError Place :=
  if path.toList.contains '\x00' then .error .nulInName
  else if path = "" then .error .noEntry
  else if pathBound ≤ path.utf8ByteSize then .error .nameTooLong
  else
    let start := if Path.isAbsolute path then [] else tree.current
    let inside := if Path.endsInSlash path then ["."] else []
    tree.walk (Path.steps path ++ inside) start

/-- What is at the end of a path. -/
def stat (tree : FileTree) (path : String) : Except SystemError (List String × FileEntry) := do
  match ← tree.place path with
  | ⟨names, some entry⟩ => return (names, entry)
  | ⟨_, none⟩ => throw .noEntry

/-- Whether there is anything at the end of a path. -/
def has (tree : FileTree) (path : String) : Bool :=
  (tree.stat path).toBool

def isDirectory (tree : FileTree) (path : String) : Bool :=
  match tree.stat path with
  | .ok (_, .directory) => true
  | _ => false

def isExecutable (tree : FileTree) (path : String) : Bool :=
  match tree.stat path with
  | .ok (_, .file _ executable) => executable
  | _ => false

def readBytes (tree : FileTree) (path : String) : Except SystemError (List UInt8) := do
  match ← tree.stat path with
  | (_, .file content _) => return content
  | (_, .directory) => throw .isDirectory

def readText (tree : FileTree) (path : String) : Except SystemError String := do
  match Utf8.decode? (← tree.readBytes path) with
  | some text => return text
  | none => throw .notUtf8

/-- Write a file; it is made if it is missing, and an old one keeps its mode. -/
def write (tree : FileTree) (path : String) (content : List UInt8) :
    Except SystemError FileTree := do
  let bare := (Path.steps path).length ≠ 0 && Path.endsInSlash path
  let target := if bare then Path.withoutSlashes path else path
  match ← tree.place target, bare with
  | ⟨_, some .directory⟩, _ | ⟨_, none⟩, true => throw .isDirectory
  | ⟨_, some (.file _ _)⟩, true => throw .notDirectory
  | ⟨names, some (.file _ executable)⟩, false => return tree.put names (.file content executable)
  | ⟨names, none⟩, false => return tree.put names (.file content false)

/-- Make sure that there is a file; an old one stays as it is. -/
def touch (tree : FileTree) (path : String) : Except SystemError FileTree :=
  match tree.readBytes path with
  | .ok _ => .ok tree
  | .error _ => tree.write path []

/-- Make a directory whose parent is there. -/
def makeDirectory (tree : FileTree) (path : String) : Except SystemError FileTree := do
  let target := if (Path.steps path).length = 0 then path else Path.withoutSlashes path
  match ← tree.place target with
  | ⟨_, some _⟩ => throw .alreadyThere
  | ⟨names, none⟩ => return tree.put names .directory

/-- Make a directory, and first the directories on the way to it that are missing. -/
def makeDirectories (path : String) (tree : FileTree) : Except SystemError FileTree :=
  go (Path.pieces path).length path tree
where
  /-- `bound` limits how many directories are made. -/
  go (bound : Nat) (path : String) (tree : FileTree) : Except SystemError FileTree :=
    let final (outcome : Except SystemError FileTree) (tree : FileTree) :=
      match outcome with
      | .ok tree => .ok tree
      | .error cause => if tree.isDirectory path then .ok tree else .error cause
    if path = "" then .ok tree
    else match bound, tree.makeDirectory path, Path.parent? path with
      | bound + 1, .error (.numbered 2), some parent => do
          let tree ← go bound parent tree
          final (tree.makeDirectory path) tree
      | _, outcome, _ => final outcome tree

/-- The files below the working directory, as paths from there. -/
def filesHere (tree : FileTree) : List String :=
  tree.entries.filterMap fun (names, entry) =>
    match entry with
    | .directory => none
    | .file _ _ =>
        if tree.current.isPrefixOf names then
          some ("/".intercalate (names.drop tree.current.length))
        else none

/-- The path of a place, from the root. -/
def pathOf (names : List String) : String := "/" ++ "/".intercalate names

/-- The places on the way to a place, and the place itself. -/
def placesTo (names : List String) : List (List String) :=
  (List.range names.length).map fun count => names.take (count + 1)

/-- What has to be made so that one tree becomes another, directories before what is in them. -/
def changes (before after : FileTree) : List (List String × FileEntry) :=
  after.entries.reverse.filter fun (names, entry) => before.entry? names ≠ some entry

/-- Go from one directory into another, making it if it is missing. -/
def descend (tree : FileTree) : List String → List String → FileTree
  | _, [] => tree
  | names, step :: rest =>
      let inner := names ++ [step]
      let tree := if (tree.entry? inner).isSome then tree else tree.put inner .directory
      tree.descend inner rest

/-- The names from the root to where a path leads, if nothing on the way is in the way. -/
def namesOf (tree : FileTree) (path : String) : List String :=
  (Path.steps path).foldl follow (if Path.isAbsolute path then [] else tree.current)

/-- The tree with a directory at a place and all directories on the way. -/
def addDirectory (tree : FileTree) (path : String) : FileTree :=
  tree.descend [] (tree.namesOf path)

/-- The tree with a file at a place and all directories on the way. -/
def addFile (tree : FileTree) (path : String) (content : List UInt8) (executable : Bool) :
    FileTree :=
  let names := tree.namesOf path
  (tree.descend [] names.dropLast).put names (.file content executable)

/-- The tree with a file, if there is one at that place, made executable. -/
def makeExecutable (tree : FileTree) (path : String) : FileTree :=
  match tree.entry? (tree.namesOf path) with
  | some (.file content _) => tree.put (tree.namesOf path) (.file content true)
  | _ => tree

end FileTree

end Rendezvous
