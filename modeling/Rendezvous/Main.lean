import Rendezvous.Console.Reach
import Rendezvous.Simulation

/-!
The program.

The files that the command may look at are read, the command is carried out on
them, and what it has changed is written.  There is no way to start a process
from here, so a run ends with the failed launch of its first role.
-/

set_option autoImplicit false

namespace Rendezvous

namespace Program

def variableNames : List String :=
  ["HOME", "PATH", "XDG_CONFIG_HOME", "XDG_DATA_HOME", "CLICOLOR", "CLICOLOR_FORCE", "NO_COLOR"]

def readVariables : IO Variables :=
  variableNames.filterMapM fun name => do
    return (← IO.getEnv name).map fun value => (name, value)

/-- The content of a file, or whether it is one. -/
def readPlace (content : Bool) (path : String) : IO (List UInt8) := do
  if content then return (← IO.FS.readBinFile path).toList
  let handle ← IO.FS.Handle.mk path .read
  discard <| handle.read 1
  return []

/-- The tree with what there is at a place; the mode of a file is not looked at. -/
def look (content : Bool) (tree : FileTree) (names : List String) : IO FileTree := do
  if (tree.entry? names).isSome || tree.entry? names.dropLast ≠ some .directory then return tree
  match ← (readPlace content (FileTree.pathOf names)).toBaseIO with
  | .ok bytes => return tree.put names (.file bytes true)
  | .error (.inappropriateType ..) => return tree.put names .directory
  | .error _ => return tree

/-- The tree with everything on the way to some paths. -/
def lookAlong (content : Bool) (paths : List String) (tree : FileTree) : IO FileTree := do
  let lookAt (tree : FileTree) (path : String) : IO FileTree :=
    let places := FileTree.placesTo (tree.namesOf path)
    let above := places.dropLast.foldlM (look false) tree
    do places.foldlM (look content) (← above)
  paths.foldlM lookAt tree

/-- The surroundings with the paths that the words lead to. -/
def explore (words : List String) (surroundings : Surroundings) : IO Surroundings := do
  let reach := Reach.ofWords surroundings words
  let files ← lookAlong true reach.contents surroundings.files
  let files ← lookAlong false reach.places files
  return { surroundings with files }

/-- The simulated system, on which nothing can be started. -/
def world : World Simulation :=
  { Simulation.world with launch := fun _ _ system => (.error .notImplemented, system) }

/-- Make what a command has left behind. -/
def applyChange : List String × FileEntry → IO Unit
  | (names, .directory) => IO.FS.createDirAll (FileTree.pathOf names)
  | (names, .file content _) =>
      IO.FS.writeBinFile (FileTree.pathOf names) (ByteArray.mk content.toArray)

/-- Carry out the command that the words name and give the exit code. -/
def run (words : List String) : IO UInt32 := do
  let env ← readVariables
  let here := Path.steps (← IO.currentDir).toString
  let tree ← lookAlong false ["."] ⟨[], here⟩
  let surroundings ← explore words ⟨tree, env⟩
  let surroundings ← explore words surroundings
  let colored := Style.wanted (← (← IO.getStdout).isTty) env
  let ending := Console.program ⟨world, { surroundings }, surroundings, 0, colored⟩ words
  (FileTree.changes surroundings.files ending.files).forM applyChange
  (← IO.getStdout).putStr ending.stdout
  (← IO.getStderr).putStr ending.stderr
  return UInt32.ofNat (((ending.status.code?).getD 1).toNat)

end Program

end Rendezvous

def main (words : List String) : IO UInt32 :=
  Rendezvous.Program.run words
