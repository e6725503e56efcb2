import Rendezvous.Files.Search

/-!
The log file.

A log file that cannot be made is worth a warning and no more.
-/

set_option autoImplicit false

namespace Rendezvous

namespace LogFile

/-- The path of the log file; a dash stands for the one in the log directory. -/
def pathOf (surroundings : Surroundings) (wanted : String) : String :=
  if Path.parts wanted = ["-"] then surroundings.logPath else wanted

/-- Make the log file and the directories on the way to it; tells what went wrong. -/
def prepare (surroundings : Surroundings) (wanted : String) : FileTree × Option String :=
  let files := surroundings.files
  let path := pathOf surroundings wanted
  let directory := ((Path.parent? path).filter (· ≠ "")).getD "."
  match Path.fileName? path with
  | none => (files, none)
  | some name =>
      match files.makeDirectories directory with
      | .error cause =>
          (files,
            some s!"Warning: Could not create log directory {directory}: {cause.message}\n")
      | .ok files =>
          match files.touch (Path.join directory name) with
          | .ok files => (files, none)
          | .error cause =>
              (files,
                some (s!"Warning: Could not open log file {path}: " ++
                  s!"failed to create initial log file: {cause.message}\n"))

end LogFile

end Rendezvous
