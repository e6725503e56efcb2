import Rendezvous.Files.Tree
import Rendezvous.Variables

/-!
Finding files: programs in the search path, and the places where the program
keeps its settings and logs.
-/

set_option autoImplicit false

namespace Rendezvous

/-- The files of the system and the variables of the program's own environment. -/
structure Surroundings where
  files : FileTree
  env : Variables
  deriving Repr

namespace Surroundings

def valueOf? (surroundings : Surroundings) (name : String) : Option String :=
  surroundings.env.value? name

def home (surroundings : Surroundings) : String :=
  (surroundings.valueOf? "HOME").getD ""

def directoriesOf (searchPath : String) : List String :=
  (Text.splitBy (· = ':') searchPath.toList).map String.ofList

/-- A directory with a tilde in front stands for one in the home directory. -/
def expandHome (surroundings : Surroundings) (directory : String) : String :=
  match Path.pieces directory with
  | "~" :: rest => if rest = [] then surroundings.home
      else Path.join surroundings.home ("/".intercalate (rest.dropWhile (· = "")))
  | _ => directory

def isBareName (path : String) : Bool :=
  (Path.parts path).length ≤ 1 && !Path.isAbsolute path

/-- The paths at which an executable may be found, the first one first. -/
def candidates (surroundings : Surroundings) (path : String) : List String :=
  if isBareName path then
    (directoriesOf ((surroundings.valueOf? "PATH").getD "")).map fun directory =>
      Path.join (surroundings.expandHome directory) path
  else [path]

/--
Find an executable.  For a bare name the first directory of the search path with
an executable file of that name decides; any other path has to be there and is
kept as it is given.
-/
def locate (surroundings : Surroundings) (path : String) : Option String :=
  if path = "" then none
  else (surroundings.candidates path).find?
    (if isBareName path then surroundings.files.isExecutable else surroundings.files.has)

/-- The name under which the program keeps its files. -/
def applicationName : String := "pairtest"

/-- A directory for the program's files: in the place that a variable names, or in the home. -/
def applicationDirectory (surroundings : Surroundings) (variableName inHome : String) : String :=
  let base := match (surroundings.valueOf? variableName).filter Path.isAbsolute with
    | some directory => directory
    | none => Path.join surroundings.home inHome
  Path.join base applicationName

def settingsDirectory (surroundings : Surroundings) : String :=
  surroundings.applicationDirectory "XDG_CONFIG_HOME" ".config"

/-- The settings file that is read if no other is named. -/
def settingsPath (surroundings : Surroundings) : String :=
  Path.join surroundings.settingsDirectory "config.toml"

def logDirectory (surroundings : Surroundings) : String :=
  Path.join (surroundings.applicationDirectory "XDG_DATA_HOME" ".local/share") "logs"

/-- The log file that is written if no other is named. -/
def logPath (surroundings : Surroundings) : String :=
  Path.join surroundings.logDirectory "pairtest.log"

end Surroundings

end Rendezvous
