import Rendezvous.Console

/-!
Which files a command may look at.

The commands work on a tree of files.  A program that is about to carry out a
command asks here which parts of the real tree it has to know.
-/

set_option autoImplicit false

namespace Rendezvous

/-- The paths that a command may follow. -/
structure Reach where
  /-- Files whose content matters. -/
  contents : List String := []
  /-- Paths of which only matters what is there. -/
  places : List String := []
  deriving DecidableEq, Repr

namespace Reach

/-- The path of the settings file, named or not. -/
def settingsOf (surroundings : Surroundings) (path : Option String) : String :=
  path.getD surroundings.settingsPath

def programsOf (options : RunOptions) (settings : Settings) : List String :=
  let launcher := options.launcher.or settings.launcher.path
  let ofRole (role : Role) : Option String :=
    (options.roles.get role).path.or (settings.roles.get role).path
  launcher.toList ++ Role.all.filterMap ofRole

def ofRun (surroundings : Surroundings) (options : RunOptions) : Reach :=
  let settings := (Console.loadSettings surroundings options.settings).toOption.getD {}
  { contents := [settingsOf surroundings options.settings]
    places :=
      options.report.toList ++ (programsOf options settings).flatMap surroundings.candidates }

def ofScan (surroundings : Surroundings) (options : ScanOptions) : Reach :=
  { contents := settingsOf surroundings options.settings :: options.files }

def ofCommand (surroundings : Surroundings) : Command → Reach
  | .run options | .plan options => ofRun surroundings options
  | .scan options => ofScan surroundings options

/--
The paths that the program may follow for the words behind its name.  Settings
name further paths, which are found once the settings are among the files.
-/
def ofWords (surroundings : Surroundings) (words : List String) : Reach :=
  match Usage.readProgram words with
  | .error _ => {}
  | .ok (shared, command) =>
      let reach := ofCommand surroundings command
      { reach with
        places := (shared.logFile.map (LogFile.pathOf surroundings)).toList ++ reach.places }

end Reach

end Rendezvous
