import Rendezvous.Console.FileScan
import Rendezvous.Console.LogFile
import Rendezvous.Console.Summary
import Rendezvous.Report
import Rendezvous.Run
import Rendezvous.Scenario.Resolve
import Rendezvous.Settings.Reader
import Rendezvous.Usage

/-!
What the commands of the program do.

A command is a function from the surroundings to an outcome: what it prints,
the files it leaves, and its exit code or the error that ended it.
-/

set_option autoImplicit false

namespace Rendezvous

/-- What a command leaves behind. -/
structure Outcome where
  code : Except Error Nat
  stdout : String := ""
  stderr : String := ""
  files : FileTree

namespace Console

/-- Where a command is carried out. -/
structure Place (σ : Type) where
  world : World σ
  outside : σ
  surroundings : Surroundings
  /-- How many passes beyond the first a wait of a run may take. -/
  passes : Nat
  colored : Bool

def readSettings (files : FileTree) (path : String) : Except Error Settings := do
  let text ← (files.readText path).mapError fun cause => .fileRead path cause.message
  (Settings.read text).mapError fun cause => .settingsFile cause.message

/-- The settings of the named file, or of the usual one if there is one. -/
def loadSettings (surroundings : Surroundings) (path : Option String) : Except Error Settings :=
  match path with
  | some path => readSettings surroundings.files path
  | none =>
      if surroundings.files.has surroundings.settingsPath then
        readSettings surroundings.files surroundings.settingsPath
      else .ok {}

/-- The scenario that the options and the settings describe. -/
def loadScenario (surroundings : Surroundings) (options : RunOptions)
    (builtIn : LauncherSettings := {}) : Except Error Scenario := do
  let settings ← loadSettings surroundings options.settings
  Scenario.resolve surroundings.locate options settings builtIn

variable {σ : Type}

/-- Write the report of a run if one is wanted. -/
def saveReport (path : Option String) (result : RunResult) (files : FileTree) :
    Except Error FileTree :=
  match path with
  | some path => Report.write path result files
  | none => .ok files

/--
Run a scenario, print its output and a summary, and write the report; also tells
how the world is left.
-/
def runIn (place : Place σ) (options : RunOptions) (builtIn : LauncherSettings := {}) :
    Outcome × σ :=
  let files := place.surroundings.files
  match loadScenario place.surroundings options builtIn with
  | .error cause => ({ code := .error cause, files }, place.outside)
  | .ok scenario =>
      let start := Run.start place.world (Run.transcriptOf scenario) place.outside
      let (result, run) := start.complete place.world scenario place.passes
      let stdout := run.transcript.written
      let stderr := Summary.text place.colored result
      match saveReport options.report result files with
      | .error cause => ({ code := .error cause, stdout, stderr, files }, run.session.outside)
      | .ok files =>
          ({ code := .ok result.exitCode, stdout, stderr, files }, run.session.outside)

def run (place : Place σ) (options : RunOptions) : Outcome :=
  (runIn place options).1

def planOf (colored : Bool) (scenario : Scenario) (role : Role) (line : CommandLine) : String :=
  let entries := (scenario.envOf role).map fun (name, value) => s!"  {name}={value}\n"
  Style.bold.apply colored role.name ++ ": " ++ line.display ++ "\n" ++ String.join entries

/-- The plans of some roles; a role without a command line ends the list. -/
def plans (colored : Bool) (scenario : Scenario) : List Role → String × Except Error Nat
  | [] => ("", .ok 0)
  | role :: roles =>
      match scenario.commandLine role with
      | .error cause => ("", .error cause)
      | .ok line =>
          let (rest, code) := plans colored scenario roles
          (planOf colored scenario role line ++ rest, code)

/-- Print the command line of every role. -/
def plan (place : Place σ) (options : RunOptions) (builtIn : LauncherSettings := {}) : Outcome :=
  let files := place.surroundings.files
  match loadScenario place.surroundings options builtIn with
  | .error cause => { code := .error cause, files }
  | .ok scenario =>
      let (stdout, code) := plans place.colored scenario scenario.activeRoles
      { code, stdout, files }

def scan (place : Place σ) (options : ScanOptions) : Outcome :=
  let files := place.surroundings.files
  match loadSettings place.surroundings options.settings with
  | .error cause => { code := .error cause, files }
  | .ok settings =>
      let scanner := Scanner.configured settings.scan options.patterns
      let (records, failure) := FileScan.scan scanner files.readBytes options.files
      let stdout := String.join (records.map fun record => record.display ++ "\n")
      match failure with
      | some cause => { code := .error cause, stdout, files }
      | none => {
          code := .ok (if records = [] then 0 else 1)
          stdout
          stderr := FileScan.verdict place.colored options.files.length records.length
          files }

def perform (place : Place σ) : Command → Outcome
  | .run options => run place options
  | .plan options => plan place options
  | .scan options => scan place options

/-- How a program ends: with an exit status, after printing something. -/
structure Ending where
  status : ExitStatus
  stdout : String
  stderr : String
  files : FileTree

/-- The name and the version of the program. -/
def versionText : String := "pairtest 0.1.0\n"

/-- What the program says when it is asked for help. -/
def helpText : String :=
  String.join ([
    "Client/server test driver with handshake synchronization",
    "",
    "Usage: pairtest [OPTIONS] <COMMAND>",
    "",
    "Commands:",
    "  run   Run one client/server scenario",
    "  plan  Print the command line of every role without starting anything",
    "  scan  Scan captured output files for error signatures",
    "  help  Print this message or the help of the given subcommand(s)",
    "",
    "Options:",
    "  -v, --verbose              Log driver decisions at debug level",
    "      --log-file <LOG_FILE>  Also write logs to this file ('-' for the default log directory)",
    "  -h, --help                 Print help",
    "  -V, --version              Print version"].map (· ++ "\n"))

/-- How the program ends when its words cannot be used. -/
def endOfUsage (files : FileTree) : Usage.UsageError → Ending
  | .versionWanted => ⟨.code 0, versionText, "", files⟩
  | .helpWanted => ⟨.code 0, helpText, "", files⟩
  | _ => ⟨.code 2, "", helpText, files⟩

def endOfCommand (place : Place σ) (shared : SharedOptions) (command : Command) : Ending :=
  let (files, warning) := match shared.logFile with
    | some wanted => LogFile.prepare place.surroundings wanted
    | none => (place.surroundings.files, none)
  let surroundings := { place.surroundings with files }
  let outcome := perform { place with surroundings } command
  let stderr := warning.getD "" ++ outcome.stderr
  match outcome.code with
  | .ok code => ⟨.code code, outcome.stdout, stderr, outcome.files⟩
  | .error cause =>
      ⟨.code 1, outcome.stdout, stderr ++ s!"Error: {cause.message}\n", outcome.files⟩

/-- The program, from the words behind its name to its end. -/
def program (place : Place σ) (words : List String) : Ending :=
  match Usage.readProgram words with
  | .error cause => endOfUsage place.surroundings.files cause
  | .ok (shared, command) => endOfCommand place shared command

end Console

end Rendezvous
