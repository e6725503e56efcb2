import Rendezvous.RunOptions
import Rendezvous.Usage.Values

/-!
The commands of the program and their options.
-/

set_option autoImplicit false

namespace Rendezvous

/-- What a scan of files needs. -/
structure ScanOptions where
  files : List String := []
  patterns : List String := []
  /-- The path of the configuration file. -/
  settings : Option String := none
  deriving DecidableEq, Repr, Inhabited

/-- A command of the program. -/
inductive Command where
  | run (options : RunOptions)
  /-- Print the command line of every role. -/
  | plan (options : RunOptions)
  /-- Scan files for error signatures. -/
  | scan (options : ScanOptions)
  deriving DecidableEq, Repr

/-- The options that every command takes. -/
structure SharedOptions where
  verbose : Bool := false
  logFile : Option String := none
  deriving DecidableEq, Repr, Inhabited

namespace Usage

/-- The name of a role in the options for its launch. -/
def roleName : Role → String
  | .server => "server"
  | .client => "client"
  | .clientHelper => "helper"

def onRole (role : Role) (change : RoleOptions → RoleOptions) (options : RunOptions) :
    RunOptions :=
  { options with roles := options.roles.set role (change (options.roles.get role)) }

def roleOptions (role : Role) : List (Opt RunOptions) :=
  let name := roleName role
  [
    single role.name readPath fun path => onRole role fun given => { given with path := some path },
    anyText (name ++ "-preflags") fun flags =>
      onRole role fun given => { given with preflags := some flags },
    anyText (name ++ "-postflags") fun flags =>
      onRole role fun given => { given with postflags := some flags },
    single (name ++ "-nprocs") readProcessCount fun count =>
      onRole role fun given => { given with processes := some count },
    single (name ++ "-args") readSlice fun slice =>
      onRole role fun given => { given with args := some slice },
    repeated (name ++ "-env") readVariable fun entry =>
      onRole role fun given => { given with env := given.env ++ [entry] }
  ]

def timeoutOptions : List (Opt RunOptions) :=
  [
    single "handshake-timeout" readSeconds fun seconds options =>
      { options with timeouts := { options.timeouts with handshake := some seconds } },
    single "server-exit-timeout" readSeconds fun seconds options =>
      { options with timeouts := { options.timeouts with serverExit := some seconds } },
    single "run-timeout" readSeconds fun seconds options =>
      { options with timeouts := { options.timeouts with run := some seconds } },
    single "stop-grace" readSeconds fun seconds options =>
      { options with timeouts := { options.timeouts with stopGrace := some seconds } }
  ]

/-- The options of a run that concern all roles. -/
def commonOptions : List (Opt RunOptions) :=
  [
    single "launcher" readPath fun path options => { options with launcher := some path },
    anyText "nproc-flag" fun text options => { options with countFlag := some text },
    anyText "launcher-preflags" fun text options => { options with preflags := some text },
    anyText "launcher-postflags" fun text options => { options with postflags := some text },
    flag "serial" (fun options => { options with serial := true }) none,
    flag "distributed" (fun options => { options with distributed := true }) none,
    single "marker" .ok fun text options => { options with marker := some text },
    repeated "error-pattern" .ok fun text options =>
      { options with patterns := options.patterns ++ [text] },
    flag "tolerate-error-text" (fun options => { options with tolerateErrorText := true }) none,
    repeated "env" readVariable fun entry options =>
      { options with env := options.env ++ [entry] },
    single "backend" .ok fun text options => { options with backend := some text },
    single "config" readPath fun path options => { options with settings := some path },
    flag "quiet" (fun options => { options with quiet := true }) (some 'q'),
    single "report" readPath fun path options => { options with report := some path },
    helpOption
  ]

/-- The words of a run: options, and the trailing arguments behind a double dash. -/
def runGrammar : Grammar RunOptions where
  options := Role.all.flatMap roleOptions ++ timeoutOptions ++ commonOptions
  positional := some {
    trailingOnly := true
    store := fun word options => .ok { options with tail := options.tail ++ [word] } }
  check := fun options =>
    if options.serial && options.distributed then .error .conflict else .ok ()

/-- The words of a scan: options and one file at least. -/
def scanGrammar : Grammar ScanOptions where
  options :=
    [
      repeated "error-pattern" .ok fun text options =>
        { options with patterns := options.patterns ++ [text] },
      single "config" readPath fun path options => { options with settings := some path },
      helpOption
    ]
  positional := some {
    trailingOnly := false
    store := fun word options => do
      return { options with files := options.files ++ [← readPath word] } }
  check := fun options => if options.files = [] then .error .missingRequired else .ok ()

def sharedOptions : List (Opt SharedOptions) :=
  [
    flag "verbose" (fun options => { options with verbose := true }) (some 'v'),
    single "log-file" readPath fun path options => { options with logFile := some path }
  ]

/-- An option for a part of a larger value. -/
def Opt.inside {σ τ : Type} (part : τ → σ) (replace : σ → τ → τ) (option : Opt σ) :
    Opt τ :=
  let inner (store : String → σ → Except UsageError σ) (text : String) (whole : τ) :
      Except UsageError τ := do
    return replace (← store text (part whole)) whole
  { long := option.long
    short := option.short
    effect := match option.effect with
      | .flag apply => .flag fun whole => replace (apply (part whole)) whole
      | .single dashes store => .single dashes (inner store)
      | .repeated store => .repeated (inner store)
      | .stop outcome => .stop outcome }

/-- The words of a command together with further options. -/
def Grammar.withShared {σ : Type} (grammar : Grammar σ) (shared : List (Opt SharedOptions)) :
    Grammar (SharedOptions × σ) where
  options :=
    (grammar.options.map (Opt.inside Prod.snd fun own whole => (whole.1, own))) ++
      shared.map (Opt.inside Prod.fst fun common whole => (common, whole.2))
  positional := grammar.positional.map fun positional => {
    trailingOnly := positional.trailingOnly
    store := fun word whole => do return (whole.1, ← positional.store word whole.2) }
  check := fun whole => grammar.check whole.2

def commandNames : List String := ["run", "plan", "scan", "help"]

def readCommand (shared : List (Opt SharedOptions)) (common : SharedOptions) (name : String)
    (words : List String) : Except UsageError (SharedOptions × Command) :=
  match name with
  | "run" => do
      let (common, options) ← (runGrammar.withShared shared).read (common, {}) words
      return (common, .run options)
  | "plan" => do
      let (common, options) ← (runGrammar.withShared shared).read (common, {}) words
      return (common, .plan options)
  | "scan" => do
      let (common, options) ← (scanGrammar.withShared shared).read (common, {}) words
      return (common, .scan options)
  | _ =>
      match words with
      | [] => .error .helpWanted
      | [word] => if commandNames.contains word then .error .helpWanted else .error .unknownCommand
      | _ => .error .unknownCommand

/-- Read the words in front of the name of a command, and then the command. -/
def readWords (grammar : Grammar SharedOptions) (shared : List (Opt SharedOptions)) :
    Reader SharedOptions → List String → Except UsageError (SharedOptions × Command)
  | reader, [] => do
      let settled ← reader.resolve
      .error (if settled.given = [] then .nothingGiven else .missingCommand)
  | reader, word :: words =>
      if commandNames.contains word && reader.awaiting?.isNone then
        if reader.trailing then .error .unknownArgument
        else do
          let settled ← reader.resolve
          readCommand shared settled.value word words
      else do readWords grammar shared (← reader.step grammar word) words

/-- Read the words behind the name of the program, for a program without shared options. -/
def read (words : List String) : Except UsageError Command := do
  let grammar : Grammar SharedOptions := { options := [helpOption], stray := .unknownCommand }
  let (_, command) ← readWords grammar [] { value := {} } words
  return command

def readProgram (words : List String) : Except UsageError (SharedOptions × Command) :=
  let grammar : Grammar SharedOptions := {
    options := sharedOptions ++ [helpOption, versionOption]
    stray := .unknownCommand }
  readWords grammar sharedOptions { value := {} } words

end Usage

end Rendezvous
