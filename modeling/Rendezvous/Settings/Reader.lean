import Rendezvous.Settings
import Rendezvous.Toml.Document

/-!
Reading settings from a TOML document.

A section knows its keys; any other key is an error.  `Section.ofValue` brings
the value of a section into one form, and the readers below look their keys up
in it, so neither the order of the keys nor that of the sections matters, and
an absent section means the same as an empty one.
-/

set_option autoImplicit false

namespace Rendezvous

namespace Settings

/-- Why a document does not hold settings. -/
inductive ReadError where
  | toml (cause : Toml.ReadError)
  | unknownKey (key : String)
  /-- A key is given in two spellings. -/
  | repeatedKey (key : String)
  /-- A section written as an array ends before a key it has to give. -/
  | missingKey (key : String)
  /-- A value is not of the kind that is needed here. -/
  | expected (kind : String)
  deriving DecidableEq, Repr

namespace ReadError

def message : ReadError → String
  | .toml cause => cause.message
  | .unknownKey key => s!"unknown field '{key}'"
  | .repeatedKey key => s!"duplicate field '{key}'"
  | .missingKey key => s!"missing field '{key}'"
  | .expected kind => s!"invalid type, expected {kind}"

end ReadError

/-- A key that a section knows. -/
structure Key where
  name : String
  /-- Other spellings. -/
  spellings : List String := []
  /-- Whether a section written as an array has to reach this key. -/
  positional : Bool := false
  deriving Repr

namespace Key

def matches? (keys : List Key) (text : String) : Option Key :=
  keys.find? fun key => key.name = text || key.spellings.contains text

end Key

/-- The values that a section gives, each under the name of its key. -/
abbrev Section := List (String × Toml.Value)

namespace Section

/-- The values of a table; its keys are known and each is given once. -/
def ofTable (keys : List Key) : Toml.Table → Except ReadError Section
  | [] => .ok []
  | (text, value) :: rest => do
      match Key.matches? keys text with
      | none => throw (.unknownKey text)
      | some key =>
          let given ← ofTable keys rest
          if (given.lookup key.name).isSome then throw (.repeatedKey key.name)
          return (key.name, value) :: given

/-- The values of an array belong to the keys in order; values without a key are passed over. -/
def ofArray : List Key → List Toml.Value → Except ReadError Section
  | [], _ => .ok []
  | key :: keys, [] => if key.positional then .error (.missingKey key.name) else ofArray keys []
  | key :: keys, value :: values => do
      let given ← ofArray keys values
      return (key.name, value) :: given

def ofValue (keys : List Key) : Toml.Value → Except ReadError Section
  | .table entries => ofTable keys entries
  | .array items => ofArray keys items
  | _ => .error (.expected "a table")

/-- The value of a key, or what holds without it. -/
def get {α : Type} (values : Section) (name : String)
    (read : Toml.Value → Except ReadError α) (otherwise : α) : Except ReadError α :=
  match values.lookup name with
  | some value => read value
  | none => .ok otherwise

/-- The value of a key that may be left out. -/
def get? {α : Type} (values : Section) (name : String)
    (read : Toml.Value → Except ReadError α) : Except ReadError (Option α) :=
  values.get name (fun value => some <$> read value) none

end Section

def readText : Toml.Value → Except ReadError String
  | .text value => .ok value
  | _ => .error (.expected "a string")

def readBool : Toml.Value → Except ReadError Bool
  | .boolean value => .ok value
  | _ => .error (.expected "a boolean")

/-- An integer of at least zero and below a bound. -/
def readCount (bound : Nat) : Toml.Value → Except ReadError Nat
  | .integer value =>
      if 0 ≤ value && value < bound then .ok value.toNat else .error (.expected "a count")
  | _ => .error (.expected "an integer")

/-- A float; an integer stands for the nearest one. -/
def readSeconds : Toml.Value → Except ReadError Binary64
  | .float value => .ok value
  | .integer value => .ok (Binary64.ofInt value)
  | _ => .error (.expected "a float")

def readTexts : Toml.Value → Except ReadError (List String)
  | .array items => items.mapM readText
  | _ => .error (.expected "an array")

/-- The key under which a date stands where variables are expected. -/
def momentKey : String := "$__toml_private_datetime"

/-- Variables, sorted by name.  A date is read as a table with one entry. -/
def readVariables : Toml.Value → Except ReadError Variables
  | .table entries => do
      let env ← entries.mapM fun (name, value) => do return (name, ← readText value)
      return env.mergeSort fun first second => decide (first.1 ≤ second.1)
  | .moment value => .ok [(momentKey, value)]
  | _ => .error (.expected "a table")

/-- Process counts have 32 bits. -/
def processBound : Nat := UInt32.size

/-- Line counts have 64 bits. -/
def lineBound : Nat := UInt64.size

def launcherKeys : List Key :=
  ["path", "nproc_flag", "preflags", "postflags"].map fun name => { name, positional := true }

def readLauncher (value : Toml.Value) : Except ReadError LauncherSettings := do
  let values ← Section.ofValue launcherKeys value
  return {
    path := ← values.get? "path" readText
    countFlag := ← values.get? "nproc_flag" readText
    preflags := ← values.get? "preflags" readText
    postflags := ← values.get? "postflags" readText }

def roleKeys : List Key :=
  (["path", "nprocs", "preflags", "postflags"].map fun name => { name, positional := true })
    ++ [{ name := "env" }]

def readRole (value : Toml.Value) : Except ReadError RoleSettings := do
  let values ← Section.ofValue roleKeys value
  return {
    path := ← values.get? "path" readText
    processes := ← values.get? "nprocs" (readCount processBound)
    preflags := ← values.get? "preflags" readText
    postflags := ← values.get? "postflags" readText
    env := ← values.get "env" readVariables [] }

def rolesKeys : List Key :=
  [{ name := "server" }, { name := "client" },
    { name := "client-helper", spellings := ["client_helper"] }]

def readRoles (value : Toml.Value) : Except ReadError (RoleTable RoleSettings) := do
  let values ← Section.ofValue rolesKeys value
  RoleTable.build fun role => values.get role.name readRole {}

def timeoutKeys : List Key :=
  ["handshake_secs", "server_exit_secs", "run_secs", "stop_grace_secs"].map fun name => { name }

def readTimeouts (value : Toml.Value) : Except ReadError (TimeoutTable Binary64) := do
  let values ← Section.ofValue timeoutKeys value
  return {
    handshake := ← values.get "handshake_secs" readSeconds defaultTimeouts.handshake
    serverExit := ← values.get "server_exit_secs" readSeconds defaultTimeouts.serverExit
    run := ← values.get "run_secs" readSeconds defaultTimeouts.run
    stopGrace := ← values.get "stop_grace_secs" readSeconds defaultTimeouts.stopGrace }

def defaultMarker : String := ({} : Settings).marker

def readHandshake (value : Toml.Value) : Except ReadError String := do
  let values ← Section.ofValue [{ name := "marker" }] value
  values.get "marker" readText defaultMarker

def scanKeys : List Key :=
  ["patterns", "replace_defaults", "tolerate_error_text"].map fun name => { name }

def readScan (value : Toml.Value) : Except ReadError ScanSettings := do
  let values ← Section.ofValue scanKeys value
  return {
    patterns := ← values.get "patterns" readTexts []
    replaceDefaults := ← values.get "replace_defaults" readBool false
    tolerateErrorText := ← values.get "tolerate_error_text" readBool false }

def outputKeys : List Key := ["tail_lines", "history_lines"].map fun name => { name }

def readOutput (value : Toml.Value) : Except ReadError OutputSettings := do
  let values ← Section.ofValue outputKeys value
  let defaults : OutputSettings := {}
  return {
    tailLines := ← values.get "tail_lines" (readCount lineBound) defaults.tailLines
    historyLines := ← values.get "history_lines" (readCount lineBound) defaults.historyLines }

def backendKeys : List Key := [{ name := "name", positional := true }, { name := "env_var" }]

def readBackend (value : Toml.Value) : Except ReadError BackendSettings := do
  let values ← Section.ofValue backendKeys value
  let defaults : BackendSettings := {}
  return {
    name := ← values.get? "name" readText
    variableName := ← values.get "env_var" readText defaults.variableName }

def sectionKeys : List Key :=
  ["launcher", "roles", "timeouts", "handshake", "scan", "output", "env", "backend",
    "serial"].map fun name => { name }

def ofTable (table : Toml.Table) : Except ReadError Settings := do
  let values ← Section.ofTable sectionKeys table
  return {
    launcher := ← values.get "launcher" readLauncher {}
    roles := ← values.get "roles" readRoles (.replicate {})
    timeouts := ← values.get "timeouts" readTimeouts defaultTimeouts
    marker := ← values.get "handshake" readHandshake defaultMarker
    scan := ← values.get "scan" readScan {}
    output := ← values.get "output" readOutput {}
    env := ← values.get "env" readVariables []
    backend := ← values.get "backend" readBackend {}
    serial := ← values.get "serial" readBool false }

def read (text : String) : Except ReadError Settings := do
  ofTable (← (Toml.read text).mapError .toml)

end Settings

end Rendezvous
