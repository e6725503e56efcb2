import Rendezvous.Proofs.Settings.Sections

/-!
What can be set in a settings file, and where.

A `Schema` lists the settings of a record with their places in a document.  It is built up
like the file: a section has a part for each of its keys, and such a part is a single value,
a free table of variables or again a section.

A reader follows a list of fields if it makes of a section the record whose fields are read
one by one from what the section gives under their names.  Every section is read in this way,
and this is all that the proofs about settings files use of the readers.
-/

set_option autoImplicit false

namespace Rendezvous

namespace Toml

/-- A step down in a document. -/
inductive Step where
  | key (text : String)
  | item (index : Nat)
  deriving DecidableEq, Repr

/-- Where something stands in a document. -/
abbrev Place := List Step

namespace Value

def at? : Value → Place → Option Value
  | value, [] => some value
  | .table entries, .key name :: place => (entries.lookup name).bind fun inner => inner.at? place
  | .array items, .item index :: place => items[index]?.bind fun inner => inner.at? place
  | _, _ :: _ => none

def isTable : Value → Bool
  | .table _ => true
  | _ => false

/-- What stands at these places is a table, if anything stands there. -/
def Tabular (value : Value) (places : List Place) : Prop :=
  ∀ place ∈ places, (value.at? place).all isTable = true

instance (value : Value) (places : List Place) : Decidable (value.Tabular places) :=
  inferInstanceAs (Decidable (∀ place ∈ places, (value.at? place).all isTable = true))

theorem exists_of_isTable {value : Value} (table : value.isTable = true) :
    ∃ entries, value = .table entries := by
  cases value with
  | table entries => exact ⟨entries, rfl⟩
  | _ => cases table

theorem at?_key {entries : Table} {key : String} {inner : Value}
    (found : entries.lookup key = some inner) (place : Place) :
    (Value.table entries).at? (.key key :: place) = inner.at? place := by
  rw [at?, found]
  rfl

end Value

end Toml

namespace Settings

open Toml (Place)

/-- A part of a record that can be set, and where. -/
structure Setting (σ : Type) where
  Content : Type
  of : σ → Content
  /-- Where it can stand in a document, in each spelling of the keys. -/
  places : List Place

/-- What can be set in a record. -/
structure Schema (σ : Type) where
  settings : List (Setting σ)
  /-- The places of sections. -/
  sections : List Place := []
  /-- The places of tables whose keys are free. -/
  free : List Place := []

namespace Schema

variable {σ α : Type}

/-- A value that is set as a whole. -/
def value : Schema α where
  settings := [⟨α, id, [[]]⟩]

def assignments : Schema Variables where
  settings := [⟨Variables, id, [[]]⟩]
  free := [[]]

/-- All places, one step down at a key in each of its spellings. -/
def below (spellings : List String) (places : List Place) : List Place :=
  spellings.flatMap fun text => places.map (.key text :: ·)

/-- The schema of a part of a record, as one of the record. -/
def part (spellings : List String) (of : σ → α) (schema : Schema α) : Schema σ where
  settings := schema.settings.map fun setting =>
    ⟨setting.Content, fun record => setting.of (of record), below spellings setting.places⟩
  sections := below spellings schema.sections
  free := below spellings schema.free

/-- A section with several parts. -/
def ofParts (parts : List (Schema σ)) : Schema σ where
  settings := parts.flatMap (·.settings)
  sections := [] :: parts.flatMap (·.sections)
  free := parts.flatMap (·.free)

def launcher : Schema LauncherSettings := ofParts [
  part ["path"] (·.path) value,
  part ["nproc_flag"] (·.countFlag) value,
  part ["preflags"] (·.preflags) value,
  part ["postflags"] (·.postflags) value]

def role : Schema RoleSettings := ofParts [
  part ["path"] (·.path) value,
  part ["nprocs"] (·.processes) value,
  part ["preflags"] (·.preflags) value,
  part ["postflags"] (·.postflags) value,
  part ["env"] (·.env) assignments]

def roles : Schema (RoleTable RoleSettings) := ofParts [
  part ["server"] (·.server) role,
  part ["client"] (·.client) role,
  part ["client-helper", "client_helper"] (·.clientHelper) role]

def timeouts : Schema (TimeoutTable Binary64) := ofParts [
  part ["handshake_secs"] (·.handshake) value,
  part ["server_exit_secs"] (·.serverExit) value,
  part ["run_secs"] (·.run) value,
  part ["stop_grace_secs"] (·.stopGrace) value]

def handshake : Schema String := ofParts [
  part ["marker"] id value]

def scan : Schema ScanSettings := ofParts [
  part ["patterns"] (·.patterns) value,
  part ["replace_defaults"] (·.replaceDefaults) value,
  part ["tolerate_error_text"] (·.tolerateErrorText) value]

def output : Schema OutputSettings := ofParts [
  part ["tail_lines"] (·.tailLines) value,
  part ["history_lines"] (·.historyLines) value]

def backend : Schema BackendSettings := ofParts [
  part ["name"] (·.name) value,
  part ["env_var"] (·.variableName) value]

/-- Everything that can be set in a settings file. -/
def file : Schema Settings := ofParts [
  part ["launcher"] (·.launcher) launcher,
  part ["roles"] (·.roles) roles,
  part ["timeouts"] (·.timeouts) timeouts,
  part ["handshake"] (·.marker) handshake,
  part ["scan"] (·.scan) scan,
  part ["output"] (·.output) output,
  part ["env"] (·.env) assignments,
  part ["backend"] (·.backend) backend,
  part ["serial"] (·.serial) value]

example : file.free =
    [[.key "roles", .key "server", .key "env"], [.key "roles", .key "client", .key "env"],
      [.key "roles", .key "client-helper", .key "env"],
      [.key "roles", .key "client_helper", .key "env"], [.key "env"]] := rfl

/-- Whether there is anything to set at a key of the table that stands at a place. -/
def Knows (schema : Schema σ) (place : Place) (key : String) : Prop :=
  ∃ setting ∈ schema.settings, ∃ whole ∈ setting.places, place ++ [.key key] <+: whole

theorem mem_below {spellings : List String} {places : List Place} {place : Place} :
    place ∈ below spellings places ↔
      ∃ text ∈ spellings, ∃ inner ∈ places, place = .key text :: inner := by
  simp [below, eq_comm]

/-- No setting is missing: those who agree on all of them are the same. -/
theorem file_determines {first second : Settings}
    (same : ∀ setting ∈ file.settings, setting.of first = setting.of second) : first = second := by
  obtain ⟨⟨_, _, _, _⟩, ⟨⟨_, _, _, _, _⟩, ⟨_, _, _, _, _⟩, ⟨_, _, _, _, _⟩⟩, ⟨_, _, _, _⟩, _,
    ⟨_, _, _⟩, ⟨_, _⟩, _, ⟨_, _⟩, _⟩ := first
  obtain ⟨⟨_, _, _, _⟩, ⟨⟨_, _, _, _, _⟩, ⟨_, _, _, _, _⟩, ⟨_, _, _, _, _⟩⟩, ⟨_, _, _, _⟩, _,
    ⟨_, _, _⟩, ⟨_, _⟩, _, ⟨_, _⟩, _⟩ := second
  simpa [file, ofParts, part, launcher, roles, role, timeouts, handshake, scan, output, backend,
    assignments, value, and_assoc] using same

end Schema

/-- A field of a record, and how a section gives it. -/
structure Field (σ : Type) where
  key : Key
  Content : Type
  read : Toml.Value → Except ReadError Content
  /-- The content where the section says nothing. -/
  otherwise : Content
  of : σ → Content
  schema : Schema Content := .value

namespace Field

variable {σ α : Type}

def spellings (field : Field σ) : List String :=
  field.key.name :: field.key.spellings

/-- What can be set in a field, as a part of the record. -/
def part (field : Field σ) : Schema σ :=
  .part field.spellings field.of field.schema

/-- The content of a field by what the section gives under its name. -/
def take (field : Field σ) : Option Toml.Value → Except ReadError field.Content
  | some value => field.read value
  | none => .ok field.otherwise

/-- A field that may be left out. -/
def optional (key : Key) (read : Toml.Value → Except ReadError α) (of : σ → Option α) :
    Field σ where
  key
  Content := Option α
  read value := some <$> read value
  otherwise := none
  of

end Field

/-- What is read is the record whose fields a section gives. -/
def Follows {ι σ : Type} (given : ι → Except ReadError Section) (read : ι → Except ReadError σ)
    (fields : List (Field σ)) : Prop :=
  ∀ input result, read input = .ok result ↔
    ∃ values, given input = .ok values ∧
      ∀ field ∈ fields, field.take (values.lookup field.key.name) = .ok (field.of result)

namespace Follows

variable {σ : Type} {read : Toml.Table → Except ReadError σ} {fields : List (Field σ)}
  {entries : Toml.Table} {result : σ}

/-- Each entry of a table that is read belongs to a field, which reads its value. -/
theorem entry (follows : Follows (Section.ofTable (fields.map Field.key)) read fields)
    (got : read entries = .ok result) {text : String} {value : Toml.Value}
    (listed : (text, value) ∈ entries) :
    ∃ field ∈ fields, text ∈ field.spellings ∧ field.read value = .ok (field.of result) := by
  obtain ⟨values, given, each⟩ := (follows entries result).mp got
  obtain ⟨fits, rfl⟩ := Section.ofTable_eq_ok_iff.mp given
  obtain ⟨key, found⟩ := fits.known text (List.mem_map_of_mem listed)
  obtain ⟨field, here, rfl⟩ := List.mem_map.mp (Key.mem_of_matches found)
  refine ⟨field, here, Key.spelled_of_matches found, ?_⟩
  have gotField := each field here
  rwa [fits.lookup_named.mpr ⟨text, listed, Key.canonical_of_matches found⟩] at gotField

/-- Each field is read from an entry, or has the content that holds without one. -/
theorem field (follows : Follows (Section.ofTable (fields.map Field.key)) read fields)
    (distinct : (fields.map fun field => field.key.name).Nodup)
    (got : read entries = .ok result) {field : Field σ} (here : field ∈ fields) :
    field.of result = field.otherwise ∨
      ∃ text value, (text, value) ∈ entries ∧ text ∈ field.spellings ∧
        field.read value = .ok (field.of result) := by
  obtain ⟨values, given, each⟩ := (follows entries result).mp got
  obtain ⟨fits, rfl⟩ := Section.ofTable_eq_ok_iff.mp given
  have gotField := each field here
  cases found : (Section.named (fields.map Field.key) entries).lookup field.key.name with
  | none =>
      rw [found] at gotField
      exact .inl (Except.ok.inj gotField).symm
  | some value =>
      rw [found] at gotField
      obtain ⟨text, listed, named⟩ := fits.lookup_named.mp found
      obtain ⟨key, matched⟩ := fits.known text (List.mem_map_of_mem listed)
      obtain ⟨other, there, rfl⟩ := List.mem_map.mp (Key.mem_of_matches matched)
      rw [Key.canonical_of_matches matched] at named
      obtain rfl := List.inj_on_of_nodup_map distinct there here named
      exact .inr ⟨text, value, listed, Key.spelled_of_matches matched, gotField⟩

/-- No key stands twice in a table that is read. -/
theorem lookup_eq_some {keys : List Key} (follows : Follows (Section.ofTable keys) read fields)
    (got : read entries = .ok result) {text : String} {value : Toml.Value}
    (listed : (text, value) ∈ entries) : entries.lookup text = some value := by
  obtain ⟨values, given, -⟩ := (follows entries result).mp got
  exact (Section.ofTable_eq_ok_iff.mp given).1.lookup_eq_some listed

end Follows

def launcherFields : List (Field LauncherSettings) := [
  .optional { name := "path", positional := true } readText (·.path),
  .optional { name := "nproc_flag", positional := true } readText (·.countFlag),
  .optional { name := "preflags", positional := true } readText (·.preflags),
  .optional { name := "postflags", positional := true } readText (·.postflags)]

def roleFields : List (Field RoleSettings) := [
  .optional { name := "path", positional := true } readText (·.path),
  .optional { name := "nprocs", positional := true } (readCount processBound) (·.processes),
  .optional { name := "preflags", positional := true } readText (·.preflags),
  .optional { name := "postflags", positional := true } readText (·.postflags),
  ⟨{ name := "env" }, Variables, readVariables, [], (·.env), .assignments⟩]

def rolesFields : List (Field (RoleTable RoleSettings)) := [
  ⟨{ name := "server" }, RoleSettings, readRole, {}, (·.server), .role⟩,
  ⟨{ name := "client" }, RoleSettings, readRole, {}, (·.client), .role⟩,
  ⟨{ name := "client-helper", spellings := ["client_helper"] }, RoleSettings, readRole, {},
    (·.clientHelper), .role⟩]

def timeoutFields : List (Field (TimeoutTable Binary64)) := [
  ⟨{ name := "handshake_secs" }, Binary64, readSeconds, defaultTimeouts.handshake, (·.handshake),
    .value⟩,
  ⟨{ name := "server_exit_secs" }, Binary64, readSeconds, defaultTimeouts.serverExit,
    (·.serverExit), .value⟩,
  ⟨{ name := "run_secs" }, Binary64, readSeconds, defaultTimeouts.run, (·.run), .value⟩,
  ⟨{ name := "stop_grace_secs" }, Binary64, readSeconds, defaultTimeouts.stopGrace, (·.stopGrace),
    .value⟩]

def handshakeFields : List (Field String) := [
  ⟨{ name := "marker" }, String, readText, defaultMarker, id, .value⟩]

def scanFields : List (Field ScanSettings) := [
  ⟨{ name := "patterns" }, List String, readTexts, [], (·.patterns), .value⟩,
  ⟨{ name := "replace_defaults" }, Bool, readBool, false, (·.replaceDefaults), .value⟩,
  ⟨{ name := "tolerate_error_text" }, Bool, readBool, false, (·.tolerateErrorText), .value⟩]

def outputFields : List (Field OutputSettings) := [
  ⟨{ name := "tail_lines" }, Nat, readCount lineBound, ({} : OutputSettings).tailLines,
    (·.tailLines), .value⟩,
  ⟨{ name := "history_lines" }, Nat, readCount lineBound, ({} : OutputSettings).historyLines,
    (·.historyLines), .value⟩]

def backendFields : List (Field BackendSettings) := [
  .optional { name := "name", positional := true } readText (·.name),
  ⟨{ name := "env_var" }, String, readText, ({} : BackendSettings).variableName,
    (·.variableName), .value⟩]

def fileFields : List (Field Settings) := [
  ⟨{ name := "launcher" }, LauncherSettings, readLauncher, {}, (·.launcher), .launcher⟩,
  ⟨{ name := "roles" }, RoleTable RoleSettings, readRoles, .replicate {}, (·.roles), .roles⟩,
  ⟨{ name := "timeouts" }, TimeoutTable Binary64, readTimeouts, defaultTimeouts, (·.timeouts),
    .timeouts⟩,
  ⟨{ name := "handshake" }, String, readHandshake, defaultMarker, (·.marker), .handshake⟩,
  ⟨{ name := "scan" }, ScanSettings, readScan, {}, (·.scan), .scan⟩,
  ⟨{ name := "output" }, OutputSettings, readOutput, {}, (·.output), .output⟩,
  ⟨{ name := "env" }, Variables, readVariables, [], (·.env), .assignments⟩,
  ⟨{ name := "backend" }, BackendSettings, readBackend, {}, (·.backend), .backend⟩,
  ⟨{ name := "serial" }, Bool, readBool, false, (·.serial), .value⟩]

theorem readLauncher_follows :
    Follows (Section.ofValue launcherKeys) readLauncher launcherFields := by
  intro value result
  simp only [readLauncher, Except.bind_eq_ok_iff, launcherFields, List.forall_mem_cons]
  constructor
  · rintro ⟨values, given, _, path, _, countFlag, _, preflags, _, postflags, same⟩
    cases same
    exact ⟨values, given, path, countFlag, preflags, postflags, List.forall_mem_nil _⟩
  · rintro ⟨values, given, path, countFlag, preflags, postflags, -⟩
    exact ⟨values, given, _, path, _, countFlag, _, preflags, _, postflags, rfl⟩

theorem readRole_follows : Follows (Section.ofValue roleKeys) readRole roleFields := by
  intro value result
  simp only [readRole, Except.bind_eq_ok_iff, roleFields, List.forall_mem_cons]
  constructor
  · rintro ⟨values, given, _, path, _, processes, _, preflags, _, postflags, _, env, same⟩
    cases same
    exact ⟨values, given, path, processes, preflags, postflags, env, List.forall_mem_nil _⟩
  · rintro ⟨values, given, path, processes, preflags, postflags, env, -⟩
    exact ⟨values, given, _, path, _, processes, _, preflags, _, postflags, _, env, rfl⟩

theorem readRoles_follows : Follows (Section.ofValue rolesKeys) readRoles rolesFields := by
  intro value result
  simp only [readRoles, Except.bind_eq_ok_iff, RoleTable.build_eq_ok_iff, rolesFields,
    List.forall_mem_cons]
  refine exists_congr fun values => and_congr_right fun _ => ⟨fun each => ?_, ?_⟩
  · exact ⟨each .server, each .client, each .clientHelper, List.forall_mem_nil _⟩
  · rintro ⟨server, client, clientHelper, -⟩ role
    cases role
    · exact server
    · exact client
    · exact clientHelper

theorem readTimeouts_follows :
    Follows (Section.ofValue timeoutKeys) readTimeouts timeoutFields := by
  intro value result
  simp only [readTimeouts, Except.bind_eq_ok_iff, timeoutFields, List.forall_mem_cons]
  constructor
  · rintro ⟨values, given, _, handshake, _, serverExit, _, run, _, stopGrace, same⟩
    cases same
    exact ⟨values, given, handshake, serverExit, run, stopGrace, List.forall_mem_nil _⟩
  · rintro ⟨values, given, handshake, serverExit, run, stopGrace, -⟩
    exact ⟨values, given, _, handshake, _, serverExit, _, run, _, stopGrace, rfl⟩

theorem readHandshake_follows :
    Follows (Section.ofValue [{ name := "marker" }]) readHandshake handshakeFields := by
  intro value result
  simp only [readHandshake, Except.bind_eq_ok_iff, handshakeFields, List.forall_mem_singleton]
  exact Iff.rfl

theorem readScan_follows : Follows (Section.ofValue scanKeys) readScan scanFields := by
  intro value result
  simp only [readScan, Except.bind_eq_ok_iff, scanFields, List.forall_mem_cons]
  constructor
  · rintro ⟨values, given, _, patterns, _, replaces, _, tolerates, same⟩
    cases same
    exact ⟨values, given, patterns, replaces, tolerates, List.forall_mem_nil _⟩
  · rintro ⟨values, given, patterns, replaces, tolerates, -⟩
    exact ⟨values, given, _, patterns, _, replaces, _, tolerates, rfl⟩

theorem readOutput_follows : Follows (Section.ofValue outputKeys) readOutput outputFields := by
  intro value result
  simp only [readOutput, Except.bind_eq_ok_iff, outputFields, List.forall_mem_cons]
  constructor
  · rintro ⟨values, given, _, tail, _, history, same⟩
    cases same
    exact ⟨values, given, tail, history, List.forall_mem_nil _⟩
  · rintro ⟨values, given, tail, history, -⟩
    exact ⟨values, given, _, tail, _, history, rfl⟩

theorem readBackend_follows :
    Follows (Section.ofValue backendKeys) readBackend backendFields := by
  intro value result
  simp only [readBackend, Except.bind_eq_ok_iff, backendFields, List.forall_mem_cons]
  constructor
  · rintro ⟨values, given, _, name, _, variableName, same⟩
    cases same
    exact ⟨values, given, name, variableName, List.forall_mem_nil _⟩
  · rintro ⟨values, given, name, variableName, -⟩
    exact ⟨values, given, _, name, _, variableName, rfl⟩

theorem ofTable_follows : Follows (Section.ofTable sectionKeys) ofTable fileFields := by
  intro table result
  simp only [ofTable, Except.bind_eq_ok_iff, fileFields, List.forall_mem_cons]
  constructor
  · rintro ⟨values, given, _, launcher, _, roles, _, timeouts, _, marker, _, scan, _, output, _,
      env, _, backend, _, serial, same⟩
    cases same
    exact ⟨values, given, launcher, roles, timeouts, marker, scan, output, env, backend, serial,
      List.forall_mem_nil _⟩
  · rintro ⟨values, given, launcher, roles, timeouts, marker, scan, output, env, backend, serial,
      -⟩
    exact ⟨values, given, _, launcher, _, roles, _, timeouts, _, marker, _, scan, _, output, _,
      env, _, backend, _, serial, rfl⟩

end Settings

end Rendezvous
