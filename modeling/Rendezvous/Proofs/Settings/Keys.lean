import Rendezvous.Console
import Rendezvous.Proofs.Settings.Rephrasing

/-!
Settings by the keys that are given.

A schema governs a reader if a setting that stands nowhere in the value has its default and
if every key, in every table that is not free, leads to a setting.  This is shown once for
the sections that a reader follows field by field, so it holds of the whole file.
-/

set_option autoImplicit false

namespace Rendezvous

namespace Settings

open Toml (Place Table Value)

variable {σ α : Type}

/-- A reader sees the places of a schema and no others. -/
structure Schema.Governs (schema : Schema σ) (read : Value → Except ReadError σ) (otherwise : σ) :
    Prop where
  nonempty : ∃ setting ∈ schema.settings, ∃ place, place ∈ setting.places
  default : ∀ {value result}, value.Tabular schema.sections → read value = .ok result →
    ∀ setting ∈ schema.settings, (∀ place ∈ setting.places, value.at? place = none) →
      setting.of result = setting.of otherwise
  known : ∀ {value result}, value.Tabular schema.sections → read value = .ok result →
    ∀ {place inner}, value.at? place = some (.table inner) → place ∉ schema.free →
      ∀ entry ∈ inner, schema.Knows place entry.1

/-- A field of a record with such a reader; its default is that of the record. -/
structure Field.Governed (field : Field σ) (otherwise : σ) : Prop where
  default : field.of otherwise = field.otherwise
  reader : field.schema.Governs field.read field.otherwise

/-- No table is a part of anything that is read. -/
def Plain (read : Value → Except ReadError α) : Prop :=
  ∀ ⦃value result⦄, read value = .ok result →
    ∀ place inner, value.at? place ≠ some (.table inner)

/-! ### The schema of a section and those of its fields -/

section

variable {fields : List (Field σ)} {field : Field σ} {text : String}

theorem mem_settings {setting : Setting σ} :
    setting ∈ (Schema.ofParts (fields.map Field.part)).settings ↔
      ∃ field ∈ fields, ∃ inner ∈ field.schema.settings, setting =
        ⟨inner.Content, fun record => inner.of (field.of record),
          Schema.below field.spellings inner.places⟩ := by
  simp [Schema.ofParts, Field.part, Schema.part, eq_comm]

theorem tabular_field {entries : Table} {inner : Value}
    (tabular : (Value.table entries).Tabular (Schema.ofParts (fields.map Field.part)).sections)
    (here : field ∈ fields) (spelled : text ∈ field.spellings)
    (found : entries.lookup text = some inner) : inner.Tabular field.schema.sections := by
  intro place inside
  rw [← Value.at?_key found place]
  refine tabular _ (List.mem_cons_of_mem _ (List.mem_flatMap.mpr ⟨_, List.mem_map_of_mem here, ?_⟩))
  exact Schema.mem_below.mpr ⟨text, spelled, place, inside, rfl⟩

theorem free_field (here : field ∈ fields) (spelled : text ∈ field.spellings) {place : Place}
    (free : place ∈ field.schema.free) :
    .key text :: place ∈ (Schema.ofParts (fields.map Field.part)).free := by
  refine List.mem_flatMap.mpr ⟨_, List.mem_map_of_mem here, ?_⟩
  exact Schema.mem_below.mpr ⟨text, spelled, place, free, rfl⟩

theorem knows_field (here : field ∈ fields) (spelled : text ∈ field.spellings) {place : Place}
    {key : String} (knows : field.schema.Knows place key) :
    (Schema.ofParts (fields.map Field.part)).Knows (.key text :: place) key := by
  obtain ⟨setting, inside, whole, stands, leads⟩ := knows
  refine ⟨_, mem_settings.mpr ⟨field, here, setting, inside, rfl⟩, .key text :: whole,
    Schema.mem_below.mpr ⟨text, spelled, whole, stands, rfl⟩, ?_⟩
  exact (List.prefix_cons_inj _).mpr leads

theorem knows_root (here : field ∈ fields) (spelled : text ∈ field.spellings)
    (nonempty : ∃ setting ∈ field.schema.settings, ∃ place, place ∈ setting.places) :
    (Schema.ofParts (fields.map Field.part)).Knows [] text := by
  obtain ⟨setting, inside, place, stands⟩ := nonempty
  exact ⟨_, mem_settings.mpr ⟨field, here, setting, inside, rfl⟩, .key text :: place,
    Schema.mem_below.mpr ⟨text, spelled, place, stands, rfl⟩, place, rfl⟩

end

namespace Schema.Governs

theorem value {read : Value → Except ReadError α} (plain : Plain read) (otherwise : α) :
    Schema.value.Governs read otherwise where
  nonempty := ⟨_, List.mem_singleton_self _, [], List.mem_singleton_self _⟩
  default _ _ setting inside absent := by
    obtain rfl := List.mem_singleton.mp inside
    cases absent [] (List.mem_singleton_self _)
  known _ read _ _ standing := absurd standing (plain read _ _)

variable {read : Value → Except ReadError σ} {otherwise : σ}

/-- A section is governed by the schemas of its fields, each one step down at its own keys. -/
theorem ofParts (fields : List (Field σ)) (some : fields ≠ [])
    (follows : Follows (Section.ofTable (fields.map Field.key)) (fun table => read (.table table))
      fields)
    (distinct : (fields.map fun field => field.key.name).Nodup)
    (each : ∀ field ∈ fields, field.Governed otherwise) :
    (Schema.ofParts (fields.map Field.part)).Governs read otherwise where
  nonempty := by
    obtain ⟨field, here⟩ := List.exists_mem_of_ne_nil fields some
    obtain ⟨setting, inside, place, stands⟩ := (each field here).reader.nonempty
    exact ⟨_, mem_settings.mpr ⟨field, here, setting, inside, rfl⟩, .key field.key.name :: place,
      Schema.mem_below.mpr ⟨_, List.mem_cons_self, place, stands, rfl⟩⟩
  default := by
    intro value result tabular got setting listed absent
    obtain ⟨entries, rfl⟩ := Value.exists_of_isTable (tabular [] List.mem_cons_self)
    obtain ⟨field, here, setting, inside, rfl⟩ := mem_settings.mp listed
    show setting.of (field.of result) = setting.of (field.of otherwise)
    rw [(each field here).default]
    obtain without | ⟨text, inner, listed, spelled, gotField⟩ := follows.field distinct got here
    · rw [without]
    · have stands := follows.lookup_eq_some got listed
      refine (each field here).reader.default (tabular_field tabular here spelled stands) gotField
        setting inside fun place listed => ?_
      rw [← Value.at?_key stands]
      exact absent _ (Schema.mem_below.mpr ⟨text, spelled, place, listed, rfl⟩)
  known := by
    intro value result tabular got place inner stands bound entry listed
    obtain ⟨entries, rfl⟩ := Value.exists_of_isTable (tabular [] List.mem_cons_self)
    -- The table is the section itself, or it stands below one of the keys.
    cases place with
    | nil =>
        cases stands
        obtain ⟨field, here, spelled, -⟩ := follows.entry got listed
        exact knows_root here spelled (each field here).reader.nonempty
    | cons step place =>
        cases step with
        | item index => cases stands
        | key text =>
            obtain ⟨value, found, stands⟩ := Option.bind_eq_some_iff.mp stands
            obtain ⟨field, here, spelled, gotField⟩ :=
              follows.entry got (Section.mem_of_lookup found)
            refine knows_field here spelled ((each field here).reader.known
              (tabular_field tabular here spelled found) gotField stands ?_ entry listed)
            exact fun free => bound (free_field here spelled free)

end Schema.Governs

/-! ### The readers -/

theorem text_plain (text : String) (place : Place) (inner : Table) :
    (Value.text text).at? place ≠ some (.table inner) := by
  cases place <;> simp [Value.at?]

theorem readText_plain : Plain readText := by
  intro value text read
  cases value <;> cases read
  exact text_plain text

theorem readBool_plain : Plain readBool := by
  intro value flag read place inner
  cases value <;> cases read
  cases place <;> simp [Value.at?]

theorem readCount_plain (bound : Nat) : Plain (readCount bound) := by
  intro value count read place inner
  cases value <;> try cases read
  cases place <;> simp [Value.at?]

theorem readSeconds_plain : Plain readSeconds := by
  intro value seconds read place inner
  cases value <;> cases read <;> cases place <;> simp [Value.at?]

theorem readTexts_plain : Plain readTexts := by
  intro value texts read place inner
  cases value <;> try cases read
  obtain rfl := (Except.mapM_eq_ok_iff fun _ _ => readText_eq_ok_iff).mp read
  rcases place with _ | ⟨_ | index, place⟩
  · simp [Value.at?]
  · simp [Value.at?]
  · rw [Value.at?, List.getElem?_map]
    cases texts[index]? with
    | none => simp
    | some text => exact text_plain text place inner

theorem Plain.optional {read : Value → Except ReadError α} (plain : Plain read) :
    Plain fun value => some <$> read value := by
  intro value result got
  cases one : read value with
  | error cause => simp [one] at got
  | ok content => exact plain one

theorem readVariables_governed (otherwise : Variables) :
    Schema.assignments.Governs readVariables otherwise where
  nonempty := ⟨_, List.mem_singleton_self _, [], List.mem_singleton_self _⟩
  default _ _ setting inside absent := by
    obtain rfl := List.mem_singleton.mp inside
    cases absent [] (List.mem_singleton_self _)
  known := by
    intro value env _ read place inner stands bound
    rcases place with _ | ⟨step, place⟩
    · exact absurd (List.mem_singleton_self _) bound
    · cases value with
      | table entries =>
          cases step with
          | item index => cases stands
          | key name =>
              obtain ⟨texts, each, -⟩ := Except.bind_eq_ok_iff.mp read
              obtain ⟨value, found, stands⟩ := Option.bind_eq_some_iff.mp stands
              rw [mapM_readText_eq_ok_iff.mp each] at found
              obtain ⟨entry, -, same⟩ := List.mem_map.mp (Section.mem_of_lookup found)
              cases same
              exact absurd stands (text_plain _ _ _)
      | moment moment => cases step <;> cases stands
      | _ => cases read

theorem readLauncher_governed : Schema.launcher.Governs readLauncher {} := by
  refine .ofParts launcherFields (List.cons_ne_nil _ _)
    (fun table => readLauncher_follows (.table table)) (by decide) ?_
  simp only [launcherFields, List.forall_mem_cons]
  exact ⟨⟨rfl, .value readText_plain.optional _⟩, ⟨rfl, .value readText_plain.optional _⟩,
    ⟨rfl, .value readText_plain.optional _⟩, ⟨rfl, .value readText_plain.optional _⟩,
    List.forall_mem_nil _⟩

theorem readRole_governed : Schema.role.Governs readRole {} := by
  refine .ofParts roleFields (List.cons_ne_nil _ _) (fun table => readRole_follows (.table table))
    (by decide) ?_
  simp only [roleFields, List.forall_mem_cons]
  exact ⟨⟨rfl, .value readText_plain.optional _⟩, ⟨rfl, .value (readCount_plain _).optional _⟩,
    ⟨rfl, .value readText_plain.optional _⟩, ⟨rfl, .value readText_plain.optional _⟩,
    ⟨rfl, readVariables_governed _⟩, List.forall_mem_nil _⟩

theorem readRoles_governed : Schema.roles.Governs readRoles (.replicate {}) := by
  refine .ofParts rolesFields (List.cons_ne_nil _ _) readRoles_follows_table (by decide) ?_
  simp only [rolesFields, List.forall_mem_cons]
  exact ⟨⟨rfl, readRole_governed⟩, ⟨rfl, readRole_governed⟩, ⟨rfl, readRole_governed⟩,
    List.forall_mem_nil _⟩

theorem readTimeouts_governed : Schema.timeouts.Governs readTimeouts defaultTimeouts := by
  refine .ofParts timeoutFields (List.cons_ne_nil _ _)
    (fun table => readTimeouts_follows (.table table)) (by decide) ?_
  simp only [timeoutFields, List.forall_mem_cons]
  exact ⟨⟨rfl, .value readSeconds_plain _⟩, ⟨rfl, .value readSeconds_plain _⟩,
    ⟨rfl, .value readSeconds_plain _⟩, ⟨rfl, .value readSeconds_plain _⟩, List.forall_mem_nil _⟩

theorem readHandshake_governed : Schema.handshake.Governs readHandshake defaultMarker := by
  refine .ofParts handshakeFields (List.cons_ne_nil _ _)
    (fun table => readHandshake_follows (.table table)) (by decide) ?_
  exact List.forall_mem_singleton.mpr ⟨rfl, .value readText_plain _⟩

theorem readScan_governed : Schema.scan.Governs readScan {} := by
  refine .ofParts scanFields (List.cons_ne_nil _ _) (fun table => readScan_follows (.table table))
    (by decide) ?_
  simp only [scanFields, List.forall_mem_cons]
  exact ⟨⟨rfl, .value readTexts_plain _⟩, ⟨rfl, .value readBool_plain _⟩,
    ⟨rfl, .value readBool_plain _⟩, List.forall_mem_nil _⟩

theorem readOutput_governed : Schema.output.Governs readOutput {} := by
  refine .ofParts outputFields (List.cons_ne_nil _ _)
    (fun table => readOutput_follows (.table table)) (by decide) ?_
  simp only [outputFields, List.forall_mem_cons]
  exact ⟨⟨rfl, .value (readCount_plain _) _⟩, ⟨rfl, .value (readCount_plain _) _⟩,
    List.forall_mem_nil _⟩

theorem readBackend_governed : Schema.backend.Governs readBackend {} := by
  refine .ofParts backendFields (List.cons_ne_nil _ _)
    (fun table => readBackend_follows (.table table)) (by decide) ?_
  simp only [backendFields, List.forall_mem_cons]
  exact ⟨⟨rfl, .value readText_plain.optional _⟩, ⟨rfl, .value readText_plain _⟩,
    List.forall_mem_nil _⟩

/-- A whole document, as a value. -/
def readDocument : Value → Except ReadError Settings
  | .table table => ofTable table
  | _ => .error (.expected "a table")

theorem readDocument_governed : Schema.file.Governs readDocument {} := by
  refine .ofParts fileFields (List.cons_ne_nil _ _) ofTable_follows (by decide) ?_
  simp only [fileFields, List.forall_mem_cons]
  exact ⟨⟨rfl, readLauncher_governed⟩, ⟨rfl, readRoles_governed⟩, ⟨rfl, readTimeouts_governed⟩,
    ⟨rfl, readHandshake_governed⟩, ⟨rfl, readScan_governed⟩, ⟨rfl, readOutput_governed⟩,
    ⟨rfl, readVariables_governed _⟩, ⟨rfl, readBackend_governed⟩,
    ⟨rfl, .value readBool_plain _⟩, List.forall_mem_nil _⟩

/-! ### Both spellings of a role -/

/-- What stands under `roles` is read as the section of the roles. -/
theorem ofTable_reads_roles {table : Table} {settings : Settings}
    (read : ofTable table = .ok settings) {value : Value} (listed : ("roles", value) ∈ table) :
    ∃ roles, readRoles value = .ok roles := by
  have named : ∀ field ∈ fileFields, "roles" ∈ field.spellings → ∀ content,
      field.read value = .ok content → ∃ roles, readRoles value = .ok roles := by
    simp +contextual [fileFields, Field.spellings]
  have follows : Follows (Section.ofTable (fileFields.map Field.key)) ofTable fileFields :=
    ofTable_follows
  obtain ⟨field, here, spelled, got⟩ := follows.entry read listed
  exact named field here spelled _ got

/-- Two keys of one role are not read. -/
theorem readRoles_same_role {role : Role} {first second : String}
    (spelled : first ∈ roleSpellings role) (alsoSpelled : second ∈ roleSpellings role)
    (different : first ≠ second) {entries : Table} (listed : first ∈ entries.map Prod.fst)
    (alsoListed : second ∈ entries.map Prod.fst)
    (roles : RoleTable RoleSettings) : readRoles (.table entries) ≠ .ok roles := by
  intro read
  obtain ⟨values, given, -⟩ := (readRoles_follows_table entries roles).mp read
  obtain ⟨fits, -⟩ := Section.ofTable_eq_ok_iff.mp given
  obtain ⟨key, -, found⟩ := matches_rolesKeys role
  refine different (List.inj_on_of_nodup_map fits.once listed alsoListed ?_)
  rw [Key.canonical_of_matches (found first spelled),
    Key.canonical_of_matches (found second alsoSpelled)]

/--
What settings a document gives; they are known when each setting of the schema is.  The
keys of each table are distinct, as they are in every document, wherever its entries change
places.
-/
theorem settings_by_keys {table : Table}
    (sections : (Value.table table).Tabular Schema.file.sections) :
    (∀ other, Relation.ReflTransGen Rephrased table other →
      (ofTable other).toOption = (ofTable table).toOption) ∧
    (∀ settings, ofTable table = .ok settings → ∀ setting ∈ Schema.file.settings,
      (∀ place ∈ setting.places, (Value.table table).at? place = none) →
        setting.of settings = setting.of {}) ∧
    (∀ first second : Settings,
      (∀ setting ∈ Schema.file.settings, setting.of first = setting.of second) →
        first = second) ∧
    (∀ role entries first second,
      (Value.table table).at? [.key "roles"] = some (.table entries) →
      first ∈ roleSpellings role → second ∈ roleSpellings role → first ≠ second →
      first ∈ entries.map Prod.fst → second ∈ entries.map Prod.fst →
        ∃ cause, ofTable table = .error cause) ∧
    (∀ place inner, (Value.table table).at? place = some (.table inner) →
      place ∉ Schema.file.free → ∀ key ∈ inner.map Prod.fst, ¬ Schema.file.Knows place key →
        ∃ cause, ofTable table = .error cause) ∧
    ∀ files path text, FileTree.readText files path = .ok text → Toml.read text = .ok table →
      Console.readSettings files path =
        (ofTable table).mapError fun cause => .settingsFile cause.message := by
  have refused : (∀ settings, ofTable table ≠ .ok settings) →
      ∃ cause, ofTable table = .error cause := by
    intro never
    cases read : ofTable table with
    | error cause => exact ⟨cause, rfl⟩
    | ok settings => exact absurd read (never settings)
  refine ⟨fun other rephrased => (ofTable_rephrased rephrased).symm, ?_, ?_, ?_, ?_, ?_⟩
  · intro settings read
    exact readDocument_governed.default sections read
  · intro first second same
    exact Schema.file_determines same
  · intro role entries first second stands spelled alsoSpelled different listed alsoListed
    refine refused fun settings read => ?_
    obtain ⟨_, found, same⟩ := Option.bind_eq_some_iff.mp stands
    cases same
    obtain ⟨roles, readRoles⟩ := ofTable_reads_roles read (Section.mem_of_lookup found)
    exact readRoles_same_role spelled alsoSpelled different listed alsoListed roles readRoles
  · intro place inner stands bound key listed unknown
    refine refused fun settings read => ?_
    obtain ⟨entry, given, rfl⟩ := List.mem_map.mp listed
    exact unknown (readDocument_governed.known sections read stands bound entry given)
  · intro files path text found parsed
    simp only [Console.readSettings, Settings.read, found, parsed, Except.mapError, bind,
      Except.bind]

/-- A document with a single setting. -/
def shortTail : Table :=
  [("output", .table [("tail_lines", .integer 5)])]

/-- Its other line count is the default, with or without an empty section of roles. -/
theorem shortTail_reads :
    (∃ settings, ofTable shortTail = .ok settings ∧ settings.output.tailLines = 5 ∧
      settings.output.historyLines = 10000) ∧
      (ofTable (shortTail ++ [("roles", .table [])])).toOption = (ofTable shortTail).toOption := by
  have sections : (Value.table shortTail).Tabular Schema.file.sections := by decide
  obtain ⟨rephrased, absent, -⟩ := settings_by_keys sections
  refine ⟨⟨_, rfl, rfl, ?_⟩, rephrased _ (.single (.emptySection (by decide) rfl))⟩
  -- The last setting of `[output]`.
  exact absent _ rfl Schema.file.settings[28] (List.getElem_mem _) (by decide)

end Settings

end Rendezvous
