import Mathlib.Data.Set.List
import Mathlib.Logic.Relation
import Rendezvous.Proofs.Scenario.Environment
import Rendezvous.Proofs.Settings.Schema

/-!
Documents that say the same in other words.

A document is rephrased if the entries of a table change places, if an absent section or
role is written as an empty one, or if a role with two spellings is spelled the other way.
Step by step, none of this changes the settings that are read, nor whether any are read.
-/

set_option autoImplicit false

namespace Rendezvous

namespace Toml

/-- The entries of one table, anywhere in a value, change places. -/
inductive Value.Reordered : Value → Value → Prop where
  | swap {entries others : Table} (once : (entries.map Prod.fst).Nodup)
      (same : entries.Perm others) : Reordered (.table entries) (.table others)
  | member {before after : Table} {key : String} {value other : Value}
      (inside : Reordered value other) :
      Reordered (.table (before ++ (key, value) :: after))
        (.table (before ++ (key, other) :: after))
  | item {before after : List Value} {value other : Value} (inside : Reordered value other) :
      Reordered (.array (before ++ value :: after)) (.array (before ++ other :: after))

end Toml

namespace Settings

open Toml (Table Value)

variable {ι σ α : Type}

theorem Field.take_toOption_congr {field : Field σ} {value other : Value}
    {found also : Option Value}
    (related : found = also ∨ found = some value ∧ also = some other)
    (same : (field.read value).toOption = (field.read other).toOption) :
    (field.take found).toOption = (field.take also).toOption := by
  obtain rfl | ⟨rfl, rfl⟩ := related
  · rfl
  · exact same

namespace Follows

/-- What is read is the same if every field takes the same from what is given. -/
theorem congr {given : ι → Except ReadError Section} {read : ι → Except ReadError σ}
    {fields : List (Field σ)} (follows : Follows given read fields) {first second : ι}
    {relation : Section → Section → Prop}
    (related : Option.Rel relation (given first).toOption (given second).toOption)
    (same : ∀ values others, relation values others → ∀ field ∈ fields,
      (field.take (values.lookup field.key.name)).toOption =
        (field.take (others.lookup field.key.name)).toOption) :
    (read first).toOption = (read second).toOption := by
  refine Option.ext fun result => ?_
  rw [Except.toOption_eq_some_iff, Except.toOption_eq_some_iff, follows, follows]
  cases one : given first <;> cases two : given second <;> rw [one, two] at related <;>
    cases related
  · simp
  · rename_i alike
    simp only [Except.ok.injEq, exists_eq_left']
    refine forall₂_congr fun field place => ?_
    rw [← Except.toOption_eq_some_iff, same _ _ alike field place, Except.toOption_eq_some_iff]

variable {keys : List Key} {fields : List (Field σ)} {read : Table → Except ReadError σ}

theorem table_congr (follows : Follows (Section.ofTable keys) read fields)
    {entries others : Table}
    (fits : Section.Fits keys (entries.map Prod.fst) ↔ Section.Fits keys (others.map Prod.fst))
    (same : Section.Fits keys (entries.map Prod.fst) → ∀ field ∈ fields,
      (field.take ((Section.named keys entries).lookup field.key.name)).toOption =
        (field.take ((Section.named keys others).lookup field.key.name)).toOption) :
    (read entries).toOption = (read others).toOption := by
  refine follows.congr ?_ fun values others => id
  by_cases here : Section.Fits keys (entries.map Prod.fst)
  · rw [Section.ofTable_eq_ok_iff.mpr ⟨here, rfl⟩,
      Section.ofTable_eq_ok_iff.mpr ⟨fits.mp here, rfl⟩]
    exact .some (same here)
  · have fails : ∀ {table : Table}, ¬ Section.Fits keys (table.map Prod.fst) →
        (Section.ofTable keys table).toOption = none := by
      intro table misfit
      cases given : Section.ofTable keys table with
      | error cause => rfl
      | ok values => exact absurd (Section.ofTable_eq_ok_iff.mp given).1 misfit
    rw [fails here, fails (mt fits.mpr here)]
    exact .none

/-- The order of the entries does not matter. -/
theorem swapped (follows : Follows (Section.ofTable keys) read fields) {entries others : Table}
    (same : entries.Perm others) : (read entries).toOption = (read others).toOption := by
  refine follows.table_congr ⟨fun fits => fits.perm (same.map _),
    fun fits => fits.perm (same.symm.map _)⟩ fun fits field _ => ?_
  rw [fits.lookup_perm same]

/-- Only the field under whose name a value is given can tell it from another one. -/
theorem replaced (follows : Follows (Section.ofTable keys) read fields)
    (before after : Table) {text : String} {value other : Value}
    (same : ∀ field ∈ fields, field.key.name = Key.canonical keys text →
      (field.read value).toOption = (field.read other).toOption) :
    (read (before ++ (text, value) :: after)).toOption =
      (read (before ++ (text, other) :: after)).toOption := by
  refine follows.table_congr (by simp) fun fits field place => ?_
  obtain alike | ⟨here, given, also⟩ := fits.lookup_replaced other field.key.name
  · rw [alike]
  · exact Field.take_toOption_congr (.inr ⟨given, also⟩) (same field place here)

/-- A value that says what holds without it may be added. -/
theorem added (follows : Follows (Section.ofTable keys) read fields) {entries : Table}
    {text : String} {value : Value} {key : Key} (found : Key.matches? keys text = some key)
    (fresh : Key.canonical keys text ∉ (entries.map Prod.fst).map (Key.canonical keys))
    (idle : ∀ field ∈ fields, field.key.name = Key.canonical keys text →
      field.read value = .ok field.otherwise) :
    (read entries).toOption = (read (entries ++ [(text, value)])).toOption := by
  refine follows.table_congr ?_ fun fits field place => ?_
  · rw [List.map_append]
    exact (Section.fits_concat_iff found fresh).symm
  · obtain alike | ⟨here, absent, given⟩ :=
      Section.lookup_concat fresh value field.key.name
    · rw [alike]
    · rw [absent, given, Field.take, Field.take, idle field place here]

/-- A key may be spelled in another way. -/
theorem respelled (follows : Follows (Section.ofTable keys) read fields)
    (before after : Table) {text spelling : String} {value : Value} {key : Key}
    (found : Key.matches? keys text = some key)
    (alsoFound : Key.matches? keys spelling = some key) :
    (read (before ++ (text, value) :: after)).toOption =
      (read (before ++ (spelling, value) :: after)).toOption := by
  have same : Key.canonical keys text = Key.canonical keys spelling := by
    rw [Key.canonical_of_matches found, Key.canonical_of_matches alsoFound]
  refine follows.table_congr ?_ fun fits field _ => ?_
  · simp only [Section.fits_iff, List.map_append, List.map_cons, List.forall_mem_append,
      List.forall_mem_cons, found, alsoFound, same]
  · simp only [Section.named, List.map_append, List.map_cons, same]

end Follows

/-- A reader does not tell reordered values apart. -/
def Steady (read : Value → Except ReadError α) : Prop :=
  ∀ ⦃value other⦄, Value.Reordered value other → (read value).toOption = (read other).toOption

theorem Follows.steady {keys : List Key} {fields : List (Field σ)}
    {read : Value → Except ReadError σ} (follows : Follows (Section.ofValue keys) read fields)
    (each : ∀ field ∈ fields, Steady field.read) : Steady read := by
  have inTable : Follows (Section.ofTable keys) (fun table => read (.table table)) fields :=
    fun table => follows (.table table)
  intro value other reordered
  cases reordered with
  | swap _ same => exact inTable.swapped same
  | member inside => exact inTable.replaced _ _ fun field place _ => each field place inside
  | @item before after value other inside =>
      have related := Section.lookup_ofArray_replaced keys before after value other
      refine follows.congr related fun values others alike field place => ?_
      exact Field.take_toOption_congr (alike field.key.name) (each field place inside)

theorem readText_reordered {value other : Value} (reordered : value.Reordered other) :
    readText value = readText other := by
  cases reordered <;> rfl

theorem readText_steady : Steady readText :=
  fun _ _ reordered => congrArg Except.toOption (readText_reordered reordered)

theorem readBool_steady : Steady readBool :=
  fun _ _ reordered => by cases reordered <;> rfl

theorem readCount_steady (bound : Nat) : Steady (readCount bound) :=
  fun _ _ reordered => by cases reordered <;> rfl

theorem readSeconds_steady : Steady readSeconds :=
  fun _ _ reordered => by cases reordered <;> rfl

theorem readTexts_steady : Steady readTexts := by
  intro value other reordered
  cases reordered with
  | swap => rfl
  | member => rfl
  | item inside =>
      simp only [readTexts, List.mapM_append, List.mapM_cons, readText_reordered inside]

theorem Steady.optional {read : Value → Except ReadError α} (steady : Steady read) :
    Steady fun value => some <$> read value := by
  intro value other reordered
  have mapped : ∀ result : Except ReadError α,
      (some <$> result).toOption = result.toOption.map some := by
    rintro (_ | _) <;> rfl
  rw [mapped, mapped, steady reordered]

/-- Variables that are given once are read as the sorted list of them. -/
theorem readVariables_eq_ok_iff {entries : Table} (once : (entries.map Prod.fst).Nodup)
    {env : Variables} :
    readVariables (.table entries) = .ok env ↔
      env.Sorted ∧ (env.map fun entry => (entry.1, Value.text entry.2)).Perm entries := by
  refine ⟨fun read => ⟨readVariables_sorted read, readVariables_perm read⟩, ?_⟩
  rintro ⟨sorted, same⟩
  have texts : entries ∈ Set.range
      (List.map fun entry : String × String => (entry.1, Value.text entry.2)) := by
    rw [Set.range_list_map]
    intro entry place
    obtain ⟨assignment, -, rfl⟩ := List.mem_map.mp (same.mem_iff.mpr place)
    exact ⟨assignment, rfl⟩
  obtain ⟨given, rfl⟩ := texts
  have together : env.Perm given := by
    refine (List.map_perm_map_iff ?_).mp same
    rintro ⟨_, _⟩ ⟨_, _⟩ equal
    cases equal
    rfl
  have distinct : (env.map Prod.fst).Nodup := by
    refine (together.map Prod.fst).nodup_iff.mpr ?_
    simpa [Function.comp_def] using once
  simp only [readVariables, mapM_readText_eq_ok_iff.mpr rfl]
  have sorts := List.mergeSort_perm given fun first second => decide (first.1 ≤ second.1)
  refine congrArg Except.ok ((sorts.trans together.symm).eq_of_pairwise ?_
    (Variables.sorted_mergeSort given) sorted)
  intro first second here there before after
  exact List.inj_on_of_nodup_map distinct ((sorts.trans together.symm).mem_iff.mp here) there
    (String.le_antisymm before after)

theorem readVariables_steady : Steady readVariables := by
  intro value other reordered
  cases reordered with
  | item => rfl
  | member inside =>
      simp only [readVariables, List.mapM_append, List.mapM_cons, readText_reordered inside]
  | @swap entries others once same =>
      have alsoOnce : (others.map Prod.fst).Nodup := (same.map _).nodup_iff.mp once
      refine Option.ext fun env => ?_
      rw [Except.toOption_eq_some_iff, Except.toOption_eq_some_iff, readVariables_eq_ok_iff once,
        readVariables_eq_ok_iff alsoOnce]
      exact and_congr_right fun _ => ⟨fun given => given.trans same,
        fun given => given.trans same.symm⟩

theorem readLauncher_steady : Steady readLauncher := by
  refine readLauncher_follows.steady ?_
  simp only [launcherFields, List.forall_mem_cons]
  exact ⟨readText_steady.optional, readText_steady.optional, readText_steady.optional,
    readText_steady.optional, List.forall_mem_nil _⟩

theorem readRole_steady : Steady readRole := by
  refine readRole_follows.steady ?_
  simp only [roleFields, List.forall_mem_cons]
  exact ⟨readText_steady.optional, (readCount_steady _).optional, readText_steady.optional,
    readText_steady.optional, readVariables_steady, List.forall_mem_nil _⟩

theorem readRoles_steady : Steady readRoles := by
  refine readRoles_follows.steady ?_
  simp only [rolesFields, List.forall_mem_cons]
  exact ⟨readRole_steady, readRole_steady, readRole_steady, List.forall_mem_nil _⟩

theorem readTimeouts_steady : Steady readTimeouts := by
  refine readTimeouts_follows.steady ?_
  simp only [timeoutFields, List.forall_mem_cons]
  exact ⟨readSeconds_steady, readSeconds_steady, readSeconds_steady, readSeconds_steady,
    List.forall_mem_nil _⟩

theorem readHandshake_steady : Steady readHandshake :=
  readHandshake_follows.steady (List.forall_mem_singleton.mpr readText_steady)

theorem readScan_steady : Steady readScan := by
  refine readScan_follows.steady ?_
  simp only [scanFields, List.forall_mem_cons]
  exact ⟨readTexts_steady, readBool_steady, readBool_steady, List.forall_mem_nil _⟩

theorem readOutput_steady : Steady readOutput := by
  refine readOutput_follows.steady ?_
  simp only [outputFields, List.forall_mem_cons]
  exact ⟨readCount_steady _, readCount_steady _, List.forall_mem_nil _⟩

theorem readBackend_steady : Steady readBackend := by
  refine readBackend_follows.steady ?_
  simp only [backendFields, List.forall_mem_cons]
  exact ⟨readText_steady.optional, readText_steady, List.forall_mem_nil _⟩

theorem fileFields_steady : ∀ field ∈ fileFields, Steady field.read := by
  simp only [fileFields, List.forall_mem_cons]
  exact ⟨readLauncher_steady, readRoles_steady, readTimeouts_steady, readHandshake_steady,
    readScan_steady, readOutput_steady, readVariables_steady, readBackend_steady, readBool_steady,
    List.forall_mem_nil _⟩

/-- The sections of a file. -/
def sectionNames : List String :=
  ["launcher", "roles", "timeouts", "handshake", "scan", "output", "env", "backend"]

/-- How the section of a role is called in a file. -/
def roleSpellings : Role → List String
  | .server => ["server"]
  | .client => ["client"]
  | .clientHelper => ["client-helper", "client_helper"]

/-- A document is written in another way. -/
inductive Rephrased : Table → Table → Prop where
  | reordered {table other : Table} (inside : Value.Reordered (.table table) (.table other)) :
      Rephrased table other
  | emptySection {table : Table} {name : String} (isSection : name ∈ sectionNames)
      (absent : table.lookup name = none) : Rephrased table (table ++ [(name, .table [])])
  | emptyRole {before after entries : Table} {role : Role} {text : String}
      (spelled : text ∈ roleSpellings role)
      (absent : ∀ spelling ∈ roleSpellings role, entries.lookup spelling = none) :
      Rephrased (before ++ ("roles", .table entries) :: after)
        (before ++ ("roles", .table (entries ++ [(text, .table [])])) :: after)
  | respelled {before after first last : Table} {value : Value} {role : Role}
      {text spelling : String} (spelled : text ∈ roleSpellings role)
      (alsoSpelled : spelling ∈ roleSpellings role) :
      Rephrased (before ++ ("roles", .table (first ++ (text, value) :: last)) :: after)
        (before ++ ("roles", .table (first ++ (spelling, value) :: last)) :: after)

theorem matches_sectionKeys :
    ∀ name ∈ sectionNames, Key.matches? sectionKeys name = some { name } := by
  simp only [sectionNames, List.forall_mem_cons]
  exact ⟨rfl, rfl, rfl, rfl, rfl, rfl, rfl, rfl, List.forall_mem_nil _⟩

/-- An empty section says what holds without it. -/
theorem fileFields_idle {name : String} (isSection : name ∈ sectionNames) :
    ∀ field ∈ fileFields, field.key.name = name →
      field.read (.table []) = .ok field.otherwise := by
  simp only [fileFields, List.forall_mem_cons]
  have noVariables : readVariables (.table []) = .ok [] :=
    (@readVariables_eq_ok_iff [] List.nodup_nil []).mpr ⟨List.Pairwise.nil, .nil⟩
  refine ⟨fun _ => rfl, fun _ => rfl, fun _ => rfl, fun _ => rfl, fun _ => rfl, fun _ => rfl,
    fun _ => noVariables, fun _ => rfl, ?_, List.forall_mem_nil _⟩
  rintro rfl
  exact absurd isSection (by decide)

theorem ofTable_roles_congr (before after : Table) {value other : Value}
    (same : (readRoles value).toOption = (readRoles other).toOption) :
    (ofTable (before ++ ("roles", value) :: after)).toOption =
      (ofTable (before ++ ("roles", other) :: after)).toOption := by
  refine ofTable_follows.replaced before after ?_
  rw [Key.canonical_of_matches (matches_sectionKeys "roles" (by decide))]
  simp [fileFields, same]

theorem readRoles_follows_table :
    Follows (Section.ofTable rolesKeys) (fun table => readRoles (.table table)) rolesFields :=
  fun table => readRoles_follows (.table table)

/-- The spellings of a role are those of its key. -/
theorem matches_rolesKeys (role : Role) :
    ∃ key, key.name = role.name ∧
      ∀ text ∈ roleSpellings role, Key.matches? rolesKeys text = some key := by
  cases role
  · exact ⟨_, rfl, List.forall_mem_singleton.mpr rfl⟩
  · exact ⟨_, rfl, List.forall_mem_singleton.mpr rfl⟩
  · exact ⟨_, rfl, List.forall_mem_cons.mpr ⟨rfl, List.forall_mem_singleton.mpr rfl⟩⟩

theorem mem_roleSpellings_of_canonical {role : Role} {text : String}
    (same : Key.canonical rolesKeys text = role.name) : text ∈ roleSpellings role := by
  cases found : Key.matches? rolesKeys text with
  | none =>
      rw [Key.canonical, found] at same
      rw [show text = role.name from same]
      cases role <;> decide
  | some key =>
      rw [Key.canonical_of_matches found] at same
      have spelled := Key.spelled_of_matches found
      have known := Key.mem_of_matches found
      simp only [rolesKeys, List.mem_cons, List.not_mem_nil, or_false] at known
      rcases known with rfl | rfl | rfl <;> cases role <;>
        first | exact spelled | exact absurd same (by decide)

/-- One step does not change what is read. -/
theorem Rephrased.same {table other : Table} (rephrased : Rephrased table other) :
    (ofTable table).toOption = (ofTable other).toOption := by
  cases rephrased with
  | reordered inside =>
      cases inside with
      | swap _ same => exact ofTable_follows.swapped same
      | member inside =>
          exact ofTable_follows.replaced _ _ fun field place _ =>
            fileFields_steady field place inside
  | @emptySection _ name isSection absent =>
      have found := matches_sectionKeys name isSection
      have canonical : ∀ text, Key.canonical sectionKeys text = text := Key.canonical_self rfl
      refine ofTable_follows.added found ?_ ?_
      · simpa [canonical] using Section.lookup_eq_none_iff.mp absent
      · rw [canonical]
        exact fileFields_idle isSection
  | @emptyRole before after entries role text spelled absent =>
      obtain ⟨key, name, found⟩ := matches_rolesKeys role
      refine ofTable_roles_congr before after
        (readRoles_follows_table.added (found text spelled) ?_ ?_)
      · rw [Key.canonical_of_matches (found text spelled), name]
        intro given
        obtain ⟨spelling, place, same⟩ := List.mem_map.mp given
        have nowhere := absent spelling (mem_roleSpellings_of_canonical same)
        exact Section.lookup_eq_none_iff.mp nowhere place
      · simp only [rolesFields, List.forall_mem_cons]
        exact ⟨fun _ => rfl, fun _ => rfl, fun _ => rfl, List.forall_mem_nil _⟩
  | @respelled before after first last value role text spelling spelled alsoSpelled =>
      obtain ⟨key, -, found⟩ := matches_rolesKeys role
      exact ofTable_roles_congr before after (readRoles_follows_table.respelled first last
        (found text spelled) (found spelling alsoSpelled))

/-- Documents that differ in such steps only are read alike. -/
theorem ofTable_rephrased {table other : Table}
    (rephrased : Relation.ReflTransGen Rephrased table other) :
    (ofTable table).toOption = (ofTable other).toOption := by
  induction rephrased with
  | refl => rfl
  | tail _ step inductionHypothesis => exact inductionHypothesis.trans step.same

end Settings

end Rendezvous
