import Rendezvous.Proofs.Scenario.CommandLines
import Rendezvous.Settings.Reader

/-!
Where the variables of a role come from.

Assignments are applied in order, so the last one of a variable counts.  Those of
a role stand in five places, one after another; what comes from a settings file is
in the order of the names.
-/

set_option autoImplicit false

namespace Rendezvous

namespace Variables

/-- The values of all variables after some assignments, on top of what they were before. -/
def apply (inherited : String → Option String) (env : Variables) : String → Option String :=
  env.foldl (fun before entry name => if name = entry.1 then some entry.2 else before name)
    inherited

/-- The last assignment of a variable and what it says. -/
def Last (env : Variables) (name value : String) : Prop :=
  ∃ before after, env = before ++ (name, value) :: after ∧ ∀ entry ∈ after, entry.1 ≠ name

/-- Assignments in the order of their names. -/
def Sorted (env : Variables) : Prop :=
  env.Pairwise fun first second => first.1 ≤ second.1

theorem apply_of_absent {env : Variables} {name : String}
    (absent : ∀ entry ∈ env, entry.1 ≠ name) (inherited : String → Option String) :
    apply inherited env name = inherited name := by
  induction env generalizing inherited with
  | nil => rfl
  | cons entry env inductionHypothesis =>
      have later : ∀ other ∈ env, other.1 ≠ name :=
        fun other place => absent other (List.mem_cons_of_mem entry place)
      refine (inductionHypothesis later _).trans (if_neg ?_)
      exact Ne.symm (absent entry List.mem_cons_self)

theorem Last.apply {env : Variables} {name value : String} (last : env.Last name value)
    (inherited : String → Option String) : apply inherited env name = some value := by
  obtain ⟨before, after, rfl, absent⟩ := last
  rw [Variables.apply, List.foldl_append]
  exact (apply_of_absent absent _).trans (if_pos rfl)

/-- The last assignment of a variable is what it is looked up by. -/
theorem last_iff {env : Variables} {name value : String} :
    env.Last name value ↔ env.value? name = some value := by
  simp only [value?, Option.map_eq_some_iff, List.find?_eq_some_iff_append, decide_eq_true_eq,
    Bool.not_eq_true', decide_eq_false_iff_not]
  constructor
  · rintro ⟨before, after, rfl, absent⟩
    exact ⟨(name, value), ⟨rfl, after.reverse, before.reverse, by simp, by simpa using absent⟩, rfl⟩
  · rintro ⟨⟨_, _⟩, ⟨rfl, after, before, split, absent⟩, rfl⟩
    have order := congrArg List.reverse split
    exact ⟨before.reverse, after.reverse, by simpa using order, by simpa using absent⟩

theorem sorted_mergeSort (env : Variables) :
    Sorted (env.mergeSort fun first second => decide (first.1 ≤ second.1)) := by
  refine (List.pairwise_mergeSort ?_ ?_ env).imp of_decide_eq_true
  · intro first second third former latter
    exact decide_eq_true (String.le_trans (of_decide_eq_true former) (of_decide_eq_true latter))
  · intro first second
    simpa using String.le_total first.1 second.1

end Variables

namespace Settings

/-- The variables are in the order of their names, as they are in a file. -/
structure InKeyOrder (settings : Settings) : Prop where
  env : settings.env.Sorted
  roles : ∀ role, (settings.roles.get role).env.Sorted

theorem default_inKeyOrder : InKeyOrder {} where
  env := List.Pairwise.nil
  roles role := by
    rw [RoleTable.get_replicate]
    exact List.Pairwise.nil

/-- What a section gives was read, or it is what holds otherwise. -/
theorem Section.of_get {α : Type} (holds : α → Prop) {values : Section} {name : String}
    {read : Toml.Value → Except ReadError α} {otherwise result : α}
    (got : values.get name read otherwise = .ok result)
    (whenRead : ∀ value result, read value = .ok result → holds result)
    (whenAbsent : holds otherwise) : holds result := by
  unfold Section.get at got
  split at got
  · exact whenRead _ _ got
  · cases got
    exact whenAbsent

theorem readVariables_sorted {value : Toml.Value} {env : Variables}
    (read : readVariables value = .ok env) : env.Sorted := by
  unfold readVariables at read
  split at read
  · obtain ⟨entries, -, same⟩ := Except.bind_eq_ok_iff.mp read
    cases same
    exact Variables.sorted_mergeSort entries
  · cases read
    exact List.pairwise_singleton _ _
  · cases read

theorem readText_eq_ok_iff {value : Toml.Value} {text : String} :
    readText value = .ok text ↔ value = .text text := by
  cases value <;> simp [readText]

/-- A table of texts, as the variables that it gives. -/
theorem mapM_readText_eq_ok_iff {entries : Toml.Table} {env : Variables} :
    (entries.mapM fun (name, value) => do return (name, ← readText value)) = Except.ok env ↔
      entries = env.map fun entry => (entry.1, .text entry.2) := by
  refine Except.mapM_eq_ok_iff ?_
  rintro ⟨name, value⟩ ⟨other, text⟩
  simp [Except.bind_eq_ok_iff, readText_eq_ok_iff, pure, Except.pure, and_comm]

/-- The variables that a table gives are its entries. -/
theorem readVariables_perm {entries : Toml.Table} {env : Variables}
    (read : readVariables (.table entries) = .ok env) :
    (env.map fun entry => (entry.1, Toml.Value.text entry.2)).Perm entries := by
  obtain ⟨texts, each, same⟩ := Except.bind_eq_ok_iff.mp read
  cases same
  rw [mapM_readText_eq_ok_iff.mp each]
  exact (List.mergeSort_perm texts _).map _

theorem readRole_sorted {value : Toml.Value} {settings : RoleSettings}
    (read : readRole value = .ok settings) : settings.env.Sorted := by
  simp only [readRole, Except.bind_eq_ok_iff] at read
  obtain ⟨values, -, path, -, processes, -, preflags, -, postflags, -, env, got, same⟩ := read
  cases same
  exact Section.of_get Variables.Sorted got (fun _ _ => readVariables_sorted) List.Pairwise.nil

theorem readRoles_sorted {value : Toml.Value} {roles : RoleTable RoleSettings}
    (read : readRoles value = .ok roles) (role : Role) : (roles.get role).env.Sorted := by
  obtain ⟨values, -, built⟩ := Except.bind_eq_ok_iff.mp read
  exact Section.of_get (fun settings : RoleSettings => settings.env.Sorted)
    (RoleTable.build_eq_ok_iff.mp built role) (fun _ _ => readRole_sorted) List.Pairwise.nil

theorem ofTable_inKeyOrder {table : Toml.Table} {settings : Settings}
    (read : ofTable table = .ok settings) : settings.InKeyOrder := by
  simp only [ofTable, Except.bind_eq_ok_iff] at read
  obtain ⟨values, -, launcher, -, roles, gotRoles, timeouts, -, marker, -, scan, -, output, -, env,
    gotEnv, backend, -, serial, -, same⟩ := read
  cases same
  exact {
    env := Section.of_get Variables.Sorted gotEnv (fun _ _ => readVariables_sorted)
      default_inKeyOrder.env
    roles := Section.of_get
      (fun roles : RoleTable RoleSettings => ∀ role, (roles.get role).env.Sorted) gotRoles
      (fun _ _ => readRoles_sorted) default_inKeyOrder.roles }

theorem read_inKeyOrder {text : String} {settings : Settings}
    (read : Settings.read text = .ok settings) : settings.InKeyOrder := by
  obtain ⟨table, -, given⟩ := Except.bind_eq_ok_iff.mp read
  exact ofTable_inKeyOrder given

end Settings

namespace Sources

variable (sources : Sources)

/-- Where the variables of a role stand: each place overrides those before it. -/
def assignments (role : Role) : List Variables :=
  [sources.settings.env, sources.options.env,
    sources.backend.toList.map fun name => (sources.settings.backend.variableName, name),
    (sources.settings.roles.get role).env, (sources.options.roles.get role).env]

/-- The same sources with something else said about the roles. -/
def withRoles (given : RoleTable RoleOptions) (configured : RoleTable RoleSettings) : Sources where
  options := { sources.options with roles := given }
  settings := { sources.settings with roles := configured }
  builtIn := sources.builtIn

variable {sources} {locate : String → Option String} {scenario : Scenario} {role : Role}

/-- The variables of a role are those of all roles and then its own ones, which were checked. -/
theorem Describes.envOf_parts (describes : sources.Describes locate scenario)
    (active : role ∈ scenario.activeRoles) :
    scenario.envOf role = sources.env ++ sources.roleEnv role ∧
      ∀ entry ∈ sources.roleEnv role, Variables.IsKey entry.1 := by
  obtain ⟨path, plan, -, found, plans⟩ := describes.exists_plans active
  have shared : scenario.env = sources.env := congrArg Scenario.env describes.values
  have own : plan.env = sources.roleEnv role := congrArg RolePlan.env plans.values
  refine ⟨?_, plans.keys⟩
  rw [Scenario.envOf, found, Option.map_some, Option.getD_some, shared, own]

theorem Describes.envOf_eq (describes : sources.Describes locate scenario)
    (active : role ∈ scenario.activeRoles) :
    scenario.envOf role = (sources.assignments role).flatten := by
  rw [(describes.envOf_parts active).1]
  simp [assignments, env, roleEnv]

/-- Every variable of a role has a name that an environment can hold. -/
theorem Describes.isKey_envOf (describes : sources.Describes locate scenario)
    (active : role ∈ scenario.activeRoles) :
    ∀ entry ∈ scenario.envOf role, Variables.IsKey entry.1 := by
  obtain ⟨parts, individual⟩ := describes.envOf_parts active
  rw [parts]
  exact List.forall_mem_append.mpr ⟨describes.keys, individual⟩

/-- What is said about other roles does not change the variables of a role. -/
theorem Describes.envOf_withRoles (describes : sources.Describes locate scenario)
    (active : role ∈ scenario.activeRoles) {given : RoleTable RoleOptions}
    {configured : RoleTable RoleSettings} {other : Scenario}
    (changed : (sources.withRoles given configured).Describes locate other)
    (present : role ∈ other.activeRoles)
    (options : (given.get role).env = (sources.options.roles.get role).env)
    (settings : (configured.get role).env = (sources.settings.roles.get role).env) :
    other.envOf role = scenario.envOf role := by
  rw [describes.envOf_eq active, changed.envOf_eq present]
  simp only [assignments, withRoles, options, settings]
  rfl

end Sources

end Rendezvous
