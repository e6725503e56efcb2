import Mathlib.Data.List.TakeWhile
import Rendezvous.Proofs.Scenario.Sources

/-!
What a resolved scenario says.

`Sources.Plans` and `Sources.Describes` say field by field what the plan of a role
and a whole scenario are made of and what was checked about them.  A scenario is
resolved exactly when the sources describe it, so nobody has to look at the order
of the checks again.
-/

set_option autoImplicit false

namespace Rendezvous

universe u v

theorem Except.toOption_eq_some_iff {ε : Type v} {α : Type u} {result : Except ε α} {value : α} :
    result.toOption = some value ↔ result = .ok value := by
  cases result <;> simp [Except.toOption]

theorem Except.bind_eq_ok_iff {ε : Type u} {α β : Type v} {result : Except ε α}
    {next : α → Except ε β} {value : β} :
    result >>= next = .ok value ↔ ∃ first, result = .ok first ∧ next first = .ok value := by
  cases result <;> simp [bind, Except.bind]

/-- An action that undoes a function item by item undoes it on whole lists. -/
theorem Except.mapM_eq_ok_iff {ε : Type u} {α β : Type v} {action : α → Except ε β}
    {image : β → α} (each : ∀ item result, action item = .ok result ↔ item = image result)
    {items : List α} {results : List β} :
    items.mapM action = .ok results ↔ items = results.map image := by
  induction items generalizing results with
  | nil =>
      rw [List.mapM_nil]
      cases results <;> simp [pure, Except.pure]
  | cons item items inductionHypothesis =>
      simp only [List.mapM_cons, Except.bind_eq_ok_iff, each, inductionHypothesis]
      constructor
      · rintro ⟨result, rfl, others, rfl, same⟩
        cases same
        rfl
      · intro same
        cases results with
        | nil => cases same
        | cons result others =>
            obtain ⟨rfl, rfl⟩ := List.cons.inj same
            exact ⟨result, rfl, others, rfl, rfl⟩

theorem RoleTable.build_eq_ok_iff {ε : Type u} {α : Type v} {entryOf : Role → Except ε α}
    {table : RoleTable α} :
    build entryOf = .ok table ↔ ∀ role, entryOf role = .ok (table.get role) := by
  simp only [build, Except.bind_eq_ok_iff]
  constructor
  · rintro ⟨server, first, client, second, helper, third, same⟩
    cases same
    intro role
    cases role
    · exact first
    · exact second
    · exact third
  · intro each
    exact ⟨_, each .server, _, each .client, _, each .clientHelper, rfl⟩

theorem TimeoutTable.build_eq_ok_iff {ε : Type u} {α : Type v} {entryOf : Timeout → Except ε α}
    {table : TimeoutTable α} :
    build entryOf = .ok table ↔ ∀ timeout, entryOf timeout = .ok (table.get timeout) := by
  simp only [build, Except.bind_eq_ok_iff]
  constructor
  · rintro ⟨handshake, first, serverExit, second, run, third, stopGrace, fourth, same⟩
    cases same
    intro timeout
    cases timeout
    · exact first
    · exact second
    · exact third
    · exact fourth
  · intro each
    exact ⟨_, each .handshake, _, each .serverExit, _, each .run, _, each .stopGrace, rfl⟩

namespace Variables

/-- A name that an environment can hold. -/
def IsKey (name : String) : Prop :=
  name ≠ "" ∧ '=' ∉ name.toList ∧ '\x00' ∉ name.toList

theorem isName_iff (name : String) : isName name = true ↔ IsKey name := by
  simp [isName, IsKey, and_assoc]

end Variables

namespace Text

theorem trim_eq_nil_iff {text : List Char} :
    trim text = [] ↔ ∀ char ∈ text, isBlank char = true := by
  rw [trim, trimStart, trimStart, List.reverse_eq_nil_iff, List.dropWhile_eq_nil_iff]
  simp only [List.mem_reverse]
  constructor
  · intro rest char membership
    rw [← List.takeWhile_append_dropWhile (p := isBlank) (l := text)] at membership
    rcases List.mem_append.mp membership with early | late
    · exact List.mem_takeWhile_imp early
    · exact rest char late
  · intro all char membership
    exact all char ((List.dropWhile_sublist isBlank).subset membership)

end Text

namespace Mode

/-- How many processes a role may have. -/
def Allows : Mode → Nat → Prop
  | .serial, count => count = 1
  | .distributed, count => 1 ≤ count

end Mode

namespace Scenario

theorem checkProcesses_eq_ok_iff {mode : Mode} {role : Role} {count : Nat} :
    checkProcesses mode role count = .ok () ↔ mode.Allows count := by
  cases mode <;> simp only [checkProcesses, Mode.Allows] <;> split <;> simp <;> omega

theorem checkVariables_eq_ok_iff {env : Variables} :
    checkVariables env = .ok () ↔ ∀ entry ∈ env, Variables.IsKey entry.1 := by
  simp only [← Variables.isName_iff]
  rw [← Variables.badName?_eq_none, checkVariables]
  cases Variables.badName? env <;> simp

theorem durationOf_eq_ok_iff {timeout : Timeout} {seconds : Binary64} {duration : Duration} :
    durationOf timeout seconds = .ok duration ↔ Duration.ofSeconds? seconds = some duration := by
  rw [durationOf]
  cases Duration.ofSeconds? seconds <;> simp

theorem checkMarker_eq_ok_iff {marker : String} :
    checkMarker marker = .ok () ↔ ∃ char ∈ marker.toList, Text.isBlank char = false := by
  rw [checkMarker]
  split
  · next blank => simpa using Text.trim_eq_nil_iff.mp blank
  · next visible => simpa [Text.trim_eq_nil_iff] using visible

theorem splitFlags_eq_ok_iff {flags : String} {words : List String} :
    splitFlags flags = .ok words ↔ Words.split flags = .ok words := by
  rw [splitFlags]
  cases Words.split flags <;> simp [Except.mapError]

/-- In distributed mode the launcher has to be found; in serial mode it is kept as it is given. -/
theorem launcherPath_eq_ok_iff {locate : String → Option String} {mode : Mode}
    {path found : Option String} :
    launcherPath locate mode path = .ok found ↔
      (mode = .serial → found = path) ∧
        (mode = .distributed → ∃ given launcher, path = some given ∧
          locate given = some launcher ∧ found = some launcher) := by
  cases mode with
  | serial => simp [launcherPath, eq_comm]
  | distributed =>
      cases path with
      | none => simp [launcherPath]
      | some given => cases place : locate given <;> simp [launcherPath, place, eq_comm]

end Scenario

namespace ArgSlice

theorem select?_isNone_iff {α : Type u} {slice : ArgSlice} {tail : List α} :
    (slice.select? tail).isNone = true ↔ ¬ slice.stop ≤ tail.length := by
  unfold select?
  split <;> simp_all

end ArgSlice

namespace Sources

variable (sources : Sources) (locate : String → Option String)

/-- The plan of a role with a path is what the sources say, and nothing of it is wrong. -/
structure Plans (role : Role) (path : String) (plan : RolePlan) : Prop where
  executable : locate path = some plan.executable
  allowed : sources.mode.Allows (sources.processes role)
  inside : (sources.slice role).stop ≤ sources.options.tail.length
  keys : ∀ entry ∈ sources.roleEnv role, Variables.IsKey entry.1
  preflags : Words.split (sources.preflags role) = .ok plan.preflags
  postflags : Words.split (sources.postflags role) = .ok plan.postflags
  values : plan = sources.plan role plan.executable plan.preflags plan.postflags

/-- A scenario is what the sources say, and nothing of it is wrong. -/
structure Describes (scenario : Scenario) : Prop where
  launcher :
    Scenario.launcherPath locate sources.mode sources.launcher = .ok scenario.launcher.path
  planned : ∀ role path, sources.path role = some path →
    ∃ plan, scenario.roles.get role = some plan ∧ sources.Plans locate role path plan
  absent : ∀ role, sources.path role = none →
    role = .clientHelper ∧ scenario.roles.get role = none
  keys : ∀ entry ∈ sources.env, Variables.IsKey entry.1
  timeouts : ∀ timeout,
    Duration.ofSeconds? (sources.seconds timeout) = some (scenario.timeouts.get timeout)
  visible : ∃ char ∈ sources.marker.toList, Text.isBlank char = false
  values : scenario =
    sources.scenario scenario.launcher.path scenario.roles scenario.timeouts

variable {sources locate}

theorem planOf_eq_ok_iff {role : Role} {path : String} {plan : RolePlan} :
    Scenario.planOf locate sources.options sources.below role path = .ok plan ↔
      sources.Plans locate role path plan := by
  rw [planOf_eq]
  constructor
  · intro planned
    cases found : locate path with
    | none =>
        rw [found] at planned
        cases planned
    | some executable =>
        rw [found] at planned
        obtain ⟨_, counted, planned⟩ := Except.bind_eq_ok_iff.mp planned
        split at planned
        · cases planned
        · next within =>
            obtain ⟨_, checked, planned⟩ := Except.bind_eq_ok_iff.mp planned
            obtain ⟨preflags, first, planned⟩ := Except.bind_eq_ok_iff.mp planned
            obtain ⟨postflags, second, planned⟩ := Except.bind_eq_ok_iff.mp planned
            cases planned
            exact {
              executable := found
              allowed := Scenario.checkProcesses_eq_ok_iff.mp counted
              inside := not_not.mp fun outside => within (ArgSlice.select?_isNone_iff.mpr outside)
              keys := Scenario.checkVariables_eq_ok_iff.mp checked
              preflags := Scenario.splitFlags_eq_ok_iff.mp first
              postflags := Scenario.splitFlags_eq_ok_iff.mp second
              values := rfl }
  · intro plans
    have within := fun outside => ArgSlice.select?_isNone_iff.mp outside plans.inside
    have counted : Scenario.checkProcesses sources.mode role (sources.processes role) = .ok () :=
      Scenario.checkProcesses_eq_ok_iff.mpr plans.allowed
    have checked := Scenario.checkVariables_eq_ok_iff.mpr plans.keys
    have first := Scenario.splitFlags_eq_ok_iff.mpr plans.preflags
    have second := Scenario.splitFlags_eq_ok_iff.mpr plans.postflags
    rw [plans.executable, plans.values]
    apply Except.bind_eq_ok_iff.mpr ⟨(), counted, ?_⟩
    rw [if_neg within]
    apply Except.bind_eq_ok_iff.mpr ⟨(), checked, ?_⟩
    apply Except.bind_eq_ok_iff.mpr ⟨_, first, ?_⟩
    exact Except.bind_eq_ok_iff.mpr ⟨_, second, rfl⟩

theorem pathOf_eq_ok_iff {role : Role} {path : Option String} :
    Scenario.pathOf sources.options sources.below role = .ok path ↔
      sources.path role = path ∧ (path = none → role = .clientHelper) := by
  unfold Scenario.pathOf
  rw [path_eq]
  cases sources.path role <;> cases role <;> simp <;> grind

theorem resolveRole_eq_ok_iff {role : Role} {entry : Option RolePlan} :
    Scenario.resolveRole locate sources.options sources.below role = .ok entry ↔
      (∀ path, sources.path role = some path →
        ∃ plan, entry = some plan ∧ sources.Plans locate role path plan) ∧
      (sources.path role = none → role = .clientHelper ∧ entry = none) := by
  simp only [Scenario.resolveRole, Except.bind_eq_ok_iff, pathOf_eq_ok_iff]
  cases given : sources.path role with
  | none =>
      constructor
      · rintro ⟨_, ⟨rfl, optional⟩, absent⟩
        cases absent
        exact ⟨by simp, fun _ => ⟨optional rfl, rfl⟩⟩
      · rintro ⟨-, absent⟩
        obtain ⟨optional, rfl⟩ := absent rfl
        exact ⟨none, ⟨rfl, fun _ => optional⟩, rfl⟩
  | some path =>
      have planned : (some <$> Scenario.planOf locate sources.options sources.below role path =
          .ok entry) ↔ ∃ plan, entry = some plan ∧ sources.Plans locate role path plan := by
        simp only [← planOf_eq_ok_iff]
        cases Scenario.planOf locate sources.options sources.below role path <;>
          simp [Functor.map, Except.map, eq_comm]
      constructor
      · rintro ⟨_, ⟨rfl, -⟩, resolved⟩
        exact ⟨fun _ same => Option.some.inj same ▸ planned.mp resolved, by simp⟩
      · rintro ⟨resolved, -⟩
        exact ⟨some path, ⟨rfl, by simp⟩, planned.mpr (resolved path rfl)⟩

/-- A scenario is resolved exactly when the sources describe it. -/
theorem resolve_eq_ok_iff {scenario : Scenario} :
    sources.resolve locate = .ok scenario ↔ sources.Describes locate scenario := by
  rw [resolve_eq]
  constructor
  · intro resolved
    obtain ⟨path, launcher, resolved⟩ := Except.bind_eq_ok_iff.mp resolved
    obtain ⟨roles, built, resolved⟩ := Except.bind_eq_ok_iff.mp resolved
    obtain ⟨_, checked, resolved⟩ := Except.bind_eq_ok_iff.mp resolved
    obtain ⟨timeouts, converted, resolved⟩ := Except.bind_eq_ok_iff.mp resolved
    obtain ⟨_, marked, resolved⟩ := Except.bind_eq_ok_iff.mp resolved
    cases resolved
    have each := fun role => resolveRole_eq_ok_iff.mp (RoleTable.build_eq_ok_iff.mp built role)
    exact {
      launcher := launcher
      planned := fun role => (each role).1
      absent := fun role => (each role).2
      keys := Scenario.checkVariables_eq_ok_iff.mp checked
      timeouts := fun timeout =>
        Scenario.durationOf_eq_ok_iff.mp (TimeoutTable.build_eq_ok_iff.mp converted timeout)
      visible := Scenario.checkMarker_eq_ok_iff.mp marked
      values := rfl }
  · intro describes
    have built := RoleTable.build_eq_ok_iff.mpr fun role => resolveRole_eq_ok_iff.mpr
      ⟨describes.planned role, describes.absent role⟩
    have checked := Scenario.checkVariables_eq_ok_iff.mpr describes.keys
    have each : ∀ timeout, Scenario.durationOf timeout (sources.seconds timeout) =
        .ok (scenario.timeouts.get timeout) :=
      fun timeout => Scenario.durationOf_eq_ok_iff.mpr (describes.timeouts timeout)
    have converted := TimeoutTable.build_eq_ok_iff.mpr each
    have marked := Scenario.checkMarker_eq_ok_iff.mpr describes.visible
    rw [describes.values]
    apply Except.bind_eq_ok_iff.mpr ⟨_, describes.launcher, ?_⟩
    apply Except.bind_eq_ok_iff.mpr ⟨_, built, ?_⟩
    apply Except.bind_eq_ok_iff.mpr ⟨(), checked, ?_⟩
    apply Except.bind_eq_ok_iff.mpr ⟨_, converted, ?_⟩
    exact Except.bind_eq_ok_iff.mpr ⟨(), marked, rfl⟩

end Sources

end Rendezvous
