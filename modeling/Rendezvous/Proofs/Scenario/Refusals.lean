import Rendezvous.Proofs.Scenario.Sources

/-!
Why a scenario is refused.

Each check of a scenario has errors of its own, and all of them are errors of the
configuration.  Only the check of the launcher has errors that are about it.
-/

set_option autoImplicit false

namespace Rendezvous

universe u v

/-- Whether the error says that something is wrong with the launcher. -/
def Error.isAboutLauncher : Error → Bool
  | .setting .launcherNotGiven | .setting (.launcherNotFound _) | .setting .launcherMissing => true
  | _ => false

/-- An error of the configuration that is not about the launcher. -/
structure Error.IsRefusal (cause : Error) : Prop where
  configuration : cause.isConfiguration = true
  noLauncher : cause.isAboutLauncher = false

theorem Except.bind_eq_error {ε : Type u} {α β : Type v} {result : Except ε α}
    {next : α → Except ε β} {cause : ε} (failed : result >>= next = .error cause) :
    result = .error cause ∨ ∃ first, result = .ok first ∧ next first = .error cause := by
  cases result with
  | error refusal =>
      cases failed
      exact Or.inl rfl
  | ok first => exact Or.inr ⟨first, rfl, failed⟩

theorem RoleTable.build_error {ε : Type u} {α : Type v} {entryOf : Role → Except ε α} {cause : ε}
    (failed : build entryOf = .error cause) : ∃ role, entryOf role = .error cause := by
  rcases Except.bind_eq_error failed with first | ⟨_, -, rest⟩
  · exact ⟨_, first⟩
  rcases Except.bind_eq_error rest with second | ⟨_, -, rest⟩
  · exact ⟨_, second⟩
  rcases Except.bind_eq_error rest with third | ⟨_, -, done⟩
  · exact ⟨_, third⟩
  · cases done

theorem TimeoutTable.build_error {ε : Type u} {α : Type v} {entryOf : Timeout → Except ε α}
    {cause : ε} (failed : build entryOf = .error cause) :
    ∃ timeout, entryOf timeout = .error cause := by
  rcases Except.bind_eq_error failed with first | ⟨_, -, rest⟩
  · exact ⟨_, first⟩
  rcases Except.bind_eq_error rest with second | ⟨_, -, rest⟩
  · exact ⟨_, second⟩
  rcases Except.bind_eq_error rest with third | ⟨_, -, rest⟩
  · exact ⟨_, third⟩
  rcases Except.bind_eq_error rest with fourth | ⟨_, -, done⟩
  · exact ⟨_, fourth⟩
  · cases done

namespace Scenario

variable {cause : Error}

theorem launcherPath_cause {locate : String → Option String} {mode : Mode} {path : Option String}
    (failed : launcherPath locate mode path = .error cause) : cause.isConfiguration = true := by
  unfold launcherPath at failed
  split at failed
  · cases failed
  · cases failed
    rfl
  · split at failed <;> cases failed
    rfl

theorem checkProcesses_cause {mode : Mode} {role : Role} {count : Nat}
    (failed : checkProcesses mode role count = .error cause) : cause.IsRefusal := by
  cases mode <;> unfold checkProcesses at failed <;> dsimp only at failed <;>
    split at failed <;> cases failed <;> exact ⟨rfl, rfl⟩

theorem checkVariables_cause {env : Variables} (failed : checkVariables env = .error cause) :
    cause.IsRefusal := by
  unfold checkVariables at failed
  split at failed <;> cases failed
  exact ⟨rfl, rfl⟩

theorem splitFlags_cause {flags : String} (failed : splitFlags flags = .error cause) :
    cause.IsRefusal := by
  unfold splitFlags at failed
  cases words : Words.split flags <;> rw [words] at failed <;> cases failed
  exact ⟨rfl, rfl⟩

theorem durationOf_cause {timeout : Timeout} {seconds : Binary64}
    (failed : durationOf timeout seconds = .error cause) : cause.IsRefusal := by
  unfold durationOf at failed
  split at failed <;> cases failed
  exact ⟨rfl, rfl⟩

theorem checkMarker_cause {marker : String} (failed : checkMarker marker = .error cause) :
    cause.IsRefusal := by
  unfold checkMarker at failed
  split at failed <;> cases failed
  exact ⟨rfl, rfl⟩

theorem pathOf_cause {options : RunOptions} {settings : Settings} {role : Role}
    (failed : pathOf options settings role = .error cause) : cause.IsRefusal := by
  unfold pathOf at failed
  split at failed <;> cases failed
  exact ⟨rfl, rfl⟩

end Scenario

namespace Sources

variable {sources : Sources} {locate : String → Option String} {cause : Error}

theorem planOf_cause {role : Role} {path : String}
    (failed : Scenario.planOf locate sources.options sources.below role path = .error cause) :
    cause.IsRefusal := by
  rw [planOf_eq] at failed
  cases found : locate path with
  | none =>
      rw [found] at failed
      cases failed
      exact ⟨rfl, rfl⟩
  | some executable =>
      rw [found] at failed
      rcases Except.bind_eq_error failed with counted | ⟨_, -, failed⟩
      · exact Scenario.checkProcesses_cause counted
      split at failed
      · cases failed
        exact ⟨rfl, rfl⟩
      rcases Except.bind_eq_error failed with checked | ⟨_, -, failed⟩
      · exact Scenario.checkVariables_cause checked
      rcases Except.bind_eq_error failed with before | ⟨_, -, failed⟩
      · exact Scenario.splitFlags_cause before
      rcases Except.bind_eq_error failed with after | ⟨_, -, done⟩
      · exact Scenario.splitFlags_cause after
      · cases done

theorem resolveRole_cause {role : Role}
    (failed : Scenario.resolveRole locate sources.options sources.below role = .error cause) :
    cause.IsRefusal := by
  rcases Except.bind_eq_error failed with missing | ⟨path, -, failed⟩
  · exact Scenario.pathOf_cause missing
  · cases path with
    | none => cases failed
    | some path =>
        cases planned : Scenario.planOf locate sources.options sources.below role path with
        | error refusal =>
            simp only [planned] at failed
            cases failed
            exact planOf_cause planned
        | ok plan =>
            simp only [planned] at failed
            cases failed

/-- A scenario is refused for its launcher, or for something else about the configuration. -/
theorem resolve_refused (failed : sources.resolve locate = .error cause) :
    Scenario.launcherPath locate sources.mode sources.launcher = .error cause ∨
      cause.IsRefusal := by
  rw [resolve_eq] at failed
  rcases Except.bind_eq_error failed with launcher | ⟨_, -, failed⟩
  · exact Or.inl launcher
  apply Or.inr
  rcases Except.bind_eq_error failed with roles | ⟨_, -, failed⟩
  · obtain ⟨role, refused⟩ := RoleTable.build_error roles
    exact resolveRole_cause refused
  rcases Except.bind_eq_error failed with keys | ⟨_, -, failed⟩
  · exact Scenario.checkVariables_cause keys
  rcases Except.bind_eq_error failed with timeouts | ⟨_, -, failed⟩
  · obtain ⟨timeout, refused⟩ := TimeoutTable.build_error timeouts
    exact Scenario.durationOf_cause refused
  rcases Except.bind_eq_error failed with marker | ⟨_, -, done⟩
  · exact Scenario.checkMarker_cause marker
  · cases done

/-- Whatever is wrong with a scenario, it is something about the configuration. -/
theorem resolve_cause (failed : sources.resolve locate = .error cause) :
    cause.isConfiguration = true := by
  rcases resolve_refused failed with launcher | refusal
  · exact Scenario.launcherPath_cause launcher
  · exact refusal.configuration

end Sources

end Rendezvous
