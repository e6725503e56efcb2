import Rendezvous.Proofs.Run.Judgement

/-!
Which failures the judgements add.

A judgement blames a role for something unless the role has a failure already.
The failures that it adds to are the ones it looks at, but as it judges each role
once, what it adds for one role makes no difference for the others: it adds a
failure for every role that deserves one and had none before.
-/

set_option autoImplicit false

namespace Rendezvous

namespace Failure

/-- The roles that have a failure. -/
def roles (failures : List Failure) : List Role :=
  failures.filterMap Failure.role

/-- A failure for each candidate that deserves one and does not have one already. -/
def further (before : List Failure) (candidates : List Role) (deserves : Role → Bool)
    (failure : Role → Failure) : List Failure :=
  (candidates.filter fun role => deserves role && !(roles before).contains role).map failure

/-- No role has two failures, and one failure at most has no role. -/
structure OneEach (failures : List Failure) : Prop where
  roles : (roles failures).Nodup
  without : (failures.filter fun failure => failure.role.isNone).length ≤ 1

theorem roles_append (first second : List Failure) :
    roles (first ++ second) = roles first ++ roles second :=
  List.filterMap_append

variable {failure : Role → Failure}

theorem mem_further {before : List Failure} {candidates : List Role} {deserves : Role → Bool}
    {condition : Prop} [Decidable condition] {blamed : Failure}
    (added : blamed ∈ if condition then further before candidates deserves failure else []) :
    ∃ role, blamed = failure role := by
  split at added
  · obtain ⟨role, -, same⟩ := List.mem_map.mp added
    exact ⟨role, same.symm⟩
  · cases added

theorem roles_map (named : ∀ role, (failure role).role = some role) (blamed : List Role) :
    roles (blamed.map failure) = blamed := by
  rw [roles, List.filterMap_map, show Failure.role ∘ failure = some from funext named,
    List.filterMap_some]

theorem OneEach.further {before : List Failure} (oneEach : OneEach before)
    (named : ∀ role, (failure role).role = some role) {candidates : List Role}
    (distinct : candidates.Nodup) (deserves : Role → Bool) (condition : Prop)
    [Decidable condition] :
    OneEach (before ++ if condition then further before candidates deserves failure else []) := by
  split
  case isFalse => rwa [List.append_nil]
  unfold Failure.further
  refine ⟨?_, ?_⟩
  · rw [roles_append, roles_map named]
    refine List.nodup_append.mpr ⟨oneEach.roles, distinct.filter _, ?_⟩
    rintro role earlier _ later rfl
    simp [earlier] at later
  · have blamed : ∀ roles : List Role,
        (roles.map failure).filter (fun failure => failure.role.isNone) = [] := by
      simp [named]
    rw [List.filter_append, blamed, List.append_nil]
    exact oneEach.without

end Failure

namespace Run

variable {σ : Type}

/-- The same run with some failures behind its own. -/
def withMore (run : Run σ) (failures : List Failure) : Run σ :=
  { run with failures := run.failures ++ failures }

theorem withMore_nil (run : Run σ) : run.withMore [] = run := by
  simp [withMore]

theorem withMore_withMore (run : Run σ) (first second : List Failure) :
    (run.withMore first).withMore second = run.withMore (first ++ second) := by
  simp [withMore]

theorem fail_withMore (scenario : Scenario) (kind : FailureKind) (role : Role) (reason : String)
    (run : Run σ) (added : List Failure) :
    (run.withMore added).fail scenario kind role reason =
      run.withMore (added ++ [⟨kind, some role, reason, run.tail scenario role⟩]) :=
  withMore_withMore run added _

theorem hasFailureOf_eq (run : Run σ) (role : Role) :
    run.hasFailureOf role = (Failure.roles run.failures).contains role := by
  rw [Bool.eq_iff_iff]
  simp [hasFailureOf, Failure.roles]

/--
A judgement of a run, whatever failures were added to it before: whether a role
deserves a failure depends on the run alone, and it gets one unless it has one.
-/
structure Blames (run : Run σ) (judge : Run σ → Role → Run σ) (deserves : Role → Bool)
    (failure : Role → Failure) : Prop where
  named : ∀ role, (failure role).role = some role
  judged : ∀ added role, judge (run.withMore added) role =
    if deserves role && !(run.withMore added).hasFailureOf role then
      run.withMore (added ++ [failure role])
    else run.withMore added

/-- Different roles are judged as if each of them was the only one. -/
theorem Blames.foldl {run : Run σ} {judge : Run σ → Role → Run σ} {deserves : Role → Bool}
    {failure : Role → Failure} (blames : run.Blames judge deserves failure) (roles : List Role)
    (distinct : roles.Nodup) (added : List Failure) :
    roles.foldl judge (run.withMore added) =
      run.withMore (added ++ Failure.further (run.failures ++ added) roles deserves failure) := by
  induction roles generalizing added with
  | nil => simp [Failure.further]
  | cons role roles inductionHypothesis =>
      obtain ⟨fresh, distinctRest⟩ := List.nodup_cons.mp distinct
      have next : (run.withMore added).hasFailureOf role =
          (Failure.roles (run.failures ++ added)).contains role := hasFailureOf_eq _ role
      rw [List.foldl_cons, blames.judged, next]
      cases deserved : deserves role && !(Failure.roles (run.failures ++ added)).contains role with
      | true =>
          -- the failure of this role is none of the others
          have unchanged : Failure.further (run.failures ++ (added ++ [failure role])) roles
              deserves failure =
                Failure.further (run.failures ++ added) roles deserves failure := by
            refine congrArg (List.map failure) (List.filter_congr fun other membership => ?_)
            have different : other ≠ role := fun same => fresh (same ▸ membership)
            simp [Failure.roles, blames.named, different]
          rw [if_pos rfl, inductionHypothesis distinctRest, unchanged, List.append_assoc]
          simp only [Failure.further, List.filter_cons, deserved, if_true, List.map_cons,
            List.singleton_append]
      | false =>
          rw [if_neg Bool.false_ne_true, inductionHypothesis distinctRest]
          simp only [Failure.further, List.filter_cons, deserved, Bool.false_eq_true, if_false]

/-- The failure of a role that ended on its own with a failure status. -/
def exitFailure (scenario : Scenario) (run : Run σ) (role : Role) : Failure :=
  ⟨.ofExit role, some role, s!"{role} exited with {run.exitState role}", run.tail scenario role⟩

/-- The failure of a role that printed error text. -/
def textFailure (scenario : Scenario) (run : Run σ) (role : Role) : Failure :=
  ⟨.errorText, some role, run.errorTextReason role, run.tail scenario role⟩

theorem judgeExit_blames (scenario : Scenario) (run : Run σ) :
    run.Blames (fun judged role => judgeExit scenario judged (run.report role))
      (fun role => (run.exitState role).isFailure) (run.exitFailure scenario) := by
  refine ⟨fun role => rfl, fun added role => ?_⟩
  rw [judgeExit, report_exit, report_role, fail_withMore]
  rfl

theorem judgeOutput_blames (scenario : Scenario) (run : Run σ) :
    run.Blames (judgeOutput scenario) run.transcript.hasErrorText (run.textFailure scenario) := by
  refine ⟨fun role => rfl, fun added role => ?_⟩
  rw [judgeOutput, fail_withMore]
  rfl

end Run

end Rendezvous
