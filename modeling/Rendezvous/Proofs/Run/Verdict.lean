import Rendezvous.Proofs.Run.Accounts

/-!
The verdict of a whole run.
-/

set_option autoImplicit false

namespace Rendezvous

theorem RunResult.exitCode_eq_zero_iff {result : RunResult} :
    result.exitCode = 0 ↔ result.passed = true := by
  cases passed : result.passed <;> simp [exitCode, passed]

namespace Run

variable {σ : Type}

/-- The result tells for every role how its process stands at the end of the run. -/
theorem aggregate_exitState (world : World σ) {scenario : Scenario} {run : Run σ}
    (planned : run.Planned scenario) (role : Role) :
    (run.aggregate world scenario).1.exitState role = run.exitState role := by
  have found : (run.aggregate world scenario).1.role? role =
      if role ∈ scenario.activeRoles then some (run.report role) else none := by
    have search : ∀ roles : List Role,
        (roles.map run.report).find? (fun report => report.role = role) =
          if role ∈ roles then some (run.report role) else none := by
      intro roles
      induction roles with
      | nil => rfl
      | cons first rest inductionHypothesis =>
          rw [List.map_cons, List.find?_cons, report_role]
          by_cases same : first = role
          · simp [same]
          · simp [same, Ne.symm same, inductionHypothesis]
    exact search scenario.activeRoles
  rw [RunResult.exitState, found]
  split
  · rw [Option.map_some, Option.getD_some, report_exit]
  · next inactive =>
      have none : run.process? role = none := by
        refine List.find?_eq_none.mpr fun process membership same => inactive ?_
        rw [← of_decide_eq_true same]
        exact Scenario.mem_activeRoles_of_commandLine (planned process membership)
      rw [exitState, none]
      rfl

theorem reports_isFailure (world : World σ) (scenario : Scenario) (run : Run σ) :
    (∀ report ∈ (run.aggregate world scenario).1.roles, report.exit.isFailure = false) ↔
      ∀ role ∈ scenario.activeRoles, (run.exitState role).isFailure = false := by
  refine List.forall_mem_map.trans ?_
  simp only [report_exit]

/-- When a run that was torn down passes. -/
theorem aggregate_verdict (world : World σ) {scenario : Scenario} {run : Run σ}
    (planned : run.Planned scenario)
    (satisfied : run.failures = [] → run.handshakeSatisfied = true) :
    (run.aggregate world scenario).1.passed = true ↔
      run.failures = [] ∧ (run.aggregate world scenario).1.exitState .client = .exited 0 ∧
        (∀ report ∈ (run.aggregate world scenario).1.roles, report.exit.isFailure = false) ∧
        (run.transcript.hasAnyErrorText = false ∨ scenario.tolerateErrorText = true) := by
  have judged : (run.aggregate world scenario).1.failures = (run.judge scenario).failures := rfl
  rw [aggregate_passed_iff world scenario satisfied, aggregate_exitState world planned,
    reports_isFailure, ← ExitState.isClean_iff, judged]
  constructor
  · intro none
    have before := failures_eq_nil_of_aggregate world none
    obtain ⟨-, exits, clean, text⟩ := (judge_failures_eq_nil (satisfied before)).mp none
    exact ⟨before, clean, exits, text⟩
  · rintro ⟨before, clean, exits, text⟩
    exact (judge_failures_eq_nil (satisfied before)).mpr ⟨before, exits, clean, text⟩

theorem aggregate_done_iff (world : World σ) (scenario : Scenario) (run : Run σ) :
    (run.aggregate world scenario).2.phases.getLast? = some .done ↔
      (run.aggregate world scenario).1.passed = true := by
  rw [aggregate_phases, List.getLast?_concat]
  cases (run.aggregate world scenario).1.passed <;> decide

/-- No error text was observed when no observed line contains a signature. -/
theorem Observed.hasAnyErrorText_eq_false_iff {initial : Transcript} {journal : Journal}
    {run : Run σ} {lines : List Line} (observed : run.Observed initial journal lines)
    (fresh : ∀ role, initial.hits.get role = 0) :
    run.transcript.hasAnyErrorText = false ↔
      ∀ line ∈ lines, initial.scanner.hasError line.text = false := by
  rw [← Bool.not_eq_true, observed.transcript, Transcript.hasAnyErrorText_observeAll fresh]
  simp only [not_exists, not_and, Bool.not_eq_true]

/--
A run passes when its drive went well, the client exited with status zero, no
role ended on its own with a failure status, and no line that was observed
contains a signature unless that is tolerated.  To pass, to have no failure, to
have exit code zero and to end with the phase `done` are the same.
-/
theorem complete_verdict (world : World σ) (scenario : Scenario) (more : Nat)
    (scanner : Scanner) (quiet writable : Bool) (limit : Nat) (outside : σ) :
    let initial : Transcript := { Transcript.start scanner quiet limit with writable }
    let start := Run.start world initial outside
    let settled := start.settle world scenario more
    let outcome := complete world scenario more start
    let journal := (recorded world scenario more initial outside).2.journal
    (∃ lines, settled.Observed initial journal lines ∧
      (outcome.1.passed = true ↔
        (start.drive world scenario more).1 = .ok () ∧
          outcome.1.exitState .client = .exited 0 ∧
          (∀ report ∈ outcome.1.roles, report.exit.isFailure = false) ∧
          ((∀ line ∈ lines, scanner.hasError line.text = false) ∨
            scenario.tolerateErrorText = true))) ∧
      (outcome.1.passed = true ↔ outcome.1.failures = []) ∧
      (outcome.1.passed = true ↔ outcome.1.exitCode = 0) ∧
      (outcome.1.passed = true ↔ outcome.2.phases.getLast? = some .done) := by
  intro initial start settled outcome journal
  obtain ⟨lines, observed⟩ := settle_observed world scenario more initial outside
  obtain ⟨satisfied, phases, roles, course, -, found, -, failures⟩ :=
    start_settle_course world scenario more initial outside
  have planned := start_settle_planned world scenario more initial outside
  have succeeded : settled.failures = [] → settled.handshakeSatisfied = true := by
    intro none
    rw [found]
    exact course.satisfied_of_ok (failures.mp none)
  have fresh : ∀ role, initial.hits.get role = 0 := fun role => RoleTable.get_replicate 0 role
  have verdict := aggregate_verdict world planned succeeded
  rw [observed.hasAnyErrorText_eq_false_iff fresh, failures] at verdict
  exact ⟨⟨lines, observed, verdict⟩, aggregate_passed_iff world scenario succeeded,
    RunResult.exitCode_eq_zero_iff.symm, (aggregate_done_iff world scenario _).symm⟩

end Run

end Rendezvous
