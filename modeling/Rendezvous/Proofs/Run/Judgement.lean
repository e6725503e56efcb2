import Mathlib.Data.List.Basic
import Rendezvous.Run

/-!
When a run that has been torn down passes.

Each judgement adds failures and nothing else, and each has its own condition
for adding none.  The conditions of all of them together are the condition for
passing.
-/

set_option autoImplicit false

namespace Rendezvous

namespace Run

variable {σ : Type}

/-- The same run with more failures. -/
def Adds (before after : Run σ) : Prop :=
  ∃ failures, after = { before with failures := before.failures ++ failures }

theorem Adds.refl (run : Run σ) : run.Adds run :=
  ⟨[], by rw [List.append_nil]⟩

theorem Adds.trans {first second third : Run σ} (former : first.Adds second)
    (latter : second.Adds third) : first.Adds third := by
  obtain ⟨failures, rfl⟩ := former
  obtain ⟨more, rfl⟩ := latter
  exact ⟨failures ++ more, by rw [List.append_assoc]⟩

theorem fail_adds (scenario : Scenario) (kind : FailureKind) (role : Role) (reason : String)
    (run : Run σ) : run.Adds (run.fail scenario kind role reason) :=
  ⟨[⟨kind, some role, reason, run.tail scenario role⟩], rfl⟩

theorem judgeExit_adds (scenario : Scenario) (run : Run σ) (report : RoleReport) :
    run.Adds (judgeExit scenario run report) := by
  unfold judgeExit
  split
  · exact fail_adds _ _ _ _ run
  · exact .refl run

theorem judgeClient_adds (scenario : Scenario) (run : Run σ) :
    run.Adds (run.judgeClient scenario) := by
  unfold judgeClient
  dsimp only
  split
  · exact fail_adds _ _ _ _ run
  · exact .refl run

theorem judgeOutput_adds (scenario : Scenario) (run : Run σ) (role : Role) :
    run.Adds (judgeOutput scenario run role) := by
  unfold judgeOutput
  split
  · exact fail_adds _ _ _ _ run
  · exact .refl run

theorem foldl_adds {α : Type} {judge : Run σ → α → Run σ}
    (adds : ∀ (run : Run σ) (entry : α), run.Adds (judge run entry)) (entries : List α) (run : Run σ) :
    run.Adds (entries.foldl judge run) := by
  induction entries generalizing run with
  | nil => exact .refl run
  | cons entry entries inductionHypothesis =>
      exact (adds run entry).trans (inductionHypothesis (judge run entry))

theorem judgeExits_adds (scenario : Scenario) (run : Run σ) :
    run.Adds (run.judgeExits scenario) := by
  unfold judgeExits
  split
  · exact (foldl_adds (judgeExit_adds scenario) _ run).trans (judgeClient_adds scenario _)
  · exact .refl run

theorem judgeOutputs_adds (scenario : Scenario) (run : Run σ) :
    run.Adds (run.judgeOutputs scenario) := by
  unfold judgeOutputs
  split
  · exact foldl_adds (judgeOutput_adds scenario) _ run
  · exact .refl run

theorem judge_adds (scenario : Scenario) (run : Run σ) : run.Adds (run.judge scenario) :=
  (judgeExits_adds scenario run).trans (judgeOutputs_adds scenario _)

theorem hasFailureOf_of_none {run : Run σ} (none : run.failures = []) (role : Role) :
    run.hasFailureOf role = false := by
  simp [hasFailureOf, none]

theorem judgeExit_failures_eq_nil {scenario : Scenario} {run : Run σ} {report : RoleReport} :
    (judgeExit scenario run report).failures = [] ↔
      run.failures = [] ∧ report.exit.isFailure = false := by
  by_cases none : run.failures = []
  · cases failed : report.exit.isFailure <;>
      simp [judgeExit, failed, none, hasFailureOf_of_none none, fail]
  · obtain ⟨more, added⟩ := judgeExit_adds scenario run report
    simp [added, none]

theorem judgeClient_failures_eq_nil {scenario : Scenario} {run : Run σ} :
    (run.judgeClient scenario).failures = [] ↔
      run.failures = [] ∧ (run.exitState .client).isClean = true := by
  by_cases none : run.failures = []
  · cases clean : (run.exitState .client).isClean <;> simp [judgeClient, clean, none, fail]
  · obtain ⟨more, added⟩ := judgeClient_adds scenario run
    simp [added, none]

theorem judgeOutput_failures_eq_nil {scenario : Scenario} {run : Run σ} {role : Role} :
    (judgeOutput scenario run role).failures = [] ↔
      run.failures = [] ∧ run.transcript.hasErrorText role = false := by
  by_cases none : run.failures = []
  · cases printed : run.transcript.hasErrorText role <;>
      simp [judgeOutput, printed, none, hasFailureOf_of_none none, fail]
  · obtain ⟨more, added⟩ := judgeOutput_adds scenario run role
    simp [added, none]

/-- A sequence of judgements adds no failure when none of them does. -/
theorem foldl_failures_eq_nil {α : Type} {judge : Run σ → α → Run σ}
    (fine : Transcript → α → Prop) (adds : ∀ (run : Run σ) (entry : α), run.Adds (judge run entry))
    (each : ∀ (run : Run σ) (entry : α), (judge run entry).failures = [] ↔
      run.failures = [] ∧ fine run.transcript entry) (entries : List α) (run : Run σ) :
    (entries.foldl judge run).failures = [] ↔
      run.failures = [] ∧ ∀ entry ∈ entries, fine run.transcript entry := by
  induction entries generalizing run with
  | nil => simp
  | cons entry entries inductionHypothesis =>
      have same : (judge run entry).transcript = run.transcript := by
        obtain ⟨more, added⟩ := adds run entry
        rw [added]
      rw [List.foldl_cons, inductionHypothesis, each, same, List.forall_mem_cons, and_assoc]

theorem report_exit (run : Run σ) (role : Role) : (run.report role).exit = run.exitState role := by
  unfold report exitState
  cases run.process? role <;> rfl

theorem report_role (run : Run σ) (role : Role) : (run.report role).role = role := by
  unfold report
  cases run.process? role <;> rfl

theorem judgeExits_failures_eq_nil {scenario : Scenario} {run : Run σ}
    (satisfied : run.handshakeSatisfied = true) :
    (run.judgeExits scenario).failures = [] ↔
      run.failures = [] ∧ (∀ role ∈ scenario.activeRoles, (run.exitState role).isFailure = false) ∧
        (run.exitState .client).isClean = true := by
  obtain ⟨more, added⟩ :=
    foldl_adds (judgeExit_adds scenario) (scenario.activeRoles.map run.report) run
  have client : ((scenario.activeRoles.map run.report).foldl (judgeExit scenario) run).exitState
      .client = run.exitState .client := by
    rw [added]
    rfl
  rw [judgeExits, if_pos satisfied, judgeClient_failures_eq_nil, client,
    foldl_failures_eq_nil (fun _ report => report.exit.isFailure = false)
      (judgeExit_adds scenario) (fun _ _ => judgeExit_failures_eq_nil), and_assoc]
  simp only [List.forall_mem_map, report_exit]

theorem judgeOutputs_failures_eq_nil {scenario : Scenario} {run : Run σ} :
    (run.judgeOutputs scenario).failures = [] ↔
      run.failures = [] ∧
        (run.transcript.hasAnyErrorText = false ∨ scenario.tolerateErrorText = true) := by
  unfold judgeOutputs
  cases observed : run.transcript.hasAnyErrorText with
  | false => simp
  | true =>
      cases scenario.tolerateErrorText with
      | true => simp
      | false =>
          have printed : ¬ ∀ role ∈ Role.all, run.transcript.hasErrorText role = false := by
            simpa [Transcript.hasAnyErrorText] using observed
          rw [if_pos (show (true && !false) = true from rfl), foldl_failures_eq_nil
            (fun transcript role => transcript.hasErrorText role = false)
            (judgeOutput_adds scenario) (fun _ _ => judgeOutput_failures_eq_nil)]
          simp [printed]

/-- Nothing fails after a drive that went well exactly when the four conditions hold. -/
theorem judge_failures_eq_nil {scenario : Scenario} {run : Run σ}
    (satisfied : run.handshakeSatisfied = true) :
    (run.judge scenario).failures = [] ↔
      run.failures = [] ∧ (∀ role ∈ scenario.activeRoles, (run.exitState role).isFailure = false) ∧
        (run.exitState .client).isClean = true ∧
        (run.transcript.hasAnyErrorText = false ∨ scenario.tolerateErrorText = true) := by
  obtain ⟨more, added⟩ := judgeExits_adds scenario run
  have same : (run.judgeExits scenario).transcript = run.transcript := by rw [added]
  rw [judge, judgeOutputs_failures_eq_nil, judgeExits_failures_eq_nil satisfied, same, and_assoc,
    and_assoc]

theorem judge_session (scenario : Scenario) (run : Run σ) :
    (run.judge scenario).session = run.session := by
  obtain ⟨more, added⟩ := judge_adds scenario run
  rw [added]

theorem judge_transcript (scenario : Scenario) (run : Run σ) :
    (run.judge scenario).transcript = run.transcript := by
  obtain ⟨more, added⟩ := judge_adds scenario run
  rw [added]

theorem judge_handshakeSatisfied (scenario : Scenario) (run : Run σ) :
    (run.judge scenario).handshakeSatisfied = run.handshakeSatisfied := by
  obtain ⟨more, added⟩ := judge_adds scenario run
  rw [added]

theorem judge_phases (scenario : Scenario) (run : Run σ) :
    (run.judge scenario).phases = run.phases := by
  obtain ⟨more, added⟩ := judge_adds scenario run
  rw [added]

theorem judge_teardownFailures (scenario : Scenario) (run : Run σ) :
    (run.judge scenario).teardownFailures = run.teardownFailures := by
  obtain ⟨more, added⟩ := judge_adds scenario run
  rw [added]

theorem aggregate_session (world : World σ) (scenario : Scenario) (run : Run σ) :
    (run.aggregate world scenario).2.session = run.session :=
  judge_session scenario run

theorem aggregate_handshakeSatisfied (world : World σ) (scenario : Scenario) (run : Run σ) :
    (run.aggregate world scenario).1.handshakeSatisfied = run.handshakeSatisfied :=
  judge_handshakeSatisfied scenario run

theorem aggregate_errorTextObserved (world : World σ) (scenario : Scenario) (run : Run σ) :
    (run.aggregate world scenario).1.errorTextObserved = run.transcript.hasAnyErrorText :=
  congrArg Transcript.hasAnyErrorText (judge_transcript scenario run)

theorem aggregate_findings (world : World σ) (scenario : Scenario) (run : Run σ) :
    (run.aggregate world scenario).1.findings = run.transcript.findings.toList :=
  congrArg (fun transcript => transcript.findings.toList) (judge_transcript scenario run)

theorem aggregate_findingsDropped (world : World σ) (scenario : Scenario) (run : Run σ) :
    (run.aggregate world scenario).1.findingsDropped = run.transcript.dropped :=
  congrArg Transcript.dropped (judge_transcript scenario run)

theorem aggregate_failures (world : World σ) (scenario : Scenario) (run : Run σ) :
    (run.aggregate world scenario).1.failures = (run.judge scenario).failures :=
  rfl

theorem aggregate_teardownFailures (world : World σ) (scenario : Scenario) (run : Run σ) :
    (run.aggregate world scenario).1.teardownFailures = run.teardownFailures :=
  judge_teardownFailures scenario run

theorem aggregate_liveAfterTeardown (world : World σ) (scenario : Scenario) (run : Run σ) :
    (run.aggregate world scenario).1.liveAfterTeardown =
      (run.session.processes.filter RoleProcess.isAlive).length :=
  congrArg (fun session => (session.processes.filter RoleProcess.isAlive).length)
    (judge_session scenario run)

theorem aggregate_phases (world : World σ) (scenario : Scenario) (run : Run σ) :
    (run.aggregate world scenario).2.phases =
      run.phases ++ [if (run.aggregate world scenario).1.passed then .done else .failed] :=
  congrArg (· ++ [if (run.judge scenario).passed then Phase.done else Phase.failed])
    (judge_phases scenario run)

theorem failures_eq_nil_of_aggregate (world : World σ) {scenario : Scenario} {run : Run σ}
    (none : (run.aggregate world scenario).1.failures = []) : run.failures = [] := by
  have judged : (run.judge scenario).failures = [] := none
  obtain ⟨more, added⟩ := judge_adds scenario run
  rw [added] at judged
  exact (List.append_eq_nil_iff.mp judged).1

/-- A run passes exactly when nothing failed, provided that its drive failed if the marker was missed. -/
theorem aggregate_passed_iff (world : World σ) (scenario : Scenario) {run : Run σ}
    (satisfied : run.failures = [] → run.handshakeSatisfied = true) :
    (run.aggregate world scenario).1.passed = true ↔
      (run.aggregate world scenario).1.failures = [] := by
  have passed : (run.aggregate world scenario).1.passed = (run.judge scenario).passed := rfl
  have failures : (run.aggregate world scenario).1.failures = (run.judge scenario).failures := rfl
  have client : (run.judge scenario).exitState .client = run.exitState .client := by
    obtain ⟨more, added⟩ := judge_adds scenario run
    rw [added]
    rfl
  rw [passed, failures, Run.passed, Bool.and_eq_true, Bool.and_eq_true, List.isEmpty_iff,
    judge_handshakeSatisfied, client]
  constructor
  · rintro ⟨⟨-, none⟩, -⟩
    exact none
  · intro none
    have found := satisfied (failures_eq_nil_of_aggregate world none)
    exact ⟨⟨found, none⟩, ((judge_failures_eq_nil found).mp none).2.2.1⟩

end Run

end Rendezvous
