import Rendezvous.Proofs.Run.Failures

/-!
What it means to tolerate error text.

Whether error text is tolerated makes no difference before the verdict.  There it
takes away the failures that are about error text after the handshake, and nothing
else, so a crash or a timeout cannot hide behind it.
-/

set_option autoImplicit false

namespace Rendezvous

/-- The same scenario with error text tolerated or not. -/
def Scenario.tolerating (scenario : Scenario) (tolerated : Bool) : Scenario :=
  { scenario with tolerateErrorText := tolerated }

theorem FailureKind.ofError_ne_errorText (cause : Error) : ofError cause ≠ .errorText := by
  cases cause <;> nofun

theorem FailureKind.ofExit_ne_errorText (role : Role) : ofExit role ≠ .errorText := by
  cases role <;> nofun

namespace Failure

/-- The failures that are about something else than error text after the handshake. -/
def besidesText (failures : List Failure) : List Failure :=
  failures.filter fun failure => failure.kind ≠ .errorText

theorem besidesText_eq_nil_iff {failures : List Failure} :
    besidesText failures = [] ↔ ∀ failure ∈ failures, failure.kind = .errorText := by
  simp [besidesText]

theorem besidesText_append {first second : List Failure}
    (others : ∀ failure ∈ first, failure.kind ≠ .errorText)
    (texts : ∀ failure ∈ second, failure.kind = .errorText) :
    besidesText (first ++ second) = first := by
  have kept : besidesText first = first :=
    List.filter_eq_self.mpr fun failure membership => decide_eq_true (others failure membership)
  have dropped : besidesText second = [] := besidesText_eq_nil_iff.mpr texts
  rw [besidesText, List.filter_append, ← besidesText, ← besidesText, kept, dropped,
    List.append_nil]

end Failure

/--
Two results of the same run, which may differ in what is tolerated and therefore in
their failures and their verdicts.
-/
structure RunResult.SameRun (first second : RunResult) : Prop where
  roles : first.roles = second.roles
  handshakeSatisfied : first.handshakeSatisfied = second.handshakeSatisfied
  errorTextObserved : first.errorTextObserved = second.errorTextObserved
  findings : first.findings = second.findings
  findingsDropped : first.findingsDropped = second.findingsDropped
  teardownFailures : first.teardownFailures = second.teardownFailures
  liveAfterTeardown : first.liveAfterTeardown = second.liveAfterTeardown
  elapsedSeconds : first.elapsedSeconds = second.elapsedSeconds

namespace Run

variable {σ : Type}

section

variable (world : World σ) (scenario : Scenario) (tolerated : Bool) (more : Nat) (run : Run σ)

theorem launch_tolerating (role : Role) :
    run.launch world (scenario.tolerating tolerated) role = run.launch world scenario role :=
  rfl

theorem awaitServer_tolerating : run.awaitServer world (scenario.tolerating tolerated) more =
    run.awaitServer world scenario more :=
  rfl

theorem launchClients_tolerating : run.launchClients world (scenario.tolerating tolerated) =
    run.launchClients world scenario :=
  rfl

theorem awaitClient_tolerating : run.awaitClient world (scenario.tolerating tolerated) more =
    run.awaitClient world scenario more :=
  rfl

theorem drive_tolerating : run.drive world (scenario.tolerating tolerated) more =
    run.drive world scenario more := by
  simp only [drive, launch_tolerating, awaitServer_tolerating, launchClients_tolerating,
    awaitClient_tolerating]

theorem driven_tolerating : run.driven world (scenario.tolerating tolerated) more =
    run.driven world scenario more := by
  rw [driven, drive_tolerating]
  rfl

theorem windDown_tolerating (wentWell : Bool) :
    run.windDown world (scenario.tolerating tolerated) more wentWell =
      run.windDown world scenario more wentWell :=
  rfl

theorem stopAll_tolerating : run.stopAll world (scenario.tolerating tolerated) more =
    run.stopAll world scenario more :=
  rfl

theorem teardown_tolerating (wentWell : Bool) :
    run.teardown world (scenario.tolerating tolerated) more wentWell =
      run.teardown world scenario more wentWell := by
  simp only [teardown, windDown_tolerating, stopAll_tolerating]

/-- Nothing that happens before the verdict depends on what is tolerated. -/
theorem settle_tolerating : run.settle world (scenario.tolerating tolerated) more =
    run.settle world scenario more := by
  simp only [settle, driven_tolerating, teardown_tolerating]

/-- The ends of the processes are judged alike. -/
theorem judgeExits_tolerating : run.judgeExits (scenario.tolerating tolerated) =
    run.judgeExits scenario :=
  rfl

theorem aggregate_sameRun (first second : Bool) :
    (run.aggregate world (scenario.tolerating first)).1.SameRun
      (run.aggregate world (scenario.tolerating second)).1 where
  roles := rfl
  handshakeSatisfied := by simp only [aggregate_handshakeSatisfied]
  errorTextObserved := by simp only [aggregate_errorTextObserved]
  findings := by simp only [aggregate_findings]
  findingsDropped := by simp only [aggregate_findingsDropped]
  teardownFailures := by simp only [aggregate_teardownFailures]
  liveAfterTeardown := by simp only [aggregate_liveAfterTeardown]
  elapsedSeconds := by
    obtain ⟨added, judged⟩ := judge_adds (scenario.tolerating first) run
    obtain ⟨others, judgedOthers⟩ := judge_adds (scenario.tolerating second) run
    simp only [aggregate, judged, judgedOthers]
    rfl

end

/-- None of the failures is about error text after the handshake. -/
def WithoutText (run : Run σ) : Prop :=
  ∀ failure ∈ run.failures, failure.kind ≠ .errorText

theorem WithoutText.fail {run : Run σ} (without : run.WithoutText) (scenario : Scenario)
    {kind : FailureKind} (other : kind ≠ .errorText) (role : Role) (reason : String) :
    (run.fail scenario kind role reason).WithoutText := by
  intro failure membership
  rcases List.mem_append.mp membership with earlier | new
  · exact without failure earlier
  · rw [List.mem_singleton.mp new]
    exact other

theorem WithoutText.judgeExit {run : Run σ} (without : run.WithoutText) (scenario : Scenario)
    (report : RoleReport) : (run.judgeExit scenario report).WithoutText := by
  unfold Run.judgeExit
  split
  · exact without.fail scenario (FailureKind.ofExit_ne_errorText report.role) _ _
  · exact without

theorem WithoutText.judgeClient {run : Run σ} (without : run.WithoutText) (scenario : Scenario) :
    (run.judgeClient scenario).WithoutText := by
  unfold Run.judgeClient
  dsimp only
  split
  · exact without.fail scenario (by decide) _ _
  · exact without

theorem WithoutText.judgeExits {run : Run σ} (without : run.WithoutText) (scenario : Scenario) :
    (run.judgeExits scenario).WithoutText := by
  unfold Run.judgeExits
  split
  · refine WithoutText.judgeClient ?_ scenario
    exact List.foldlRecOn _ _ without fun _ judged report _ => judged.judgeExit scenario report
  · exact without

/-- A tolerant verdict stops at the ends of the processes. -/
theorem judge_tolerating_true (scenario : Scenario) (run : Run σ) :
    run.judge (scenario.tolerating true) = run.judgeExits scenario := by
  rw [judge, judgeExits_tolerating, judgeOutputs]
  simp [Scenario.tolerating]

/-- A strict verdict goes on, but what it adds is about error text. -/
theorem judge_tolerating_false (scenario : Scenario) (run : Run σ) :
    ∃ texts, (run.judge (scenario.tolerating false)).failures =
        (run.judgeExits scenario).failures ++ texts ∧
      ∀ failure ∈ texts, failure.kind = .errorText := by
  obtain ⟨exits, judged⟩ := judgeExits_adds scenario run
  have judgedOutputs := judgeOutputs_eq (scenario.tolerating false) run exits
  rw [judge, judgeExits_tolerating, judged, ← withMore, judgedOutputs]
  refine ⟨_, (List.append_assoc _ _ _).symm, fun failure membership => ?_⟩
  split at membership
  · obtain ⟨role, -, rfl⟩ := List.mem_map.mp membership
    rfl
  · cases membership

theorem aggregate_tolerating_failures (world : World σ) (scenario : Scenario) {run : Run σ}
    (without : run.WithoutText) :
    (run.aggregate world (scenario.tolerating true)).1.failures =
      Failure.besidesText (run.aggregate world (scenario.tolerating false)).1.failures := by
  obtain ⟨texts, strict, about⟩ := judge_tolerating_false scenario run
  rw [aggregate_failures, aggregate_failures, judge_tolerating_true, strict,
    Failure.besidesText_append (without.judgeExits scenario) about]

theorem driveFailures_withoutText (scenario : Scenario) (outcome : Except Error Unit × Run σ) :
    ∀ failure ∈ driveFailures scenario outcome, failure.kind ≠ .errorText := by
  rcases outcome with ⟨cause | _, run⟩
  · intro failure membership
    rw [List.mem_singleton.mp membership]
    exact FailureKind.ofError_ne_errorText cause
  · nofun

/-- Toleration saves the runs in which nothing but the output failed, and no others. -/
theorem aggregate_tolerating_passed (world : World σ) (scenario : Scenario) {run : Run σ}
    (without : run.WithoutText)
    (satisfied : run.failures = [] → run.handshakeSatisfied = true) :
    let tolerant := (run.aggregate world (scenario.tolerating true)).1
    let strict := (run.aggregate world (scenario.tolerating false)).1
    (strict.passed = true → tolerant.passed = true) ∧
      (tolerant.passed ≠ strict.passed ↔
        strict.failures ≠ [] ∧ ∀ failure ∈ strict.failures, failure.kind = .errorText) := by
  intro tolerant strict
  have strictly : strict.passed = true ↔ strict.failures = [] :=
    aggregate_passed_iff world (scenario.tolerating false) satisfied
  have tolerantly : tolerant.passed = true ↔
      ∀ failure ∈ strict.failures, failure.kind = .errorText := by
    rw [← Failure.besidesText_eq_nil_iff, ← aggregate_tolerating_failures world scenario without]
    exact aggregate_passed_iff world (scenario.tolerating true) satisfied
  have implied : strict.passed = true → tolerant.passed = true := by
    intro passed
    rw [tolerantly, strictly.mp passed]
    nofun
  refine ⟨implied, ?_⟩
  rw [← tolerantly, ne_eq strict.failures, ← strictly]
  cases passed : strict.passed with
  | true => simp [implied passed]
  | false => simp

/--
The same run is driven and torn down whether error text is tolerated or not.  Then
the tolerant result differs from the strict one in that it lacks the failures about
error text after the handshake; a failure because of error text before the handshake
stays.  So toleration saves exactly the runs in which nothing else has failed.
-/
theorem tolerance_removes_errorText (world : World σ) (scenario : Scenario) (more : Nat)
    (transcript : Transcript) (outside : σ) :
    let start := Run.start world transcript outside
    let settled := start.settle world scenario more
    let tolerant := (settled.aggregate world (scenario.tolerating true)).1
    let strict := (settled.aggregate world (scenario.tolerating false)).1
    (∀ tolerated, transcriptOf (scenario.tolerating tolerated) = transcriptOf scenario ∧
      start.settle world (scenario.tolerating tolerated) more = settled ∧
      start.complete world (scenario.tolerating tolerated) more =
        settled.aggregate world (scenario.tolerating tolerated)) ∧
    tolerant.SameRun strict ∧
    tolerant.failures = strict.failures.filter (fun failure => failure.kind ≠ .errorText) ∧
    (strict.passed = true → tolerant.passed = true) ∧
    (tolerant.passed ≠ strict.passed ↔
      strict.failures ≠ [] ∧ ∀ failure ∈ strict.failures, failure.kind = .errorText) := by
  intro start settled
  have same : ∀ tolerated, start.settle world (scenario.tolerating tolerated) more = settled :=
    fun tolerated => settle_tolerating world scenario tolerated more start
  have failures : settled.failures = driveFailures scenario (start.drive world scenario more) :=
    start_settle_failures world scenario more transcript outside
  obtain ⟨_, _, _, course, -, found, -, none⟩ :=
    start_settle_course world scenario more transcript outside
  have satisfied : settled.failures = [] → settled.handshakeSatisfied = true := by
    intro unblamed
    exact found.trans (course.satisfied_of_ok (none.mp unblamed))
  have finished : ∀ tolerated, start.complete world (scenario.tolerating tolerated) more =
      settled.aggregate world (scenario.tolerating tolerated) := by
    intro tolerated
    rw [complete, same]
  -- from here on it only matters what the drive has left in the books
  generalize settled = settled at same failures satisfied finished
  have without : settled.WithoutText := by
    rw [WithoutText, failures]
    exact driveFailures_withoutText scenario _
  exact ⟨fun tolerated => ⟨rfl, same tolerated, finished tolerated⟩,
    aggregate_sameRun world scenario settled true false,
    aggregate_tolerating_failures world scenario without,
    aggregate_tolerating_passed world scenario without satisfied⟩

end Run

end Rendezvous
