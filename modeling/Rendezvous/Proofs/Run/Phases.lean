import Rendezvous.Proofs.Run.Accounts

/-!
The phases of a whole run, and what is started in which of them.

A client is never started against a server that is not ready, and no run leaves
out its teardown.
-/

set_option autoImplicit false

namespace Rendezvous

namespace Run

variable {σ : Type}

/-- A role without a process is reported as not started. -/
theorem report_of_not_started {run : Run σ} {role : Role} (missing : role ∉ run.roles) :
    run.report role = ⟨role, none, none, .notStarted⟩ := by
  have none : run.process? role = none := Session.process?_eq_none missing
  rw [report, none]

/-- When only the server was started, no other role has a process or a line. -/
theorem only_server (world : World σ) {scenario : Scenario} {run : Run σ}
    (server : ∀ role ∈ run.roles, role = .server) :
    ∀ report ∈ (run.aggregate world scenario).1.roles, report.role ≠ .server →
      report = ⟨report.role, none, none, .notStarted⟩ := by
  intro report membership other
  obtain ⟨role, -, rfl⟩ := List.mem_map.mp membership
  rw [report_role] at other ⊢
  exact report_of_not_started fun started => other (server role started)

/--
A run enters the first phases of a drive, one at least, then its teardown, then
`done` or `failed`.  The processes that were started belong to the first roles of
the scenario.  The client is started only when the wait for the marker of the
server found it; when it did not, the client and the helper were never started
and nothing of them was observed.
-/
theorem phases_in_order (world : World σ) (scenario : Scenario) (more : Nat)
    (scanner : Scanner) (quiet writable : Bool) (limit : Nat) (outside : σ) :
    let initial : Transcript := { Transcript.start scanner quiet limit with writable }
    let start := Run.start world initial outside
    let settled := start.settle world scenario more
    let outcome := complete world scenario more start
    let journal := (recorded world scenario more initial outside).2.journal
    (∃ entered final, entered ≠ [] ∧
      entered <+: [.serverStarting, .awaitingHandshake, .clientStarting, .running] ∧
      (final = .done ∨ final = .failed) ∧
      outcome.2.phases = entered ++ [.teardown, final]) ∧
    outcome.2.roles <+: scenario.activeRoles ∧
    journal.launches = outcome.2.session.processes.map RoleProcess.commandLine ∧
    (.clientStarting ∈ outcome.2.phases ↔ outcome.1.handshakeSatisfied = true) ∧
    (outcome.1.handshakeSatisfied = true ↔
      ∃ line, start.markerWait world scenario more = some (.ok (.found line))) ∧
    (outcome.1.handshakeSatisfied = false →
      (∀ report ∈ outcome.1.roles, report.role ≠ .server →
        report = ⟨report.role, none, none, .notStarted⟩) ∧
      ∃ lines, settled.Observed initial journal lines ∧ ∀ line ∈ lines, line.role = .server) := by
  intro initial start settled outcome journal
  obtain ⟨satisfied, phases, roles, course, entered, found, started, -⟩ :=
    start_settle_course world scenario more initial outside
  obtain ⟨lines, observed⟩ := settle_observed world scenario more initial outside
  have planned := start_settle_planned world scenario more initial outside
  have launches := start_settle_launched world scenario more initial outside
  have session : outcome.2.session = settled.session :=
    aggregate_session world scenario settled
  have result : outcome.1.handshakeSatisfied = satisfied :=
    (aggregate_handshakeSatisfied world scenario settled).trans found
  have rolesStarted : outcome.2.roles = roles :=
    (congrArg (fun session => session.processes.map RoleProcess.role) session).trans started
  have ended : outcome.2.phases =
      phases ++ [.teardown, if outcome.1.passed then .done else .failed] := by
    refine (aggregate_phases world scenario settled).trans ?_
    rw [entered, List.append_assoc]
    rfl
  refine ⟨⟨phases, _, course.phases_prefix.1, course.phases_prefix.2, ?_, ended⟩, ?_, ?_, ?_, ?_,
    ?_⟩
  · cases outcome.1.passed
    · exact Or.inr rfl
    · exact Or.inl rfl
  · rw [rolesStarted]
    refine course.roles_prefix fun role membership => ?_
    rw [← started] at membership
    obtain ⟨process, place, rfl⟩ := List.mem_map.mp membership
    exact Scenario.mem_activeRoles_of_commandLine (planned process place)
  · rw [Journal.launches_eq, launches, session, List.map_map]
    rfl
  · rw [ended, result, ← course.clientStarting_mem_iff]
    cases outcome.1.passed <;> simp
  · rw [result]
    exact course.satisfied_iff
  · intro missed
    have only : ∀ role ∈ settled.roles, role = .server := by
      rw [started]
      exact course.roles_of_missed (result.symm.trans missed)
    exact ⟨only_server world only, lines, observed,
      fun line membership => only line.role (observed.owned line membership)⟩

end Run

end Rendezvous
