import Mathlib.Data.List.Nodup
import Rendezvous.Proofs.Run.Ends
import Rendezvous.Proofs.Run.Verdict

/-!
Nothing survives a run.

What is promised of the world is that checks are answered, that its clock does not
go back, and that what is killed ends in time.  Then every process has ended when the
verdict is found, and the way in which it ended is told apart by the signals that it
got before.
-/

set_option autoImplicit false

namespace Rendezvous

variable {σ : Type}

namespace Run

theorem settle_eq (world : World σ) (scenario : Scenario) (more : Nat) (run : Run σ) :
    run.settle world scenario more =
      (((run.wound world scenario more).stopAll world scenario more).collectRest
        world).reapGroups world :=
  rfl

section

variable {world : World σ} {scenario : Scenario} {more : Nat} {run : Run (σ × Journal)}

/-- Before the stopping begins nothing was killed and nothing given up on. -/
theorem wound_untouched (stands : run.Stands [] false []) (noted : run.session.EndsNoted)
    (signals : run.journal.signals = []) (kills : run.journal.kills = []) :
    let wound := run.wound world.recorded scenario more
    wound.session.EndsNoted ∧ wound.journal.signals = [] ∧ wound.journal.kills = [] ∧
      wound.teardownFailures = [] := by
  have advances := (driven_advances world scenario more stands).enter .teardown
  have waited := windDown_steps world scenario more (run.driven world.recorded scenario more).1
    (run.driven world.recorded scenario more).2
  have quiet := advances.quiet.trans waited.quiet
  refine ⟨?_, quiet.signals.trans signals, quiet.kills.trans kills, ?_⟩
  · exact Reaches.endsNoted (advances.reaches.trans (waited.reaches scenario)) noted
  · exact (waited.frame.teardownFailures.trans advances.teardownFailures).trans
      stands.teardownFailures

theorem wound_answered (answered : (run.settle world.recorded scenario more).journal.Answered) :
    ((run.wound world.recorded scenario more).endAll world.recorded scenario
      more).2.journal.Answered := by
  rw [settle_eq] at answered
  have grown := ((cleanUp_endings world ((run.wound world.recorded scenario more).stopAll
    world.recorded scenario more)).reaches scenario).journal_grows
  rw [stopAll_journal] at grown
  exact answered.earlier grown

theorem settle_putToRest (stands : run.Stands [] false []) (noted : run.session.EndsNoted)
    (signals : run.journal.signals = []) (kills : run.journal.kills = [])
    (answered : (run.settle world.recorded scenario more).journal.Answered)
    (clock : world.Monotonic) (dies : world.KillsWithin Session.killWait)
    (fits : (run.graced world.recorded scenario more).KillWaitFits world.recorded more) :
    (run.settle world.recorded scenario more).PutToRest
      (run.stopping world.recorded scenario more) (run.graced world.recorded scenario more)
      (run.settle world.recorded scenario more).journal := by
  obtain ⟨woundNoted, quiet, spared, none⟩ := wound_untouched stands noted signals kills
  have stopped := wound_answered answered
  rw [settle_eq] at answered ⊢
  unfold graced stopping at *
  exact stopAll_putToRest woundNoted quiet spared none answered
    (endAll_over clock dies stopped fits)

theorem settle_teardownFailures (stands : run.Stands [] false []) (noted : run.session.EndsNoted)
    (signals : run.journal.signals = []) (kills : run.journal.kills = [])
    (answered : (run.settle world.recorded scenario more).journal.Answered)
    (clock : world.Monotonic) {span : Duration}
    (dies : world.KillsWithin ⟨Session.killWait.nanos - span.nanos⟩)
    (fits : (run.graced world.recorded scenario more).KillWaitFits world.recorded more)
    (takes : (run.graced world.recorded scenario more).KillPassesTake world.recorded more span) :
    (run.settle world.recorded scenario more).teardownFailures = [] := by
  obtain ⟨-, -, -, none⟩ := wound_untouched stands noted signals kills
  have stopped := wound_answered answered
  rw [settle_eq]
  unfold graced stopping at *
  exact (cleanUp_endings world _).frame.teardownFailures.trans
    (stopAll_teardownFailures none (endAll_ended clock dies stopped fits takes))

theorem settle_graceOver (answered : (run.settle world.recorded scenario more).journal.Answered)
    (alive : (run.graced world.recorded scenario more).session.living ≠ []) :
    GraceOver world.recorded scenario more (run.stopping world.recorded scenario more)
      (run.graced world.recorded scenario more) := by
  have stopped := wound_answered answered
  unfold graced stopping at *
  exact requestStops_graceOver (stopped.earlier (requestStops_grows alive)) alive

end

section

variable {world : World σ} {scenario : Scenario} {more : Nat} {transcript : Transcript}
  {outside : σ}

theorem start_settle_putToRest
    (answered : (recorded world scenario more transcript outside).2.journal.Answered)
    (clock : world.Monotonic) (dies : world.KillsWithin Session.killWait)
    (fits :
      ((Run.start world transcript outside).graced world scenario more).KillWaitFits world more) :
    ((Run.start world transcript outside).settle world scenario more).PutToRest
      ((Run.start world transcript outside).stopping world scenario more)
      ((Run.start world transcript outside).graced world scenario more)
      (recorded world scenario more transcript outside).2.journal := by
  have noted := start_endsNoted world transcript outside
  have stands := start_stands world.recorded transcript (outside, [])
  rw [recorded_journal] at answered ⊢
  rw [← forget_start world, ← graced_forget] at fits
  have rest := settle_putToRest stands noted rfl rfl answered clock dies fits.recorded
  rw [← forget_start world, ← settle_forget, ← stopping_forget, ← graced_forget]
  exact rest.forget

theorem start_settle_teardownFailures
    (answered : (recorded world scenario more transcript outside).2.journal.Answered)
    (clock : world.Monotonic) {span : Duration}
    (dies : world.KillsWithin ⟨Session.killWait.nanos - span.nanos⟩)
    (fits :
      ((Run.start world transcript outside).graced world scenario more).KillWaitFits world more)
    (takes : ((Run.start world transcript outside).graced world scenario more).KillPassesTake
      world more span) :
    ((Run.start world transcript outside).settle world scenario more).teardownFailures = [] := by
  have noted := start_endsNoted world transcript outside
  have stands := start_stands world.recorded transcript (outside, [])
  rw [recorded_journal] at answered
  rw [← forget_start world, ← graced_forget] at fits takes
  rw [← forget_start world, ← settle_forget, teardownFailures_forget]
  exact settle_teardownFailures stands noted rfl rfl answered clock dies fits.recorded
    takes.recorded

theorem start_settle_graceOver
    (answered : (recorded world scenario more transcript outside).2.journal.Answered)
    (alive :
      ((Run.start world transcript outside).graced world scenario more).session.living ≠ []) :
    GraceOver world scenario more
      ((Run.start world transcript outside).stopping world scenario more)
      ((Run.start world transcript outside).graced world scenario more) := by
  rw [recorded_journal] at answered
  rw [← forget_start world, ← graced_forget, living_forget] at alive
  rw [← forget_start world, ← graced_forget, ← stopping_forget]
  exact (settle_graceOver answered alive).forget

end

/-- The records of a run say what its journal says about the ends. -/
theorem start_settle_ends (world : World σ) (scenario : Scenario) (more : Nat)
    (transcript : Transcript) (outside : σ) (index : Nat) :
    let settled := (Run.start world transcript outside).settle world scenario more
    let journal := (recorded world scenario more transcript outside).2.journal
    settled.session.endOf index = journal.firstEnd index ∧
      (settled.session.wasStopped index = true ↔ journal.StopsBeforeEnd index) := by
  have noted := (settle_reaches world scenario more
    (start_stands world.recorded transcript (outside, []))).endsNoted
      (start_endsNoted world transcript outside)
  rw [recorded_journal, start_settle world scenario more transcript outside]
  generalize (Run.start world.recorded transcript (outside, [])).settle world.recorded scenario
    more = settled at noted ⊢
  exact ⟨noted.ends index, noted.stops index⟩

theorem process?_of_nodup {session : Session σ}
    (nodup : (session.processes.map RoleProcess.role).Nodup) {process : RoleProcess}
    (membership : process ∈ session.processes) :
    session.process? process.role = some process := by
  obtain ⟨other, found⟩ := Session.exists_process? (List.mem_map_of_mem membership)
  obtain ⟨place, same⟩ := Session.process?_eq_some found
  rw [found, List.inj_on_of_nodup_map nodup place membership same]

/-- A report says how the process ended, or that there was none. -/
theorem report_ne_running {run : Run σ} (none : run.session.living = []) (role : Role) :
    (run.report role).exit ≠ .running := by
  rw [report_exit, exitState]
  cases found : run.process? role with
  | none => simp
  | some process =>
      have ended := Session.living_eq_nil_iff.mp none process (Session.process?_eq_some found).1
      obtain ⟨⟨status, noticed, stopped⟩, recorded⟩ :=
        Option.isSome_iff_exists.mp (Option.isNone_eq_false_iff.mp ended)
      rw [Option.map_some, Option.getD_some, RoleProcess.exitState, recorded]
      cases stopped <;> cases status <;> simp [ExitState.ofStopped, ExitState.ofStatus]

/-- What the result tells about the processes of a run that has left nothing behind. -/
theorem PutToRest.result (world : World σ) {scenario : Scenario} {run stopping graced : Run σ}
    {journal : Journal} (rest : run.PutToRest stopping graced journal)
    (planned : run.Planned scenario) (nodup : run.roles.Nodup)
    (noted : ∀ index, run.session.endOf index = journal.firstEnd index ∧
      (run.session.wasStopped index = true ↔ journal.StopsBeforeEnd index)) :
    let result := (run.aggregate world scenario).1
    result.liveAfterTeardown = 0 ∧ result.teardownFailures = run.teardownFailures ∧
      (∀ report ∈ result.roles, report.exit ≠ .running) ∧
      ∀ index process, run.session.processes[index]? = some process →
        ∃ status, journal.firstEnd index = some status ∧
          (journal.StopsBeforeEnd index → result.exitState process.role = .ofStopped status) ∧
          (¬ journal.StopsBeforeEnd index → result.exitState process.role = .ofStatus status) := by
  have dead := Session.living_eq_nil_iff.mp rest.living
  refine ⟨?_, aggregate_teardownFailures .., ?_, ?_⟩
  · rw [aggregate_liveAfterTeardown, List.length_eq_zero_iff, List.filter_eq_nil_iff]
    exact fun process membership => Bool.eq_false_iff.mp (dead process membership)
  · intro report membership
    obtain ⟨role, -, rfl⟩ := List.mem_map.mp membership
    exact report_ne_running rest.living role
  · intro index process found
    have membership := List.mem_of_getElem? found
    obtain ⟨status, known⟩ := RoleProcess.exitStatus_of_ended (dead process membership)
    have reported : (run.aggregate world scenario).1.exitState process.role =
        if process.wasStopped then .ofStopped status else .ofStatus status := by
      rw [aggregate_exitState world planned, exitState, process?,
        process?_of_nodup nodup membership, ← RoleProcess.exitState_of_exitStatus known]
      rfl
    obtain ⟨ends, stops⟩ := noted index
    rw [Session.endOf_of_getElem? found, known] at ends
    rw [Session.wasStopped_of_getElem? found] at stops
    refine ⟨status, ends.symm, fun stopped => ?_, fun spared => ?_⟩
    · rw [reported, if_pos (stops.mpr stopped)]
    · rw [reported, if_neg fun stopped => spared (stops.mp stopped)]

/--
Provided that checks are answered and that what is killed ends in time, nothing
survives a run.  A role is reported as stopped when its process got a signal
before its end was found, and otherwise with its own end.  To stop were asked
exactly the processes that were alive when the stopping began, the last one
first, and only those of them that were alive after their time for that were
killed.

What the run has given up on was killed, and is found ended by the last pass of all.
There is nothing of that kind if a kill takes the time of one pass less than it may:
no pass of the wait for it begins when the time is up.
-/
theorem nothing_left_running (world : World σ) (scenario : Scenario) (more : Nat)
    (initial : Transcript) (outside : σ)
    (answered : (recorded world scenario more initial outside).2.journal.Answered)
    (clock : world.Monotonic) (kills : world.KillsWithin Session.killWait)
    (fits :
      ((Run.start world initial outside).graced world scenario more).KillWaitFits world more) :
    let start := Run.start world initial outside
    let settled := start.settle world scenario more
    let stopping := start.stopping world scenario more
    let graced := start.graced world scenario more
    let result := (complete world scenario more start).1
    let journal := (recorded world scenario more initial outside).2.journal
    result.liveAfterTeardown = 0 ∧
      (∀ failure ∈ result.teardownFailures, ∃ index ∈ graced.session.living, ∃ process,
        settled.session.processes[index]? = some process ∧
          failure = ⟨process.role, some process.pid, "still running 5s after SIGKILL"⟩) ∧
      (∀ span : Duration, world.KillsWithin ⟨Session.killWait.nanos - span.nanos⟩ →
        graced.KillPassesTake world more span → result.teardownFailures = []) ∧
      (∀ report ∈ result.roles, report.exit ≠ .running) ∧
      (∀ index process, settled.session.processes[index]? = some process →
        ∃ status, journal.firstEnd index = some status ∧
          (journal.StopsBeforeEnd index → result.exitState process.role = .ofStopped status) ∧
          (¬ journal.StopsBeforeEnd index → result.exitState process.role = .ofStatus status)) ∧
      settled.PutToRest stopping graced journal ∧
      (graced.session.living ≠ [] → GraceOver world scenario more stopping graced) := by
  dsimp only [complete]
  have rest := start_settle_putToRest answered clock kills fits
  have planned := start_settle_planned world scenario more initial outside
  obtain ⟨lines, observed⟩ := settle_observed world scenario more initial outside
  obtain ⟨live, failures, running, ended⟩ := rest.result world planned observed.roles
    (start_settle_ends world scenario more initial outside)
  rw [failures]
  exact ⟨live, rest.survivors,
    fun _ dies takes => start_settle_teardownFailures answered clock dies fits takes,
    running, ended, rest, start_settle_graceOver answered⟩

end Run

/--
A world of one process, which closes its streams at once, ignores requests to stop
and takes its time to die.
-/
structure Stubborn where
  clock : Duration := .zero
  killed : Option Duration := none

namespace Stubborn

/-- How the process has ended, if it was killed so long ago. -/
def status (delay : Duration) (state : Stubborn) : Option ExitStatus :=
  state.killed.bind fun time =>
    if time.nanos + delay.nanos ≤ state.clock.nanos then some (.signal 9) else none

def kill (state : Stubborn) : Stubborn :=
  { state with killed := some ((state.killed.getD state.clock).min state.clock) }

def pass (state : Stubborn) (time : Duration) : Stubborn :=
  { state with clock := ⟨state.clock.nanos + time.nanos⟩ }

def world (delay : Duration) : World Stubborn where
  now := clock
  launch _ _ state := (.ok 1000, state)
  status _ state := (.ok (state.status delay), state)
  read _ _ state := (.endOfFile, state)
  wait _ budget _ state := (.elapsed, state.pass budget)
  ready_mem _ _ _ _ _ _ _ woken := nomatch woken
  awaitExit _ budget state := (.ok ((state.pass budget).status delay), state.pass budget)
  signalGroup _ signal state := (.ok (), if signal = .kill then state.kill else state)
  killLeader _ state := (.ok (), state.kill)

/-- The process was killed at the given time or before. -/
def KilledBy (time : Duration) (state : Stubborn) : Prop :=
  ∃ first, state.killed = some first ∧ first.nanos ≤ time.nanos

theorem KilledBy.kill {time : Duration} {state : Stubborn} (killed : state.KilledBy time) :
    state.kill.KilledBy time := by
  obtain ⟨first, known, early⟩ := killed
  refine ⟨first.min state.clock, ?_, Nat.le_trans (Nat.min_le_left _ _) early⟩
  rw [Stubborn.kill, known, Option.getD_some]

theorem killedBy_kill (state : Stubborn) : state.kill.KilledBy state.clock :=
  ⟨(state.killed.getD state.clock).min state.clock, rfl, Nat.min_le_right _ _⟩

theorem KilledBy.later {delay time : Duration} {before after : Stubborn}
    (killed : before.KilledBy time) (goesOn : (world delay).Later before after) :
    after.KilledBy time := by
  induction goesOn with
  | refl => exact killed
  | tail _ asks inductionHypothesis =>
      cases asks with
      | status | read | wait | awaitExit => exact inductionHypothesis
      | killLeader => exact inductionHypothesis.kill
      | signalGroup _ signal =>
          cases signal
          · exact inductionHypothesis
          · exact inductionHypothesis.kill

theorem world_monotonic (delay : Duration) : (world delay).Monotonic := by
  intro before after asks
  cases asks with
  | status | read | killLeader => exact Nat.le_refl _
  | wait | awaitExit => exact Nat.le_add_right _ _
  | signalGroup _ signal => cases signal <;> exact Nat.le_refl _

theorem world_killsWithin {delay length : Duration} (within : delay.nanos ≤ length.nanos) :
    (world delay).KillsWithin length := by
  refine ⟨nofun, fun _ state later goesOn reached running => ?_⟩
  obtain ⟨first, known, early⟩ := (killedBy_kill state).later goesOn
  have past : first.nanos + delay.nanos ≤ later.clock.nanos := by
    have bound : state.clock.nanos + length.nanos ≤ later.clock.nanos := reached
    omega
  have ended : later.status delay = some (.signal 9) := by
    rw [Stubborn.status, known, Option.bind_some, if_pos past]
  have alive : later.status delay = none := Except.ok.inj running
  rw [ended] at alive
  cases alive

/-- A server that never gets ready. -/
def scenario : Scenario where
  mode := .serial
  launcher := ⟨none, ""⟩
  roles := ⟨some ⟨"server", 1, [], [], ⟨0, 0⟩, []⟩, none, none⟩
  tail := []
  env := []
  timeouts := ⟨.ofMillis 50, .ofMillis 50, .ofMillis 50, .ofMillis 50⟩
  marker := "ready"
  scanner := ⟨[]⟩
  tolerateErrorText := false
  quiet := true
  tailLines := 1
  historyLines := 1

def transcript : Transcript := Run.transcriptOf scenario

end Stubborn

/-- A server that has to be killed, and is found dead by the second pass after that. -/
theorem Run.stubborn_server_killed :
    let world := Stubborn.world (.ofMillis 10)
    let start := Run.start world Stubborn.transcript {}
    let graced := start.graced world Stubborn.scenario 5
    let result := (complete world Stubborn.scenario 5 start).1
    (recorded world Stubborn.scenario 5 Stubborn.transcript {}).2.journal.Answered ∧
      world.Monotonic ∧ world.KillsWithin Session.killWait ∧ graced.KillWaitFits world 5 ∧
      graced.KillPassesTake world 5 Session.pollInterval ∧ graced.session.living = [0] ∧
      result.liveAfterTeardown = 0 ∧ result.teardownFailures = [] := by
  have answered : (recorded (Stubborn.world (.ofMillis 10)) Stubborn.scenario 5 Stubborn.transcript
      {}).2.journal.Answered :=
    Journal.answered_of_all (by decide +kernel)
  have clock := Stubborn.world_monotonic (.ofMillis 10)
  have kills : (Stubborn.world (.ofMillis 10)).KillsWithin Session.killWait :=
    Stubborn.world_killsWithin (by decide)
  have fits : ((Run.start (Stubborn.world (.ofMillis 10)) Stubborn.transcript {}).graced
      (Stubborn.world (.ofMillis 10)) Stubborn.scenario 5).KillWaitFits
        (Stubborn.world (.ofMillis 10)) 5 :=
    ⟨1, by decide, Or.inr (by decide +kernel)⟩
  have takes : ((Run.start (Stubborn.world (.ofMillis 10)) Stubborn.transcript {}).graced
      (Stubborn.world (.ofMillis 10)) Stubborn.scenario 5).KillPassesTake
        (Stubborn.world (.ofMillis 10)) 5 Session.pollInterval := by
    unfold KillPassesTake
    decide +kernel
  obtain ⟨live, -, spared, -⟩ := nothing_left_running (Stubborn.world (.ofMillis 10))
    Stubborn.scenario 5 Stubborn.transcript {} answered clock kills fits
  exact ⟨answered, clock, kills, fits, takes, by decide +kernel, live,
    spared Session.pollInterval (Stubborn.world_killsWithin (by decide)) takes⟩

/--
A server that ends ten milliseconds before the time for a kill is over is given up on: the
last pass of the wait has asked for its end before.
-/
theorem Run.late_end_given_up :
    let world := Stubborn.world (.ofMillis 4990)
    let start := Run.start world Stubborn.transcript {}
    let result := (complete world Stubborn.scenario 250 start).1
    (recorded world Stubborn.scenario 250 Stubborn.transcript {}).2.journal.Answered ∧
      world.Monotonic ∧ world.KillsWithin Session.killWait ∧
      (start.graced world Stubborn.scenario 250).KillWaitFits world 250 ∧
      result.liveAfterTeardown = 0 ∧ result.exitState .server = .stopped none (some 9) ∧
      result.teardownFailures = [⟨.server, some 1000, "still running 5s after SIGKILL"⟩] := by
  refine ⟨Journal.answered_of_all (by decide +kernel), Stubborn.world_monotonic _,
    Stubborn.world_killsWithin (by decide), ⟨199, by decide, Or.inl (by decide +kernel)⟩,
    by decide +kernel, by decide +kernel, by decide +kernel⟩

end Rendezvous
