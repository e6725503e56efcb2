import Rendezvous.Proofs.Run.Blame
import Rendezvous.Proofs.Run.Survivors

/-!
The failures of a whole run, one by one.

What ended the drive comes first, then the roles that ended with a failure
status, then the roles that printed error text, and no role comes twice.  A drive
goes well only when the client has ended on its own, so that its end is judged
with the others and nothing else is left to be said about it.
-/

set_option autoImplicit false

namespace Rendezvous

theorem RoleProcess.exitStatus_of_isFinished {process : RoleProcess} {now linger : Duration}
    (finished : process.isFinished now linger = true) :
    ∃ status, process.exitStatus? = some status := by
  refine exitStatus_of_ended (Bool.eq_false_iff.mpr fun alive => ?_)
  rw [isFinished, Option.isNone_iff_eq_none.mp alive] at finished
  cases finished

theorem ExitState.isClean_or_isFailure (status : ExitStatus) :
    (ofStatus status).isClean = true ∨ (ofStatus status).isFailure = true := by
  cases status with
  | code value => by_cases zero : value = 0 <;> simp [ofStatus, isClean, isFailure, zero]
  | signal number => exact Or.inr rfl

namespace Run

variable {σ : Type}

theorem awaitClient_finished {world : World σ} {scenario : Scenario} {more : Nat}
    {run after : Run σ} (waited : run.awaitClient world scenario more = (.ok (), after)) :
    clientFinished after.session.processes (after.now world) = true := by
  obtain ⟨passes, ended⟩ := drainUntil_waited world true
    (.after (run.now world) scenario.timeouts.run) clientFinished more run
  unfold awaitClient at waited
  dsimp only at waited
  rcases drained : drainUntil world true (.after (run.now world) scenario.timeouts.run)
    clientFinished more run with ⟨_ | _ | _, last⟩ <;> rw [drained] at waited ended <;>
    cases waited
  exact ended.held rfl

theorem drive_finished {world : World σ} {scenario : Scenario} {more : Nat} {run : Run σ}
    (went : (run.drive world scenario more).1 = .ok ()) :
    clientFinished (run.drive world scenario more).2.session.processes
      ((run.drive world scenario more).2.now world) = true := by
  have drive := drive_drive world scenario more run
  generalize run.drive world scenario more = result at drive went
  cases drive with
  | serverNotStarted | markerNotFound | clientNotStarted | helperNotStarted => cases went
  | allStarted server marker clients => exact awaitClient_finished (Prod.ext went rfl)

theorem Course.client_mem_of_ok {scenario : Scenario} {outcome : Except Error Unit}
    {waited : Option (Except Error Handshake)} {satisfied : Bool} {phases : List Phase}
    {roles : List Role} (course : Course scenario outcome waited satisfied phases roles)
    (went : outcome = .ok ()) : .client ∈ roles := by
  cases course with
  | serverNotStarted | markerNotFound | clientNotStarted | helperNotStarted => cases went
  | allStarted => exact List.mem_cons_of_mem _ List.mem_cons_self

/-- When a drive went well, the client has ended and was not stopped. -/
theorem drive_clientEnded (world : World σ) {scenario : Scenario} {more : Nat}
    {run : Run (σ × Journal)} (stands : run.Stands [] false []) (noted : run.session.EndsNoted)
    (quiet : run.journal.signals = [])
    (went : (run.drive world.recorded scenario more).1 = .ok ()) :
    ∃ process ∈ (run.drive world.recorded scenario more).2.session.processes,
      process.role = .client ∧ process.wasStopped = false ∧
        ∃ status, process.exitStatus? = some status := by
  have finished := drive_finished went
  have advances := drive_advances world scenario more stands
  obtain ⟨satisfied, phases, roles, after, course⟩ := drive_course world scenario more stands
  have started := course.client_mem_of_ok went
  rw [← after.roles] at started
  generalize (run.drive world.recorded scenario more).2 = driven at finished advances started
  obtain ⟨process, membership, client⟩ := List.mem_map.mp started
  have ended : process.isFinished (driven.now world.recorded) Handshake.linger = true :=
    List.all_eq_true.mp finished process
      (List.mem_filter.mpr ⟨membership, decide_eq_true client⟩)
  refine ⟨process, membership, client, ?_, RoleProcess.exitStatus_of_isFinished ended⟩
  -- no signal was sent during the drive, so none was sent before this end
  obtain ⟨index, found⟩ := List.mem_iff_getElem?.mp membership
  have stops := (advances.reaches.endsNoted noted).stops index
  rw [Session.wasStopped_of_getElem? found] at stops
  refine Bool.eq_false_iff.mpr fun stopped => ?_
  exact Journal.not_stopsBeforeEnd_of_signals (advances.quiet.signals.trans quiet) index
    (stops.mp stopped)

/-- The end of the client stays what it was when the drive was over. -/
theorem settle_clientEnded (world : World σ) {scenario : Scenario} {more : Nat}
    {run : Run (σ × Journal)} (stands : run.Stands [] false []) (noted : run.session.EndsNoted)
    (quiet : run.journal.signals = [])
    (went : (run.drive world.recorded scenario more).1 = .ok ()) :
    ∃ process ∈ (run.settle world.recorded scenario more).session.processes,
      process.role = .client ∧ ∃ status, process.exitState = .ofStatus status := by
  obtain ⟨process, membership, client, spared, status, ended⟩ :=
    drive_clientEnded world stands noted quiet went
  have driven : run.driven world.recorded scenario more =
      (true, (run.drive world.recorded scenario more).2) := by
    unfold Run.driven
    rcases drive : run.drive world.recorded scenario more with ⟨_ | _, after⟩
    · rw [drive] at went
      cases went
    · rfl
  have torn := teardown_tornDown world scenario more
    (run.driven world.recorded scenario more).1 (run.driven world.recorded scenario more).2
  have settled : run.settle world.recorded scenario more =
    (run.driven world.recorded scenario more).2.teardown world.recorded scenario more
      (run.driven world.recorded scenario more).1 := rfl
  rw [settled]
  obtain ⟨index, found⟩ := List.mem_iff_getElem?.mp membership
  obtain ⟨later, foundLater, continues⟩ := torn.processes.each index process (driven ▸ found)
  obtain ⟨record, recorded, rfl⟩ := Option.map_eq_some_iff.mp ended
  have same : later.exitStatus? = some record.status := by
    rw [RoleProcess.exitStatus?, continues.exit record recorded, Option.map_some]
  have dead : process.isAlive = false := by
    rw [RoleProcess.isAlive, recorded]
    rfl
  refine ⟨later, List.mem_of_getElem? foundLater, continues.role.trans client, record.status, ?_⟩
  rw [RoleProcess.exitState_of_exitStatus same, continues.wasStopped dead, spared]
  rfl

/-- What is recorded about the end of a drive: nothing if it went well. -/
def driveFailures (scenario : Scenario) : Except Error Unit × Run σ → List Failure
  | (.ok (), _) => []
  | (.error cause, run) =>
      [⟨.ofError cause, cause.role?, cause.message,
        (cause.role?.map (run.tail scenario)).getD []⟩]

theorem driveFailures_forget (scenario : Scenario)
    (outcome : Except Error Unit × Run (σ × Journal)) :
    driveFailures scenario (Prod.map id forget outcome) = driveFailures scenario outcome := by
  rcases outcome with ⟨_ | _, _⟩ <;> rfl

theorem driven_failures {world : World σ} {scenario : Scenario} {more : Nat} {run : Run σ}
    (none : (run.drive world scenario more).2.failures = []) :
    (run.driven world scenario more).2.failures =
      driveFailures scenario (run.drive world scenario more) := by
  unfold Run.driven
  generalize run.drive world scenario more = outcome at none
  rcases outcome with ⟨cause | _, ended⟩
  · exact (congrArg (· ++ _) none).trans (List.nil_append _)
  · exact none

theorem settle_failures (world : World σ) (scenario : Scenario) (more : Nat)
    {run : Run (σ × Journal)} (stands : run.Stands [] false []) :
    (run.settle world.recorded scenario more).failures =
      driveFailures scenario (run.drive world.recorded scenario more) := by
  obtain ⟨satisfied, phases, roles, after, -⟩ := drive_course world scenario more stands
  have torn := teardown_tornDown world scenario more
    (run.driven world.recorded scenario more).1 (run.driven world.recorded scenario more).2
  exact torn.failures.trans (driven_failures after.failures)

theorem start_settle_failures (world : World σ) (scenario : Scenario) (more : Nat)
    (transcript : Transcript) (outside : σ) :
    ((Run.start world transcript outside).settle world scenario more).failures =
      driveFailures scenario ((Run.start world transcript outside).drive world scenario more) := by
  have failures := settle_failures world scenario more
    (start_stands world.recorded transcript (outside, []))
  rw [start_settle world scenario more transcript outside, ← forget_start world, ← drive_forget,
    driveFailures_forget, ← failures]
  rfl

/-- When the drive went well, the client is reported with its own end. -/
theorem start_settle_clientEnded (world : World σ) (scenario : Scenario) (more : Nat)
    (transcript : Transcript) (outside : σ)
    (went : ((Run.start world transcript outside).drive world scenario more).1 = .ok ()) :
    ∃ status, ((Run.start world transcript outside).settle world scenario more).exitState
      .client = .ofStatus status := by
  rw [← forget_start world, ← drive_forget] at went
  obtain ⟨process, membership, client, status, ended⟩ := settle_clientEnded world
    (start_stands world.recorded transcript (outside, []))
    (start_endsNoted world transcript outside) rfl went
  obtain ⟨lines, observed⟩ := settle_observed world scenario more transcript outside
  have distinct := observed.roles
  rw [start_settle world scenario more transcript outside] at distinct ⊢
  generalize (Run.start world.recorded transcript (outside, [])).settle world.recorded scenario
    more = settled at membership distinct
  have found := process?_of_nodup distinct membership
  rw [client] at found
  exact ⟨status, (congrArg (fun process => (process.map RoleProcess.exitState).getD .notStarted)
    found).trans ended⟩

section

variable {scenario : Scenario} {run : Run σ}

/-- A run in which the ends of all roles were judged one by one. -/
def withExits (scenario : Scenario) (run : Run σ) : Run σ :=
  (scenario.activeRoles.map run.report).foldl (judgeExit scenario) run

/-- A role that ended on its own takes part in the run. -/
theorem Planned.mem_activeRoles {role : Role} {status : ExitStatus}
    (planned : run.Planned scenario) (ended : run.exitState role = .ofStatus status) :
    role ∈ scenario.activeRoles := by
  cases found : run.process? role with
  | none =>
      rw [exitState, found] at ended
      cases status <;> cases ended
  | some process =>
      obtain ⟨membership, rfl⟩ := Session.process?_eq_some found
      exact Scenario.mem_activeRoles_of_commandLine (planned process membership)

theorem activeRoles_nodup (scenario : Scenario) : scenario.activeRoles.Nodup :=
  List.Nodup.filter _ (by decide)

theorem withExits_eq (scenario : Scenario) (run : Run σ) :
    run.withExits scenario = run.withMore (Failure.further run.failures scenario.activeRoles
      (fun role => (run.exitState role).isFailure) (run.exitFailure scenario)) := by
  have judged := (judgeExit_blames scenario run).foldl _ (activeRoles_nodup scenario) []
  rw [withMore_nil, List.nil_append, List.append_nil] at judged
  rw [withExits, List.foldl_map]
  exact judged

/-- A client that ended on its own is clean, or its end is among the failures. -/
theorem clean_of_withExits (active : .client ∈ scenario.activeRoles)
    (ended : ∃ status, run.exitState .client = .ofStatus status)
    (none : (run.withExits scenario).failures = []) :
    ((run.withExits scenario).exitState .client).isClean = true := by
  obtain ⟨status, own⟩ := ended
  rw [withExits_eq] at none ⊢
  obtain ⟨before, added⟩ := List.append_eq_nil_iff.mp none
  have same : ∀ added, (run.withMore added).exitState .client = run.exitState .client :=
    fun _ => rfl
  rw [same, own]
  refine (ExitState.isClean_or_isFailure status).resolve_right fun failed => ?_
  rw [Failure.further, List.map_eq_nil_iff, List.filter_eq_nil_iff] at added
  refine added .client active ?_
  rw [own, failed, before]
  rfl

/-- When the client ended on its own or something has failed, nothing is left to say about it. -/
theorem judgeExits_eq
    (clean : run.handshakeSatisfied = true → (run.withExits scenario).failures = [] →
      ((run.withExits scenario).exitState .client).isClean = true) :
    run.judgeExits scenario = run.withMore (if run.handshakeSatisfied then
      Failure.further run.failures scenario.activeRoles
        (fun role => (run.exitState role).isFailure) (run.exitFailure scenario)
      else []) := by
  unfold judgeExits
  split
  · next satisfied =>
      rw [← withExits_eq, ← withExits, judgeClient]
      -- the client would be looked at once more only if nothing had failed
      refine if_neg fun blamed => ?_
      obtain ⟨none, unclean⟩ := (Bool.and_eq_true _ _).mp blamed
      rw [clean satisfied (List.isEmpty_iff.mp none)] at unclean
      cases unclean
  · exact (withMore_nil run).symm

theorem judgeOutputs_eq (scenario : Scenario) (run : Run σ) (added : List Failure) :
    (run.withMore added).judgeOutputs scenario = run.withMore (added ++
      if run.transcript.hasAnyErrorText && !scenario.tolerateErrorText then
        Failure.further (run.failures ++ added) Role.all run.transcript.hasErrorText
          (run.textFailure scenario)
      else []) := by
  have same : (run.withMore added).transcript = run.transcript := rfl
  unfold judgeOutputs
  rw [same]
  split
  · exact (judgeOutput_blames scenario run).foldl Role.all (by decide) added
  · rw [List.append_nil]

end

/-- A role has printed error text when a line of it that was observed contains a signature. -/
theorem Observed.hasErrorText {initial : Transcript} {journal : Journal} {run : Run σ}
    {lines : List Line} (observed : run.Observed initial journal lines)
    (fresh : ∀ role, initial.hits.get role = 0) :
    run.transcript.hasErrorText =
      fun role => lines.any fun line => line.role = role && initial.scanner.hasError line.text := by
  funext role
  rw [Bool.eq_iff_iff, Transcript.hasErrorText_iff, observed.transcript,
    Transcript.observeAll_hits, fresh, Nat.zero_add, List.countP_pos_iff, List.any_eq_true]

/-- The failures of a run that was torn down and whose client is clean or was blamed. -/
theorem aggregate_failures_eq (world : World σ) {scenario : Scenario} {run : Run σ}
    (planned : run.Planned scenario)
    (clean : run.handshakeSatisfied = true → (run.withExits scenario).failures = [] →
      ((run.withExits scenario).exitState .client).isClean = true) :
    let result := (run.aggregate world scenario).1
    let exits := if result.handshakeSatisfied then
      Failure.further run.failures scenario.activeRoles
        (fun role => (result.exitState role).isFailure) (run.exitFailure scenario)
      else []
    let texts := if result.errorTextObserved && !scenario.tolerateErrorText then
      Failure.further (run.failures ++ exits) Role.all run.transcript.hasErrorText
        (run.textFailure scenario)
      else []
    result.failures = run.failures ++ exits ++ texts := by
  intro result exits texts
  have exitState : result.exitState = run.exitState := funext (aggregate_exitState world planned)
  have satisfied : result.handshakeSatisfied = run.handshakeSatisfied :=
    aggregate_handshakeSatisfied world scenario run
  have text : result.errorTextObserved = run.transcript.hasAnyErrorText :=
    aggregate_errorTextObserved world scenario run
  simp only [texts, exits, exitState, satisfied, text]
  rw [aggregate_failures, judge, judgeExits_eq clean, judgeOutputs_eq, List.append_assoc]
  rfl

theorem aggregate_oneEach (world : World σ) {scenario : Scenario} {run : Run σ}
    (planned : run.Planned scenario)
    (clean : run.handshakeSatisfied = true → (run.withExits scenario).failures = [] →
      ((run.withExits scenario).exitState .client).isClean = true)
    (oneEach : Failure.OneEach run.failures) :
    Failure.OneEach (run.aggregate world scenario).1.failures := by
  rw [aggregate_failures_eq world planned clean]
  exact (oneEach.further (fun _ => rfl) (activeRoles_nodup scenario) _ _).further
    (fun _ => rfl) (by decide) _ _

theorem driveFailures_oneEach (scenario : Scenario) (outcome : Except Error Unit × Run σ) :
    Failure.OneEach (driveFailures scenario outcome) := by
  rcases outcome with ⟨cause | _, run⟩
  · rcases role : cause.role? <;> constructor <;> simp [driveFailures, Failure.roles, role]
  · exact ⟨List.nodup_nil, Nat.zero_le 1⟩

/-- The client of a run is clean, or something of it has failed before the client is looked at. -/
theorem start_settle_clean (world : World σ) (scenario : Scenario) (more : Nat)
    (transcript : Transcript) (outside : σ) :
    let settled := (Run.start world transcript outside).settle world scenario more
    (settled.withExits scenario).failures = [] →
      ((settled.withExits scenario).exitState .client).isClean = true := by
  intro settled none
  have before : settled.failures = [] := by
    rw [withExits_eq] at none
    exact (List.append_eq_nil_iff.mp none).1
  obtain ⟨-, -, -, -, -, -, -, went⟩ := start_settle_course world scenario more transcript outside
  have planned := start_settle_planned world scenario more transcript outside
  obtain ⟨status, ended⟩ := start_settle_clientEnded world scenario more transcript outside
    (went.mp before)
  exact clean_of_withExits (planned.mem_activeRoles ended) ⟨status, ended⟩ none

/-- Besides what ended the drive, a run fails by ends and by texts that were found after it. -/
theorem complete_failures (world : World σ) (scenario : Scenario) (more : Nat)
    (transcript : Transcript) (outside : σ) :
    let start := Run.start world transcript outside
    let settled := start.settle world scenario more
    ∃ rest, (complete world scenario more start).1.failures =
        driveFailures scenario (start.drive world scenario more) ++ rest ∧
      ∀ failure ∈ rest, ∃ role, failure = settled.exitFailure scenario role ∨
        failure = settled.textFailure scenario role := by
  intro start settled
  have planned := start_settle_planned world scenario more transcript outside
  have clean := start_settle_clean world scenario more transcript outside
  have failures := aggregate_failures_eq world planned fun _ => clean
  dsimp only at failures
  rw [start_settle_failures world scenario more transcript outside, List.append_assoc] at failures
  refine ⟨_, failures, fun failure membership => ?_⟩
  rcases List.mem_append.mp membership with exits | texts
  · obtain ⟨role, same⟩ := Failure.mem_further exits
    exact ⟨role, Or.inl same⟩
  · obtain ⟨role, same⟩ := Failure.mem_further texts
    exact ⟨role, Or.inr same⟩

/--
The failures of a run are the one that ended its drive, then those of the active
roles that ended with a failure status, which count once the marker was found,
then those of the roles that printed error text, unless that is tolerated.  No
role comes twice.  A drive goes well only when the client has ended on its own, so
a client that is not clean has been blamed before it is looked at once more.
-/
theorem failures_in_order (world : World σ) (scenario : Scenario) (more : Nat)
    (scanner : Scanner) (quiet writable : Bool) (limit : Nat) (outside : σ) :
    let initial : Transcript := { Transcript.start scanner quiet limit with writable }
    let start := Run.start world initial outside
    let drive := start.drive world scenario more
    let settled := start.settle world scenario more
    let result := (complete world scenario more start).1
    let journal := (recorded world scenario more initial outside).2.journal
    let fatal := driveFailures scenario drive
    let exits := if result.handshakeSatisfied then
      Failure.further fatal scenario.activeRoles
        (fun role => (result.exitState role).isFailure) (settled.exitFailure scenario)
      else []
    (∃ lines, settled.Observed initial journal lines ∧
      result.failures = fatal ++ exits ++
        if result.errorTextObserved && !scenario.tolerateErrorText then
          Failure.further (fatal ++ exits) Role.all
            (fun role => lines.any fun line => line.role = role && scanner.hasError line.text)
            (settled.textFailure scenario)
        else []) ∧
    Failure.OneEach result.failures ∧
    (drive.1 = .ok () →
      (∃ code, result.exitState .client = .exited code) ∨
        ∃ signal, result.exitState .client = .signaled signal) ∧
    (settled.handshakeSatisfied = true → (settled.withExits scenario).failures = [] →
      ((settled.withExits scenario).exitState .client).isClean = true) := by
  intro initial start drive settled result journal fatal exits
  obtain ⟨lines, observed⟩ := settle_observed world scenario more initial outside
  have planned := start_settle_planned world scenario more initial outside
  have clean := start_settle_clean world scenario more initial outside
  have failures : result.failures = _ := aggregate_failures_eq world planned fun _ => clean
  have fresh : ∀ role, initial.hits.get role = 0 := fun role => RoleTable.get_replicate 0 role
  rw [observed.hasErrorText fresh, start_settle_failures world scenario more initial outside]
    at failures
  refine ⟨⟨lines, observed, failures⟩, ?_, fun went => ?_, fun _ => clean⟩
  · have fatalOnly : Failure.OneEach settled.failures :=
      start_settle_failures world scenario more initial outside ▸ driveFailures_oneEach scenario _
    exact aggregate_oneEach world planned (fun _ => clean) fatalOnly
  · obtain ⟨status, ended⟩ := start_settle_clientEnded world scenario more initial outside went
    have reported : result.exitState .client = .ofStatus status :=
      (aggregate_exitState world planned .client).trans ended
    rw [reported]
    cases status with
    | code value => exact Or.inl ⟨value, rfl⟩
    | signal number => exact Or.inr ⟨number, rfl⟩

end Run

end Rendezvous
