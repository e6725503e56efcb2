import Rendezvous.Proofs.Run.Changes

/-!
The course of a drive.

A drive enters its phases and starts its roles in order and stops where
something fails, so there are five ways in which it can end.  `Stands` follows
the books of the run through its parts.
-/

set_option autoImplicit false

namespace Rendezvous

namespace Run

variable {σ : Type}

/-- What the books of a run without failures say, and which roles were started. -/
structure Stands (run : Run σ) (phases : List Phase) (satisfied : Bool) (roles : List Role) :
    Prop where
  phases : run.phases = phases
  handshakeSatisfied : run.handshakeSatisfied = satisfied
  roles : run.roles = roles
  failures : run.failures = []
  teardownFailures : run.teardownFailures = []

theorem start_stands (world : World σ) (transcript : Transcript) (outside : σ) :
    (Run.start world transcript outside).Stands [] false [] :=
  ⟨rfl, rfl, rfl, rfl, rfl⟩

namespace Stands

variable {phases : List Phase} {satisfied : Bool} {roles : List Role}

theorem enter {run : Run σ} (stands : run.Stands phases satisfied roles) (phase : Phase) :
    (run.enter phase).Stands (phases ++ [phase]) satisfied roles :=
  ⟨congrArg (· ++ [phase]) stands.phases, stands.handshakeSatisfied, stands.roles,
    stands.failures, stands.teardownFailures⟩

theorem frame {run after : Run σ} (stands : run.Stands phases satisfied roles)
    (frame : run.Frame after) : after.Stands phases satisfied roles :=
  ⟨frame.phases.trans stands.phases, frame.handshakeSatisfied.trans stands.handshakeSatisfied,
    frame.roles.trans stands.roles, frame.failures.trans stands.failures,
    frame.teardownFailures.trans stands.teardownFailures⟩

variable {world : World σ} {scenario : Scenario} {run after : Run (σ × Journal)}

theorem launch_ok {role : Role} (stands : run.Stands phases satisfied roles)
    (launched : run.launch world.recorded scenario role = (.ok (), after)) :
    after.Stands phases satisfied (roles ++ [role]) := by
  have books := launch_sameBooks world scenario role run
  rw [launched] at books
  refine ⟨books.phases.trans stands.phases, books.handshakeSatisfied.trans
    stands.handshakeSatisfied, ?_, books.failures.trans stands.failures,
    books.teardownFailures.trans stands.teardownFailures⟩
  rw [launch_roles_of_ok launched, stands.roles]

theorem launch_error {role : Role} {cause : Error} (stands : run.Stands phases satisfied roles)
    (launched : run.launch world.recorded scenario role = (.error cause, after)) :
    after.Stands phases satisfied roles := by
  have books := launch_sameBooks world scenario role run
  rw [launched] at books
  refine ⟨books.phases.trans stands.phases, books.handshakeSatisfied.trans
    stands.handshakeSatisfied, ?_, books.failures.trans stands.failures,
    books.teardownFailures.trans stands.teardownFailures⟩
  rw [launch_roles_of_error launched, stands.roles]

theorem awaitServer_ok {more : Nat} (stands : run.Stands phases satisfied roles)
    (waited : run.awaitServer world.recorded scenario more = (.ok (), after)) :
    after.Stands phases true roles := by
  have steps := awaitMarker_steps world scenario more run
  have later := stands.frame steps.frame
  rcases awaitServer_cases world.recorded scenario more run with
    ⟨line, -, ended⟩ | ⟨-, cause, ended⟩ <;> rw [waited] at ended <;> cases ended
  exact ⟨later.phases, rfl, later.roles, later.failures, later.teardownFailures⟩

theorem awaitServer_error {more : Nat} {cause : Error} (stands : run.Stands phases satisfied roles)
    (waited : run.awaitServer world.recorded scenario more = (.error cause, after)) :
    after.Stands phases satisfied roles := by
  have steps := awaitMarker_steps world scenario more run
  rcases awaitServer_cases world.recorded scenario more run with
    ⟨line, -, ended⟩ | ⟨-, cause, ended⟩ <;> rw [waited] at ended <;> cases ended
  exact stands.frame steps.frame

theorem launchClients_ok (stands : run.Stands phases satisfied roles)
    (launched : run.launchClients world.recorded scenario = (.ok (), after)) :
    after.Stands phases satisfied
      (roles ++ .client :: if scenario.hasHelper then [.clientHelper] else []) := by
  unfold launchClients at launched
  rcases client : run.launch world.recorded scenario .client with ⟨_ | _, launching⟩ <;>
    rw [client] at launched
  · cases launched
  · have started := stands.launch_ok client
    dsimp only at launched
    split at launched
    · next helper => simpa [helper] using started.launch_ok launched
    · next helper =>
        cases launched
        simpa [helper] using started

end Stands

/-- How the wait for the marker of a scenario ends, if its server can be started. -/
def markerWait (world : World σ) (scenario : Scenario) (more : Nat) (run : Run σ) :
    Option (Except Error Handshake) :=
  match (run.enter .serverStarting).launch world scenario .server with
  | (.error _, _) => none
  | (.ok (), run) =>
      let run := run.enter .awaitingHandshake
      some (Handshake.await world (run.serverTarget world scenario) more run.session
        run.transcript).1

theorem markerWait_of_ok {world : World σ} {scenario : Scenario} {more : Nat}
    {run starting waiting : Run σ}
    (server : (run.enter .serverStarting).launch world scenario .server = (.ok (), starting))
    (marker : (starting.enter .awaitingHandshake).awaitServer world scenario more =
      (.ok (), waiting)) :
    ∃ line, run.markerWait world scenario more = some (.ok (.found line)) := by
  rcases awaitServer_cases world scenario more (starting.enter .awaitingHandshake) with
    ⟨line, found, -⟩ | ⟨-, cause, ended⟩
  · exact ⟨line, by simp only [markerWait, server, found]⟩
  · rw [marker] at ended
    cases ended

theorem markerWait_of_error {world : World σ} {scenario : Scenario} {more : Nat} {cause : Error}
    {run starting waiting : Run σ}
    (server : (run.enter .serverStarting).launch world scenario .server = (.ok (), starting))
    (marker : (starting.enter .awaitingHandshake).awaitServer world scenario more =
      (.error cause, waiting)) :
    ∀ line, run.markerWait world scenario more ≠ some (.ok (.found line)) := by
  rcases awaitServer_cases world scenario more (starting.enter .awaitingHandshake) with
    ⟨line, found, ended⟩ | ⟨missed, -⟩
  · rw [marker] at ended
    cases ended
  · intro line found
    simp only [markerWait, server, Option.some.injEq] at found
    exact missed line found

/--
How a drive can end: with its outcome, the end of the wait for the marker,
whether the marker was found, the phases that were entered and the roles that
were started.
-/
inductive Course (scenario : Scenario) : Except Error Unit → Option (Except Error Handshake) →
    Bool → List Phase → List Role → Prop where
  | serverNotStarted (cause : Error) :
      Course scenario (.error cause) none false [.serverStarting] []
  | markerNotFound (cause : Error) {waited : Option (Except Error Handshake)}
      (missed : ∀ line, waited ≠ some (.ok (.found line))) :
      Course scenario (.error cause) waited false [.serverStarting, .awaitingHandshake] [.server]
  | clientNotStarted (cause : Error) (line : String) :
      Course scenario (.error cause) (some (.ok (.found line))) true
        [.serverStarting, .awaitingHandshake, .clientStarting] [.server]
  | helperNotStarted (cause : Error) (line : String) :
      Course scenario (.error cause) (some (.ok (.found line))) true
        [.serverStarting, .awaitingHandshake, .clientStarting] [.server, .client]
  | allStarted (outcome : Except Error Unit) (line : String) :
      Course scenario outcome (some (.ok (.found line))) true
        [.serverStarting, .awaitingHandshake, .clientStarting, .running]
        (.server :: .client :: if scenario.hasHelper then [.clientHelper] else [])

section

variable {scenario : Scenario} {outcome : Except Error Unit}
  {waited : Option (Except Error Handshake)} {satisfied : Bool} {phases : List Phase}
  {roles : List Role}

theorem Course.satisfied_of_ok (course : Course scenario outcome waited satisfied phases roles)
    (went : outcome = .ok ()) : satisfied = true := by
  cases course with
  | serverNotStarted | markerNotFound => cases went
  | clientNotStarted | helperNotStarted | allStarted => rfl

theorem Course.satisfied_iff (course : Course scenario outcome waited satisfied phases roles) :
    satisfied = true ↔ ∃ line, waited = some (.ok (.found line)) := by
  cases course with
  | serverNotStarted => simp
  | markerNotFound _ missed => exact iff_of_false (by simp) fun ⟨line, found⟩ => missed line found
  | clientNotStarted | helperNotStarted | allStarted => simp

/-- The phases of a drive are the first ones of four, one of them at least. -/
theorem Course.phases_prefix (course : Course scenario outcome waited satisfied phases roles) :
    phases ≠ [] ∧
      phases <+: [.serverStarting, .awaitingHandshake, .clientStarting, .running] := by
  cases course <;> decide

theorem Course.clientStarting_mem_iff
    (course : Course scenario outcome waited satisfied phases roles) :
    .clientStarting ∈ phases ↔ satisfied = true := by
  cases course <;> decide

/-- A role that takes part is the first of those that do if no other role precedes it. -/
theorem filter_active_cons {role : Role} (rest : List Role)
    (active : (scenario.roles.get role).isSome = true) :
    (role :: rest).filter (fun role => (scenario.roles.get role).isSome) =
      role :: rest.filter fun role => (scenario.roles.get role).isSome :=
  List.filter_cons_of_pos (p := fun role => (scenario.roles.get role).isSome) active

/-- The roles that were started are the first ones of those that take part. -/
theorem Course.roles_prefix (course : Course scenario outcome waited satisfied phases roles)
    (active : ∀ role ∈ roles, role ∈ scenario.activeRoles) : roles <+: scenario.activeRoles := by
  have isActive : ∀ role ∈ roles, (scenario.roles.get role).isSome = true :=
    fun role membership => (List.mem_filter.mp (active role membership)).2
  unfold Scenario.activeRoles Role.all
  cases course with
  | serverNotStarted => exact List.nil_prefix
  | markerNotFound | clientNotStarted =>
      rw [filter_active_cons _ (isActive .server (by simp))]
      exact List.prefix_append [_] _
  | helperNotStarted =>
      rw [filter_active_cons _ (isActive .server (by simp)),
        filter_active_cons _ (isActive .client (by simp))]
      exact List.prefix_append [_, _] _
  | allStarted =>
      rw [filter_active_cons _ (isActive .server (by simp)),
        filter_active_cons _ (isActive .client (by simp))]
      by_cases helper : scenario.hasHelper = true
      · have isHelper : (scenario.roles.get .clientHelper).isSome = true := helper
        rw [if_pos helper, filter_active_cons _ isHelper]
        exact List.prefix_refl _
      · rw [if_neg helper]
        exact List.prefix_append [_, _] _

theorem Course.roles_of_missed (course : Course scenario outcome waited satisfied phases roles)
    (missed : satisfied = false) : ∀ role ∈ roles, role = .server := by
  cases course with
  | serverNotStarted | markerNotFound => simp
  | clientNotStarted | helperNotStarted | allStarted => cases missed

end

theorem drive_course (world : World σ) (scenario : Scenario) (more : Nat)
    {run : Run (σ × Journal)} (stands : run.Stands [] false []) :
    ∃ satisfied phases roles,
      (run.drive world.recorded scenario more).2.Stands phases satisfied roles ∧
        Course scenario (run.drive world.recorded scenario more).1
          (run.markerWait world.recorded scenario more) satisfied phases roles := by
  have starting := stands.enter .serverStarting
  have drive := drive_drive world.recorded scenario more run
  generalize run.drive world.recorded scenario more = result at drive
  cases drive with
  | serverNotStarted server =>
      refine ⟨_, _, _, starting.launch_error server, ?_⟩
      have none : run.markerWait world.recorded scenario more = none := by
        simp only [markerWait, server]
      rw [none]
      exact .serverNotStarted _
  | markerNotFound server marker =>
      have waiting := (starting.launch_ok server).enter .awaitingHandshake
      exact ⟨_, _, _, waiting.awaitServer_error marker,
        .markerNotFound _ (markerWait_of_error server marker)⟩
  | clientNotStarted server marker client =>
      have waiting := (starting.launch_ok server).enter .awaitingHandshake
      have launching := (waiting.awaitServer_ok marker).enter .clientStarting
      obtain ⟨line, found⟩ := markerWait_of_ok server marker
      rw [found]
      exact ⟨_, _, _, launching.launch_error client, .clientNotStarted _ line⟩
  | helperNotStarted server marker client helper =>
      have waiting := (starting.launch_ok server).enter .awaitingHandshake
      have launching := (waiting.awaitServer_ok marker).enter .clientStarting
      obtain ⟨line, found⟩ := markerWait_of_ok server marker
      rw [found]
      exact ⟨_, _, _, (launching.launch_ok client).launch_error helper, .helperNotStarted _ line⟩
  | allStarted server marker clients =>
      have waiting := (starting.launch_ok server).enter .awaitingHandshake
      have launching := (waiting.awaitServer_ok marker).enter .clientStarting
      have running := (launching.launchClients_ok clients).enter .running
      obtain ⟨line, found⟩ := markerWait_of_ok server marker
      rw [found]
      exact ⟨_, _, _, running.frame (awaitClient_steps world scenario more _).frame,
        .allStarted _ line⟩

namespace Advances

variable {world : World σ} {scenario : Scenario} {start run after : Run (σ × Journal)}

theorem enter (advances : Advances scenario start run) (phase : Phase) :
    Advances scenario start (run.enter phase) :=
  advances.tail (enter_advance scenario run phase)

theorem launch {role : Role} {outcome : Except Error Unit}
    (advances : Advances scenario start run) (fresh : role ∉ run.roles)
    (launched : run.launch world.recorded scenario role = (outcome, after)) :
    Advances scenario start after := by
  have started := launch_advances world scenario fresh
  rw [launched] at started
  exact advances.trans started

theorem awaitServer {more : Nat} {outcome : Except Error Unit}
    (advances : Advances scenario start run)
    (waited : run.awaitServer world.recorded scenario more = (outcome, after)) :
    Advances scenario start after := by
  have steps := awaitMarker_steps world scenario more run
  rcases awaitServer_cases world.recorded scenario more run with
    ⟨line, -, ended⟩ | ⟨-, cause, ended⟩ <;> rw [waited] at ended <;> cases ended
  · exact (advances.trans (steps.advances scenario)).tail (.note _ _ true _)
  · exact advances.trans (steps.advances scenario)

theorem launchClients {outcome : Except Error Unit} (advances : Advances scenario start run)
    (server : run.roles = [.server])
    (launched : run.launchClients world.recorded scenario = (outcome, after)) :
    Advances scenario start after := by
  unfold Run.launchClients at launched
  rcases client : run.launch world.recorded scenario .client with ⟨_ | _, launching⟩ <;>
    rw [client] at launched <;> have first := advances.launch (by simp [server]) client
  · cases launched
    exact first
  · dsimp only at launched
    split at launched
    · exact first.launch (by simp [launch_roles_of_ok client, server]) launched
    · cases launched
      exact first

end Advances

/-- What a drive does once it has tried to start the server. -/
theorem launch_drive_advances (world : World σ) (scenario : Scenario) (more : Nat)
    {run : Run (σ × Journal)} (stands : run.Stands [] false []) :
    Advances scenario ((run.enter .serverStarting).launch world.recorded scenario .server).2
      (run.drive world.recorded scenario more).2 := by
  have starting := stands.enter .serverStarting
  unfold drive
  rcases server : (run.enter .serverStarting).launch world.recorded scenario .server with
    ⟨_ | _, serving⟩
  · exact .refl
  have serverStarted : Advances scenario serving (serving.enter .awaitingHandshake) :=
    Advances.enter .refl .awaitingHandshake
  have waiting := (starting.launch_ok server).enter .awaitingHandshake
  dsimp only
  rcases marker : (serving.enter .awaitingHandshake).awaitServer world.recorded scenario more with
    ⟨_ | _, found⟩
  · exact serverStarted.awaitServer marker
  have markerFound := (serverStarted.awaitServer marker).enter .clientStarting
  have launching := (waiting.awaitServer_ok marker).enter .clientStarting
  dsimp only
  rcases clients : (found.enter .clientStarting).launchClients world.recorded scenario with
    ⟨_ | _, running⟩
  · exact markerFound.launchClients launching.roles clients
  · have clientsStarted := (markerFound.launchClients launching.roles clients).enter .running
    exact clientsStarted.trans ((awaitClient_steps world scenario more _).advances scenario)

theorem drive_advances (world : World σ) (scenario : Scenario) (more : Nat)
    {run : Run (σ × Journal)} (stands : run.Stands [] false []) :
    Advances scenario run (run.drive world.recorded scenario more).2 := by
  have begun : Advances scenario run (run.enter .serverStarting) :=
    Advances.enter .refl .serverStarting
  have fresh : .server ∉ (run.enter .serverStarting).roles := by
    simp [(stands.enter .serverStarting).roles]
  exact (begun.launch fresh rfl).trans (launch_drive_advances world scenario more stands)

end Run

end Rendezvous
