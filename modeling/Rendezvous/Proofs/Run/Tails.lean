import Mathlib.Data.List.DropRight
import Rendezvous.Proofs.Run.Failures
import Rendezvous.Proofs.Scenario.Decisions

/-!
Which lines a failure shows.

What a failure shows of a role are the last lines that were taken from it, cut
once where they entered its history and once more where the failure was noted.
The drive notes its failure before the teardown, so it shows what was taken until
then; the other failures are found when nothing is left to be taken.
-/

set_option autoImplicit false

namespace Rendezvous

/-- The texts of the last lines of a role, as many as a failure shows of what is kept. -/
def Scenario.lastTexts (scenario : Scenario) (role : Role) (lines : List Line) : List String :=
  ((Output.ofRole role lines).rtake (min scenario.tailLines scenario.historyLines)).map Line.text

/--
A failure shows the last of some lines of its role, and nothing if it has no role or
its role is not among those that were started.
-/
structure Failure.ShowsLast (failure : Failure) (scenario : Scenario) (started : List Role)
    (lines : List Line) : Prop where
  unnamed : failure.role = none → failure.tail = []
  absent : ∀ role, failure.role = some role → role ∉ started → failure.tail = []
  last : ∀ role, failure.role = some role → role ∈ started →
    failure.tail = scenario.lastTexts role lines

variable {σ : Type}

namespace Session

/-- How many lines the history of each process keeps, in start order. -/
def limits (session : Session σ) : List Nat :=
  session.processes.map fun process => process.history.limit

theorem Move.limits {before after : Session (σ × Journal)} (move : Move before after) :
    after.limits = before.limits := by
  cases move with
  | check found _ answer now _ =>
      apply map_set_eq found
      exact congrArg (fun heard => heard.2.2.2.limit) (RoleProcess.heard_afterCheck _ now answer)
  | receive found _ _ _ =>
      apply map_set_eq found
      rw [RoleProcess.setStream_history]
  | close found _ =>
      apply map_set_eq found
      rw [RoleProcess.setStream_history]
  | sleep _ => rfl

theorem Signal.limits {before after : Session (σ × Journal)} (signal : Signal before after) :
    after.limits = before.limits := by
  cases signal with
  | stop found _ _ _ => exact map_set_eq found rfl
  | kill _ _ _ _ => rfl
  | reap _ _ _ => rfl

theorem takeLines_limits (session : Session σ) : session.takeLines.2.limits = session.limits := by
  rw [limits, takeLines_processes, List.map_map]
  apply List.map_congr_left
  intro process _
  rw [Function.comp_apply, RoleProcess.takeLines_history, History.foldl_push_limit]

end Session

namespace Run

/-- Every history keeps as many lines as the scenario says, and one at least. -/
def Limited (scenario : Scenario) (run : Run σ) : Prop :=
  ∀ limit ∈ run.session.limits, limit = (History.empty scenario.historyLines).limit

theorem Change.limited {scenario : Scenario} {before after : Run (σ × Journal)}
    (change : Change scenario before after) (limited : before.Limited scenario) :
    after.Limited scenario := by
  cases change with
  | advance advance =>
      cases advance with
      | step step =>
          cases step with
          | move move =>
              intro limit membership
              apply limited
              rwa [← move.limits]
          | relay =>
              intro limit membership
              apply limited
              rwa [← Session.takeLines_limits]
      | note _ _ _ => exact limited
      | launched _ _ _ _ _ =>
          intro limit membership
          simp only [afterLaunch, Session.limits, List.map_append, List.mem_append] at membership
          rcases membership with old | new
          · exact limited limit old
          · exact List.mem_singleton.mp new
      | refused _ _ _ => exact limited
  | signal signal =>
      intro limit membership
      apply limited
      rwa [← signal.limits]
  | survivors => exact limited

theorem Reaches.limited {scenario : Scenario} {before after : Run (σ × Journal)}
    (reaches : Reaches scenario before after) (limited : before.Limited scenario) :
    after.Limited scenario :=
  reaches.keeps (fun _ _ change => change.limited) limited

/-- Each history was given the lines of its process, with the limit of the scenario. -/
def Keeps (scenario : Scenario) (lines : List Line) (run : Run σ) : Prop :=
  ∀ process ∈ run.session.processes, process.history =
    (Output.ofRole process.role lines).foldl History.push (.empty scenario.historyLines)

theorem Accounts.keeps {scenario : Scenario} {initial : Transcript} {run : Run (σ × Journal)}
    {lines : List Line} (accounts : run.Accounts initial lines) (limited : run.Limited scenario) :
    run.Keeps scenario lines := by
  intro process membership
  have limit : process.history.limit = (History.empty scenario.historyLines).limit :=
    limited _ (List.mem_map_of_mem membership)
  rw [accounts.ledger.histories process membership, limit, History.empty_limit]

section

variable {scenario : Scenario} {lines : List Line} {run : Run σ}

theorem tail_of_absent {role : Role} (absent : role ∉ run.roles) :
    run.tail scenario role = [] := by
  have none : run.process? role = none := Session.process?_eq_none absent
  rw [tail, none]

theorem Keeps.tail_of_started (keeps : run.Keeps scenario lines)
    (kept : 1 ≤ scenario.historyLines) {role : Role} (started : role ∈ run.roles) :
    run.tail scenario role = scenario.lastTexts role lines := by
  obtain ⟨process, found⟩ := Session.exists_process? started
  obtain ⟨membership, same⟩ := Session.process?_eq_some found
  have limit : Nat.max scenario.historyLines 1 = scenario.historyLines := Nat.max_eq_left kept
  rw [tail, process?, found]
  dsimp only
  rw [keeps process membership, History.foldl_push_empty, limit, History.tail, List.take_take,
    same, Scenario.lastTexts, List.rtake_eq_reverse_take_reverse]

theorem Keeps.shows_named (keeps : run.Keeps scenario lines) (kept : 1 ≤ scenario.historyLines)
    {failure : Failure} {role : Role} (named : failure.role = some role)
    (shown : failure.tail = run.tail scenario role) :
    failure.ShowsLast scenario run.roles lines := by
  refine ⟨fun unnamed => ?_, fun other own absent => ?_, fun other own started => ?_⟩
  · rw [named] at unnamed
    cases unnamed
  · obtain rfl : role = other := Option.some.inj (named.symm.trans own)
    exact shown.trans (tail_of_absent absent)
  · obtain rfl : role = other := Option.some.inj (named.symm.trans own)
    exact shown.trans (keeps.tail_of_started kept started)

theorem Keeps.shows_drive (keeps : run.Keeps scenario lines) (kept : 1 ≤ scenario.historyLines)
    (outcome : Except Error Unit) :
    ∀ failure ∈ driveFailures scenario (outcome, run),
      failure.ShowsLast scenario run.roles lines := by
  intro failure membership
  rcases outcome with cause | _
  · obtain rfl := List.mem_singleton.mp membership
    cases named : cause.role? with
    | none =>
        refine ⟨fun _ => rfl, fun role own => ?_, fun role own => ?_⟩ <;> cases own
    | some role => exact keeps.shows_named kept rfl rfl
  · cases membership

theorem Keeps.shows_judged (keeps : run.Keeps scenario lines) (kept : 1 ≤ scenario.historyLines)
    {failure : Failure} {role : Role} (judged : failure = run.exitFailure scenario role ∨
      failure = run.textFailure scenario role) :
    (failure.role = some role ∧ (failure.kind = .ofExit role ∨ failure.kind = .errorText)) ∧
      failure.ShowsLast scenario run.roles lines := by
  rcases judged with rfl | rfl
  · exact ⟨⟨rfl, Or.inl rfl⟩, keeps.shows_named kept rfl rfl⟩
  · exact ⟨⟨rfl, Or.inr rfl⟩, keeps.shows_named kept rfl rfl⟩

end

/-- The lines of a run: those that were taken when its drive ended, and all of them. -/
theorem settle_keeps (world : World σ) (scenario : Scenario) (more : Nat)
    (initial : Transcript) (outside : σ) :
    let start := Run.start world.recorded initial (outside, [])
    let driven := (start.drive world.recorded scenario more).2
    let settled := start.settle world.recorded scenario more
    ∃ soFar later, driven.Accounts initial soFar ∧ driven.Keeps scenario soFar ∧
      settled.Observed initial settled.journal (soFar ++ later) ∧
      settled.Keeps scenario (soFar ++ later) := by
  intro start driven settled
  have stands := start_stands world.recorded initial (outside, [])
  have unlimited : start.Limited scenario := by
    intro limit membership
    cases membership
  have drives : Reaches scenario start driven :=
    (drive_advances world scenario more stands).reaches
  have settles : Reaches scenario driven settled := drive_settle_reaches world scenario more start
  obtain ⟨soFar, accounts⟩ := (start_accounts world initial outside).reaches drives
  obtain ⟨later, all⟩ := accounts.reaches settles
  have limited := drives.limited unlimited
  exact ⟨[] ++ soFar, later, accounts, accounts.keeps limited,
    all.observed (settle_drained world.recorded scenario more start),
    all.keeps (settles.limited limited)⟩

theorem Keeps.forget {scenario : Scenario} {lines : List Line} {run : Run (σ × Journal)}
    (keeps : run.Keeps scenario lines) : run.forget.Keeps scenario lines :=
  keeps

theorem start_settle_keeps (world : World σ) (scenario : Scenario) (more : Nat)
    (initial : Transcript) (outside : σ) :
    let start := Run.start world initial outside
    let drive := start.drive world scenario more
    let settled := start.settle world scenario more
    let driven := ((Run.start world.recorded initial (outside, [])).drive world.recorded scenario
      more).2
    ∃ soFar later, (driven.forget = drive.2 ∧ driven.Accounts initial soFar) ∧
      drive.2.Keeps scenario soFar ∧
      settled.Observed initial (recorded world scenario more initial outside).2.journal
        (soFar ++ later) ∧
      settled.Keeps scenario (soFar ++ later) ∧ settled.roles = drive.2.roles := by
  intro start drive settled driven
  obtain ⟨soFar, later, accounts, keeps, observed, keepsAll⟩ :=
    settle_keeps world scenario more initial outside
  have roles := settle_roles world scenario more (.start world.recorded initial (outside, []))
  have forgotten := drive_forget world scenario more (.start world.recorded initial (outside, []))
  have ends : driven.forget = drive.2 := congrArg Prod.snd forgotten
  have settles : settled = _ := start_settle world scenario more initial outside
  refine ⟨soFar, later, ⟨ends, accounts⟩, ?_⟩
  rw [recorded_journal, settles, ← ends]
  -- from here on only the ends of the drive and of the teardown matter
  generalize (Run.start world.recorded initial (outside, [])).settle world.recorded scenario
    more = torn at observed keepsAll roles
  exact ⟨keeps.forget, observed.forget, keepsAll.forget, roles⟩

/--
Every failure of a run shows the last lines of its role, as many as are shown and
kept at most.  What ended the drive was noted before the teardown and shows what was
taken until then.  The roles that ended badly or printed error text are found when
every line was taken, what came during the teardown and the lines without a newline
included.
-/
theorem failures_show_last_lines (world : World σ) (scenario : Scenario) (more : Nat)
    (initial : Transcript) (outside : σ) (kept : 1 ≤ scenario.historyLines) :
    let start := Run.start world initial outside
    let drive := start.drive world scenario more
    let settled := start.settle world scenario more
    let result := (complete world scenario more start).1
    let journal := (recorded world scenario more initial outside).2.journal
    let driven := ((Run.start world.recorded initial (outside, [])).drive world.recorded scenario
      more).2
    ∃ soFar later rest,
      (driven.forget = drive.2 ∧ driven.Accounts initial soFar) ∧
      settled.Observed initial journal (soFar ++ later) ∧
      settled.roles = drive.2.roles ∧
      result.failures = driveFailures scenario drive ++ rest ∧
      (∀ failure ∈ driveFailures scenario drive,
        failure.ShowsLast scenario drive.2.roles soFar) ∧
      ∀ failure ∈ rest,
        (∃ role, failure.role = some role ∧
          (failure.kind = .ofExit role ∨ failure.kind = .errorText)) ∧
        failure.ShowsLast scenario settled.roles (soFar ++ later) := by
  intro start drive settled result journal driven
  obtain ⟨soFar, later, taken, keeps, observed, keepsAll, roles⟩ :=
    start_settle_keeps world scenario more initial outside
  obtain ⟨rest, failures, causes⟩ := complete_failures world scenario more initial outside
  refine ⟨soFar, later, rest, taken, observed, roles, failures, ?_, ?_⟩
  · exact keeps.shows_drive kept drive.1
  · intro failure membership
    obtain ⟨role, judged⟩ := causes failure membership
    obtain ⟨named, shows⟩ := keepsAll.shows_judged kept judged
    exact ⟨⟨role, named⟩, shows⟩

end Run

theorem Sources.Describes.historyLines_pos {sources : Sources} {locate : String → Option String}
    {scenario : Scenario} (describes : sources.Describes locate scenario) :
    1 ≤ scenario.historyLines := by
  rw [describes.values]
  exact Nat.le_max_right _ 1

/--
Two processes that run until they are asked to stop, which the first of them calls an
error.  They print one text after each wait.
-/
structure Plaintive where
  unread : List (Nat × String) := [(0, "starting\n"), (0, "READY\n"), (1, "working\n")]
  awake : Bool := false
  asked : Bool := false

namespace Plaintive

def read (index : Nat) (key : Stream) (state : Plaintive) : ReadOutcome × Plaintive :=
  match state.unread with
  | [] => (.notReady, state)
  | (place, text) :: unread =>
      if state.awake && key = .stdout && place = index then
        (.chunk (Utf8.encode text), { state with unread, awake := false })
      else (.notReady, state)

def ask (index : Nat) (state : Plaintive) : Plaintive :=
  { state with
    unread := if index = 0 then state.unread ++ [(0, "ERROR: stopped")] else state.unread
    asked := true }

def world : World Plaintive where
  now _ := .zero
  launch _ _ state := (.ok 1000, state)
  status _ state := (.ok (if state.asked then some (.code 0) else none), state)
  read := read
  wait _ _ _ state := (.elapsed, { state with awake := true })
  ready_mem _ _ _ _ _ _ _ woken := nomatch woken
  awaitExit _ _ state := (.ok (if state.asked then some (.code 0) else none), state)
  signalGroup index _ state := (.ok (), state.ask index)
  killLeader _ state := (.ok (), state)

/-- More lines may be shown than are kept. -/
def sources : Sources where
  options := {
    roles := ⟨{ path := some "server" }, { path := some "client" }, {}⟩
    serial := true }
  settings := { output := { tailLines := 5, historyLines := 2 } }
  builtIn := {}

def drive (scenario : Scenario) : Except Error Unit × Run Plaintive :=
  (Run.start world (Run.transcriptOf scenario) {}).drive world scenario 3

def failures (scenario : Scenario) : List Failure :=
  ((Run.start world (Run.transcriptOf scenario) {}).complete world scenario 3).1.failures

def shown (failures : List Failure) : List (Option Role × List String) :=
  failures.map fun failure => (failure.role, failure.tail)

theorem lastTexts_of_shown {scenario : Scenario} {failures : List Failure} {started : List Role}
    {lines : List Line} {role : Role} {texts : List String}
    (shows : ∀ failure ∈ failures, failure.ShowsLast scenario started lines)
    (blamed : (some role, texts) ∈ shown failures) (running : role ∈ started) :
    scenario.lastTexts role lines = texts := by
  obtain ⟨failure, membership, same⟩ := List.mem_map.mp blamed
  obtain ⟨named, tail⟩ := Prod.mk.inj same
  exact ((shows failure membership).last role named running).symm.trans tail

/-- The client is not finished in time, and the server has an error only when it is stopped. -/
theorem plaintive_tails :
    ∃ scenario, sources.resolve some = .ok scenario ∧ 1 ≤ scenario.historyLines ∧
      shown (failures scenario) =
        [(some .client, ["working"]), (some .server, ["READY", "ERROR: stopped"])] ∧
      ∃ soFar later, scenario.lastTexts .client soFar = ["working"] ∧
        scenario.lastTexts .server (soFar ++ later) = ["READY", "ERROR: stopped"] := by
  have accepted : (sources.resolve some).toOption.map (fun scenario =>
      (shown (Run.driveFailures scenario (drive scenario)), shown (failures scenario),
        (drive scenario).2.roles)) =
      some ([(some .client, ["working"])],
        [(some .client, ["working"]), (some .server, ["READY", "ERROR: stopped"])],
        [.server, .client]) := by decide +kernel
  obtain ⟨scenario, place, values⟩ := Option.map_eq_some_iff.mp accepted
  simp only [Prod.mk.injEq] at values
  obtain ⟨fatal, all, roles⟩ := values
  have resolved : sources.resolve some = .ok scenario := Except.toOption_eq_some_iff.mp place
  have kept : 1 ≤ scenario.historyLines :=
    (Sources.resolve_eq_ok_iff.mp resolved).historyLines_pos
  obtain ⟨soFar, later, rest, -, -, started, failed, first, others⟩ :=
    Run.failures_show_last_lines world scenario 3 (Run.transcriptOf scenario) {} kept
  have split : shown (failures scenario) =
      shown (Run.driveFailures scenario (drive scenario)) ++ shown rest :=
    (congrArg shown failed).trans List.map_append
  rw [all, fatal, List.singleton_append] at split
  refine ⟨scenario, resolved, kept, all, soFar, later, ?_, ?_⟩
  · apply lastTexts_of_shown first
    · exact fatal ▸ List.mem_singleton_self _
    · exact roles ▸ List.mem_cons_of_mem _ (List.mem_singleton_self _)
  · apply lastTexts_of_shown fun failure membership => (others failure membership).2
    · have remains := (List.cons.inj split).2
      exact remains ▸ List.mem_singleton_self _
    · exact (started.trans roles) ▸ List.mem_cons_self

end Plaintive

end Rendezvous
