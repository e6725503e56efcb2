import Rendezvous.Proofs.Handshake.Verdicts
import Rendezvous.Proofs.Run.Forgotten
import Rendezvous.Proofs.Session.Continues
import Rendezvous.Proofs.Session.Interleavings

/-!
How a wait for the marker ends.

The wait goes on as long as no line of a pass decides, the target has not finished
and there is time.  So it ends with the first pass that has a decisive line, if it
gets that far; that the target has finished or that the time is up counts only
after passes without such a line.
-/

set_option autoImplicit false

namespace Rendezvous

variable {σ : Type}

namespace Handshake

/-- The poll of one pass. -/
def poll (world : World σ) (target : Target) (session : Session σ) :
    Except Error Unit × Session σ :=
  session.poll world true (target.deadline.slice (session.now world) Session.pollInterval)

/-- The lines of one pass. -/
def nextLines (world : World σ) (target : Target) (session : Session σ) : List Line :=
  (poll world target session).2.takeLines.1

/-- The session after one pass. -/
def next (world : World σ) (target : Target) (session : Session σ) : Session σ :=
  (poll world target session).2.takeLines.2

/-- A session after some passes of a wait, whatever becomes of them. -/
def afterPasses (world : World σ) (target : Target) : Nat → Session σ → Session σ
  | 0, session => session
  | passes + 1, session => afterPasses world target passes (next world target session)

theorem afterPasses_succ (world : World σ) (target : Target) (passes : Nat) (session : Session σ) :
    afterPasses world target (passes + 1) session =
      next world target (afterPasses world target passes session) := by
  induction passes generalizing session with
  | zero => rfl
  | succ passes inductionHypothesis => exact inductionHypothesis _

section

variable (world : World σ) (target : Target) (scanner : Scanner)

/-- A pass after which a wait goes on. -/
structure GoesOn (session : Session σ) : Prop where
  polled : (poll world target session).1 = .ok ()
  undecided : ∀ line ∈ nextLines world target session, isDecisive scanner target line = false
  unfinished : ∀ process, (next world target session).process? target.role = some process →
    process.isFinished ((next world target session).now world) linger = false
  inTime : target.deadline.isExpired ((next world target session).now world) = false

/-- How a wait ends with a pass; no pass may follow if it is the last one that is allowed. -/
inductive Ends (session : Session σ) (isLast : Prop) : Except Error Handshake → Prop where
  | failed {cause : Error} (failed : (poll world target session).1 = .error cause) :
      Ends session isLast (.error cause)
  | decided {state : Handshake} (polled : (poll world target session).1 = .ok ())
      (decided : verdict? scanner target (nextLines world target session) = some state) :
      Ends session isLast (.ok state)
  | exitedEarly {process : RoleProcess} (polled : (poll world target session).1 = .ok ())
      (undecided : ∀ line ∈ nextLines world target session, isDecisive scanner target line = false)
      (found : (next world target session).process? target.role = some process)
      (finished : process.isFinished ((next world target session).now world) linger = true) :
      Ends session isLast (.ok (.exitedEarly process.exitState))
  | timedOut {process : RoleProcess} (polled : (poll world target session).1 = .ok ())
      (undecided : ∀ line ∈ nextLines world target session, isDecisive scanner target line = false)
      (found : (next world target session).process? target.role = some process)
      (unfinished : process.isFinished ((next world target session).now world) linger = false)
      (late : target.deadline.isExpired ((next world target session).now world) = true ∨
        isLast) :
      Ends session isLast (.ok .timedOut)

/-- A wait that ended with the last of so many passes after the first one. -/
structure Waited (more : Nat) (session : Session σ) (passes : Nat)
    (outcome : Except Error Handshake) (after : Session σ) : Prop where
  within : passes ≤ more
  goesOn : ∀ earlier < passes,
    GoesOn world target scanner (afterPasses world target earlier session)
  ends : Ends world target scanner (afterPasses world target passes session) (passes = more) outcome
  reached : ∀ state, outcome = .ok state → after = afterPasses world target (passes + 1) session

end

theorem await_of_tracked (world : World σ) (target : Target) (more : Nat) (session : Session σ)
    (transcript : Transcript) (tracked : target.role ∈ session.processes.map RoleProcess.role) :
    await world target more session transcript = passes world target more session transcript := by
  obtain ⟨process, found⟩ := Session.exists_process? tracked
  rw [await, found]

theorem foldl_observe_scanner (target : Target) (lines : List Line) (state : Handshake)
    (transcript : Transcript) :
    (lines.foldl (observe target) (state, transcript)).2.scanner = transcript.scanner := by
  induction lines generalizing state transcript with
  | nil => rfl
  | cons line lines inductionHypothesis =>
      rw [List.foldl_cons]
      exact (inductionHypothesis _ _).trans (Transcript.observe_scanner _ _ _)

theorem poll_moves (world : World σ) (target : Target) (session : Session (σ × Journal)) :
    Session.Moves session (poll world.recorded target session).2 :=
  Session.poll_moves world true _ session

theorem next_roles (world : World σ) (target : Target) (session : Session σ) :
    (next world target session).processes.map RoleProcess.role =
      session.processes.map RoleProcess.role := by
  have polled := Session.poll_forget world true
    (target.deadline.slice (session.now world) Session.pollInterval) session.noted
  have same : poll world target session = _ := polled.symm
  rw [next, Session.takeLines_processes, List.map_map, same]
  exact (poll_moves world target session.noted).continues.roles

theorem hasPendingLines_next {world : World σ} {target : Target} {session : Session σ}
    {process : RoleProcess} (membership : process ∈ (next world target session).processes) :
    process.hasPendingLines = false := by
  rw [next, Session.takeLines_processes] at membership
  obtain ⟨before, -, rfl⟩ := List.mem_map.mp membership
  rfl

theorem afterPass_waiting {world : World σ} {target : Target} {session : Session σ}
    {process : RoleProcess}
    (found : (next world target session).process? target.role = some process) :
    afterPass world target .waiting (next world target session) =
      if process.isFinished ((next world target session).now world) linger then
        .ok (.exitedEarly process.exitState)
      else if target.deadline.isExpired ((next world target session).now world) then .ok .timedOut
      else .ok .waiting := by
  have none := hasPendingLines_next (Session.process?_eq_some found).1
  unfold afterPass
  rw [found]
  simp [isWaiting, none]

theorem Waited.after {world : World σ} {target : Target} {scanner : Scanner} {more count : Nat}
    {session last : Session σ} {outcome : Except Error Handshake}
    (waited : Waited world target scanner more (next world target session) count outcome last)
    (first : GoesOn world target scanner session) :
    Waited world target scanner (more + 1) session (count + 1) outcome last := by
  refine ⟨Nat.succ_le_succ waited.within, fun earlier before => ?_, ?_, waited.reached⟩
  · cases earlier with
    | zero => exact first
    | succ earlier => exact waited.goesOn earlier (Nat.lt_of_succ_lt_succ before)
  · rw [Nat.succ_inj]
    exact waited.ends

/-- What a wait does after a pass that was not cut short. -/
theorem passes_of_ok {world : World σ} {target : Target} {session : Session σ}
    (polled : (poll world target session).1 = .ok ()) (more : Nat) (transcript : Transcript) :
    let heard := (nextLines world target session).foldl (observe target) (.waiting, transcript)
    passes world target more session transcript =
      match afterPass world target ((verdict? transcript.scanner target
        (nextLines world target session)).getD .waiting) (next world target session), more with
      | .ok .waiting, more + 1 => passes world target more (next world target session) heard.2
      | .ok .waiting, 0 => (.ok .timedOut, next world target session, heard.2)
      | outcome, _ => (outcome, next world target session, heard.2) := by
  have passed : poll world target session = (.ok (), (poll world target session).2) :=
    Prod.ext polled rfl
  intro heard
  rw [← foldl_observe, passes_of_polled passed]
  rfl

theorem passes_waited (world : World σ) (target : Target) (more : Nat) (session : Session σ)
    (transcript : Transcript) (tracked : target.role ∈ session.processes.map RoleProcess.role) :
    ∃ count, Waited world target transcript.scanner more session count
      (passes world target more session transcript).1
      (passes world target more session transcript).2.1 := by
  -- how many passes are left is looked at only after the pass, so it is split late
  induction more using Nat.strongRecOn generalizing session transcript with
  | ind more inductionHypothesis =>
      rcases polled : (poll world target session).1 with cause | ⟨⟨⟩⟩
      · have interrupted :
            poll world target session = (.error cause, (poll world target session).2) :=
          Prod.ext polled rfl
        rw [passes_of_interrupted interrupted]
        exact ⟨0, Nat.zero_le more, nofun, .failed polled, nofun⟩
      · have followed := passes_of_ok polled more transcript
        have scanner := foldl_observe_scanner target (nextLines world target session) .waiting
          transcript
        dsimp only at followed
        generalize ((nextLines world target session).foldl (observe target)
          (.waiting, transcript)).2 = later at followed scanner
        have trackedNext : target.role ∈
            (next world target session).processes.map RoleProcess.role := by
          rwa [next_roles]
        obtain ⟨process, found⟩ := Session.exists_process? trackedNext
        rw [followed]
        cases decided : verdict? transcript.scanner target (nextLines world target session) with
        | some state =>
            have ended : Waited world target transcript.scanner more session 0 (.ok state)
                (next world target session) :=
              ⟨Nat.zero_le more, nofun, .decided polled decided, fun _ _ => rfl⟩
            rcases verdict?_eq_some decided with ⟨pattern, text, rfl⟩ | ⟨text, rfl⟩ <;>
              exact ⟨0, ended⟩
        | none =>
            have undecided := verdict?_eq_none.mp decided
            rw [Option.getD_none, afterPass_waiting found]
            cases finished : process.isFinished ((next world target session).now world) linger with
            | true =>
                exact ⟨0, Nat.zero_le more, nofun, .exitedEarly polled undecided found finished,
                  fun _ _ => rfl⟩
            | false =>
                cases late : target.deadline.isExpired ((next world target session).now world) with
                | true =>
                    exact ⟨0, Nat.zero_le more, nofun,
                      .timedOut polled undecided found finished (Or.inl late), fun _ _ => rfl⟩
                | false =>
                    cases more with
                    | zero =>
                        exact ⟨0, Nat.le_refl 0, nofun,
                          .timedOut polled undecided found finished (Or.inr rfl), fun _ _ => rfl⟩
                    | succ more =>
                        obtain ⟨count, waited⟩ := inductionHypothesis more (Nat.lt_succ_self more)
                          (next world target session) later trackedNext
                        rw [scanner] at waited
                        have first : GoesOn world target transcript.scanner session := by
                          refine ⟨polled, undecided, fun other found' => ?_, late⟩
                          rw [found] at found'
                          exact Option.some.inj found' ▸ finished
                        exact ⟨count + 1, waited.after first⟩

/-- A wait that ended without a decision had no decisive line in its last pass either. -/
theorem Ends.undecided {world : World σ} {target : Target} {scanner : Scanner}
    {session : Session σ} {isLast : Prop} {state : Handshake}
    (ends : Ends world target scanner session isLast (.ok state))
    (missed : (∃ exit, state = .exitedEarly exit) ∨ state = .timedOut) :
    ∀ line ∈ nextLines world target session, isDecisive scanner target line = false := by
  cases ends with
  | decided _ decided =>
      rcases verdict?_eq_some decided with ⟨_, _, rfl⟩ | ⟨_, rfl⟩ <;>
        rcases missed with ⟨_, impossible⟩ | impossible <;> cases impossible
  | exitedEarly _ undecided | timedOut _ undecided => exact undecided

/-- The lines of all passes of a wait are the lines of what arrived, and nothing waits after one. -/
theorem afterPasses_balanced (world : World σ) (target : Target) {session : Session σ}
    (emptied : session.Emptied) (passes : Nat) :
    ∃ given, Tally.Balanced session.nextSeq (session.processes.map RoleProcess.history)
      ⟨afterPasses world.recorded target passes session.noted,
        fun index key => session.unfinished index key ++
          (afterPasses world.recorded target passes session.noted).journal.bytes index key,
        (List.range passes).flatMap fun pass =>
          nextLines world.recorded target (afterPasses world.recorded target pass session.noted),
        given⟩ := by
  -- a pass is some moves, and then its lines are taken
  induction passes with
  | zero =>
      exact ⟨fun _ => [], (Tally.Balanced.of_emptied emptied).sameOutput session.noted rfl rfl
        fun _ _ => List.append_nil _⟩
  | succ passes inductionHypothesis =>
      obtain ⟨given, balanced⟩ := inductionHypothesis
      have polled := balanced.moves _ (poll_moves world target _)
      rw [afterPasses_succ, List.range_succ, List.flatMap_append, List.flatMap_singleton]
      exact ⟨_, polled.takeLines⟩

/-- When no line of any pass decided, no line of what a closed stream of the target gave does. -/
theorem output_undecided {world : World σ} {target : Target} {scanner : Scanner}
    {session : Session σ} (emptied : session.Emptied) {passes : Nat}
    (undecided : ∀ pass ≤ passes,
      ∀ line ∈ nextLines world.recorded target
        (afterPasses world.recorded target pass session.noted),
        isDecisive scanner target line = false)
    {index : Nat} {process : RoleProcess}
    (found : (afterPasses world.recorded target (passes + 1)
      session.noted).processes[index]? = some process)
    (own : process.role = target.role) {key : Stream}
    (closed : (process.stream key).isOpen = false) :
    ∀ text ∈ Output.lines (session.unfinished index key ++
        (afterPasses world.recorded target (passes + 1) session.noted).journal.bytes index key),
      scanner.hasError text = false ∧ Text.contains text target.marker = false := by
  intro text membership
  obtain ⟨given, balanced⟩ := afterPasses_balanced world target emptied (passes + 1)
  have none : Session.pendingIn (afterPasses world.recorded target (passes + 1)
      session.noted).processes = [] := by
    rw [afterPasses_succ]
    exact Session.pendingIn_takeLines _
  have texts := balanced.texts none found key
  rw [closed] at texts
  have printed : text ∈ Output.textsFrom key (given index) := texts ▸ membership
  -- the line that has this text was taken after one of the passes
  obtain ⟨line, place, rfl⟩ := List.mem_map.mp printed
  have taken := List.mem_of_mem_filter place
  obtain ⟨history, -, share⟩ := balanced.each index process found
  obtain ⟨pass, inside, source⟩ := List.mem_flatMap.mp (balanced.given_subset index taken)
  have nothing := undecided pass (Nat.le_of_lt_succ (List.mem_range.mp inside)) line source
  have mine : line.role = target.role := (share.owned line taken).trans own
  simpa [isDecisive, mine] using nothing

/--
A wait goes on only after passes without a decisive line.  Its last pass decides by
its first line of the target with an error signature, wherever the marker stands,
and otherwise by the first one with the marker; only if it has none of them the
target may be found finished, whether or not the time is up, or else the time is
up.  So a target that has not been decided on has closed no stream that gave a
decisive line.
-/
theorem first_decisive_pass (world : World σ) (target : Target) (more : Nat) (session : Session σ)
    (transcript : Transcript) (tracked : target.role ∈ session.processes.map RoleProcess.role) :
    let wait := await world target more session transcript
    let journal := (await world.recorded target more session.noted transcript).2.1.journal
    (∃ passes, Waited world target transcript.scanner more session passes wait.1 wait.2.1) ∧
    (session.Emptied → ∀ state, wait.1 = .ok state →
      (∃ exit, state = .exitedEarly exit) ∨ state = .timedOut →
        ∀ (index : Nat) (process : RoleProcess), wait.2.1.processes[index]? = some process →
          process.role = target.role → ∀ key, (process.stream key).isOpen = false →
            ∀ text ∈ Output.lines (session.unfinished index key ++ journal.bytes index key),
              transcript.scanner.hasError text = false ∧
                Text.contains text target.marker = false) := by
  intro wait journal
  have plain : wait = passes world target more session transcript :=
    await_of_tracked world target more session transcript tracked
  have noted := await_of_tracked world.recorded target more session.noted transcript tracked
  have same : Prod.map id (Prod.map Session.forget id)
      (passes world.recorded target more session.noted transcript) = wait :=
    (passes_forget world target more session.noted transcript).trans plain.symm
  obtain ⟨count, waited⟩ :=
    passes_waited world.recorded target more session.noted transcript tracked
  refine ⟨plain ▸ passes_waited world target more session transcript tracked, ?_⟩
  -- the journal is that of the wait in the world that keeps one, which ends in the same way
  intro emptied state ended missed index process found own key closed
  have journals : journal =
      (passes world.recorded target more session.noted transcript).2.1.journal :=
    congrArg (fun wait => wait.2.1.journal) noted
  rw [← same] at ended found
  generalize passes world.recorded target more session.noted transcript = recorded
    at waited ended found journals
  obtain ⟨outcome, after, scanned⟩ := recorded
  obtain rfl : outcome = .ok state := ended
  obtain rfl : after = _ := waited.reached state rfl
  rw [journals]
  refine output_undecided emptied (fun pass within => ?_) found own closed
  rcases Nat.lt_or_eq_of_le within with earlier | rfl
  · exact (waited.goesOn pass earlier).undecided
  · exact waited.ends.undecided missed

end Handshake

/-- A world of one process, which prints a text, closes its streams and exits with status one. -/
def Brief.world (printed : String) : World Bool where
  now _ := .zero
  launch _ _ said := (.ok 1000, said)
  status _ said := (.ok (some (.code 1)), said)
  read _ key said :=
    if key = .stdout && !said then (.chunk (Utf8.encode printed), true) else (.endOfFile, said)
  wait _ _ _ said := (.elapsed, said)
  ready_mem _ _ _ _ _ _ _ woken := nomatch woken
  awaitExit _ _ said := (.ok (some (.code 1)), said)
  signalGroup _ _ said := (.ok (), said)
  killLeader _ said := (.ok (), said)

namespace Brief

/-- A server that is not given any time. -/
def target : Handshake.Target := ⟨.server, "ready", .after .zero .zero, true⟩

def session : Session Bool where
  outside := false
  processes := [.started .server 1000 ⟨"server", []⟩ .zero 1]

def transcript : Transcript := .start ⟨["ERROR"]⟩ true 1

/-- The wait for a process that prints a text. -/
def wait (printed : String) : Except Error Handshake × Session Bool × Transcript :=
  Handshake.await (world printed) target 3 session transcript

end Brief

/-- A server that exits without a newline, when the time is up: it has exited early. -/
theorem Handshake.brief_server_exitedEarly :
    Brief.target.role ∈ Brief.session.processes.map RoleProcess.role ∧ Brief.session.Emptied ∧
      (Brief.wait "starting").1 = .ok (.exitedEarly (.exited 1)) ∧
      (∃ passes, Waited (Brief.world "starting") Brief.target Brief.transcript.scanner 3
        Brief.session passes (.ok (.exitedEarly (.exited 1))) (Brief.wait "starting").2.1) ∧
      Brief.transcript.scanner.hasError "starting" = false ∧
      Text.contains "starting" Brief.target.marker = false := by
  have tracked : Brief.target.role ∈ Brief.session.processes.map RoleProcess.role := by decide
  have emptied : Brief.session.Emptied := by
    intro process membership key
    obtain rfl := List.mem_singleton.mp membership
    cases key <;> decide
  have ended : (Brief.wait "starting").1 = .ok (.exitedEarly (.exited 1)) := by decide +kernel
  obtain ⟨waited, undecided⟩ := first_decisive_pass (Brief.world "starting") Brief.target 3
    Brief.session Brief.transcript tracked
  have closed : ((Brief.wait "starting").2.1.processes[0]?.map fun process =>
      (process.role, (process.stream .stdout).isOpen)) = some (.server, false) := by decide +kernel
  obtain ⟨process, found, stands⟩ := Option.map_eq_some_iff.mp closed
  obtain ⟨own, shut⟩ := Prod.mk.inj stands
  refine ⟨tracked, emptied, ended, ended ▸ waited, ?_⟩
  exact undecided emptied _ ended (Or.inl ⟨_, rfl⟩) 0 process found own .stdout shut "starting"
    (by decide +kernel)

end Rendezvous
