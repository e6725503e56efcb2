import Rendezvous.Proofs.Run.Kills
import Rendezvous.Proofs.Run.Teardown
import Rendezvous.Proofs.Session.Ends

/-!
How a run brings its processes to their end.

Whoever lives when the stopping begins is asked to stop, and whoever still lives
after the grace is killed; everybody else keeps the end that was found before.
If what is killed ends in time, nothing survives a run, though the wait for it may
have given up on a process a moment too soon.
-/

set_option autoImplicit false

namespace Rendezvous

variable {σ : Type}

namespace Run

theorem start_endsNoted (world : World σ) (transcript : Transcript) (outside : σ) :
    (Run.start world.recorded transcript (outside, [])).session.EndsNoted :=
  ⟨fun _ => rfl, fun index => iff_of_false (by simp [Session.wasStopped, start])
    (Journal.not_stopsBeforeEnd_nil index)⟩

theorem Step.endsNoted {before after : Run (σ × Journal)} (step : Step before after)
    (noted : before.session.EndsNoted) : after.session.EndsNoted := by
  cases step with
  | move move => exact noted.move move
  | relay => exact noted.takeLines

theorem Change.endsNoted {scenario : Scenario} {before after : Run (σ × Journal)}
    (change : Change scenario before after) (noted : before.session.EndsNoted) :
    after.session.EndsNoted := by
  cases change with
  | advance advance =>
      cases advance with
      | step step => exact step.endsNoted noted
      | note _ _ _ => exact noted
      | launched _ _ pid now outside => exact noted.launch _ pid _ _ now _ outside _
      | refused line env cause outside =>
          refine noted.event rfl (fun _ => Option.or_none.symm) fun index => ?_
          exact (or_iff_left (by simp)).symm
  | signal signal => exact noted.signal signal
  | survivors => exact noted

theorem Reaches.endsNoted {scenario : Scenario} {before after : Run (σ × Journal)}
    (reaches : Reaches scenario before after) (noted : before.session.EndsNoted) :
    after.session.EndsNoted :=
  reaches.keeps (fun _ _ change => change.endsNoted) noted

/-- In between no signal was sent and nothing was killed. -/
structure Quiet (before after : Run (σ × Journal)) : Prop where
  signals : after.journal.signals = before.journal.signals
  kills : after.journal.kills = before.journal.kills

theorem Quiet.trans {first second third : Run (σ × Journal)} (former : first.Quiet second)
    (latter : second.Quiet third) : first.Quiet third :=
  ⟨latter.signals.trans former.signals, latter.kills.trans former.kills⟩

theorem Steps.quiet {before after : Run (σ × Journal)} (steps : Steps before after) :
    before.Quiet after := by
  obtain ⟨later, grown, -, signals, kills⟩ := steps.journal
  refine ⟨?_, ?_⟩
  · rw [grown, Journal.signals_append, signals, List.append_nil]
  · rw [grown, Journal.kills_append, kills, List.append_nil]

theorem Advances.quiet {scenario : Scenario} {before after : Run (σ × Journal)}
    (advances : Advances scenario before after) : before.Quiet after := by
  induction advances with
  | refl => exact ⟨rfl, rfl⟩
  | tail _ advance inductionHypothesis =>
      refine inductionHypothesis.trans ?_
      cases advance with
      | step step => exact Steps.quiet (.single step)
      | note _ _ _ => exact ⟨rfl, rfl⟩
      | launched _ _ _ _ _ | refused _ _ _ _ =>
          exact ⟨(Journal.signals_append _ _).trans (List.append_nil _),
            (Journal.kills_append _ _).trans (List.append_nil _)⟩

theorem Advances.teardownFailures {scenario : Scenario} {before after : Run (σ × Journal)}
    (advances : Advances scenario before after) :
    after.teardownFailures = before.teardownFailures := by
  induction advances with
  | refl => rfl
  | tail _ advance inductionHypothesis =>
      refine Eq.trans ?_ inductionHypothesis
      cases advance with
      | step step => exact step.frame.teardownFailures
      | note _ _ _ | launched _ _ _ _ _ | refused _ _ _ _ => rfl

section

variable (world : World σ) (scenario : Scenario) (more : Nat)

/-- A run whose drive is over; its server had its time to exit. -/
def wound (run : Run σ) : Run σ :=
  let driven := run.driven world scenario more
  driven.2.windDown world scenario more driven.1

/-- A run whose processes are about to be stopped; who has ended before is known. -/
def stopping (run : Run σ) : Run σ :=
  (run.wound world scenario more).refresh world

/-- A run whose processes were asked to stop, and the time they had for it is over. -/
def graced (run : Run σ) : Run σ :=
  ((run.stopping world scenario more).requestStops world scenario more).2

/-- The time that the processes had to stop is over, or no more passes were allowed. -/
def GraceOver (begun after : Run σ) : Prop :=
  let asked := begun.terminateAll world
  let grace := Deadline.after (asked.now world) scenario.timeouts.stopGrace
  grace.isExpired (after.now world) = true ∨
    after = asked.afterPasses world false grace (more + 1)

theorem stopping_forget (run : Run (σ × Journal)) :
    (run.stopping world.recorded scenario more).forget =
      run.forget.stopping world scenario more := by
  unfold stopping wound
  rw [← driven_forget, refresh_forget, windDown_forget]
  rfl

theorem graced_forget (run : Run (σ × Journal)) :
    (run.graced world.recorded scenario more).forget = run.forget.graced world scenario more := by
  have asked : ∀ run : Run (σ × Journal),
      (run.requestStops world.recorded scenario more).2.forget =
        (run.forget.requestStops world scenario more).2 :=
    fun run => congrArg Prod.snd (requestStops_forget world scenario more run)
  unfold graced
  rw [asked, stopping_forget]

end

section

variable (world : World σ) (scenario : Scenario) (more : Nat) (run : Run (σ × Journal))

theorem requestStops_journal :
    let asked := (run.requestStops world.recorded scenario more).2
    asked.journal.signals =
        run.journal.signals ++ run.session.living.reverse.map (·, StopSignal.terminate) ∧
      asked.journal.kills = run.journal.kills := by
  have waited := (drainUntilEnded_steps world (.after ((run.terminateAll world.recorded).now
    world.recorded) scenario.timeouts.stopGrace) more (run.terminateAll world.recorded)).quiet
  exact ⟨waited.signals.trans (terminateAll_journal world run),
    waited.kills.trans (terminateAll_kills world run)⟩

theorem killStragglers_journal :
    let killed := (run.killStragglers world.recorded more).2
    killed.journal.signals =
        run.journal.signals ++ run.session.living.reverse.map (·, StopSignal.kill) ∧
      ∃ kills, kills.Sublist run.session.living.reverse ∧
        killed.journal.kills = run.journal.kills ++ kills := by
  have waited := (drainUntilEnded_steps world (.after ((run.killAll world.recorded).now
    world.recorded) Session.killWait) more (run.killAll world.recorded)).quiet
  obtain ⟨kills, part, killed⟩ := killAll_kills world run
  exact ⟨waited.signals.trans (killAll_journal world run), kills, part,
    waited.kills.trans killed⟩

/-- Who is asked to stop, and who is killed. -/
theorem endAll_journal :
    let begun := run.refresh world.recorded
    let asked := (begun.requestStops world.recorded scenario more).2
    let ended := (run.endAll world.recorded scenario more).2
    ended.journal.signals = run.journal.signals ++
        begun.session.living.reverse.map (·, StopSignal.terminate) ++
        asked.session.living.reverse.map (·, StopSignal.kill) ∧
      ∃ kills, kills.Sublist asked.session.living.reverse ∧
        ended.journal.kills = run.journal.kills ++ kills := by
  intro begun asked ended
  have refreshed := (refresh_steps world run).quiet
  obtain ⟨signals, kills⟩ := requestStops_journal world scenario more begun
  rcases endAll_cases world.recorded scenario more run with
    ⟨none, done⟩ | ⟨obeyed, done⟩ | done
  · have noneLater : asked.session.living = [] :=
      (requestStops_endings world scenario more begun).frame.living_eq_nil none
    have same : ended = begun := congrArg Prod.snd done
    rw [same, noneLater, none]
    refine ⟨?_, [], List.nil_sublist _, ?_⟩
    · simpa using refreshed.signals
    · simpa using refreshed.kills
  · have noneLater : asked.session.living = [] := drainUntilEnded_living obeyed
    have same : ended = asked := (congrArg Prod.snd done :)
    rw [same, noneLater, signals, kills, refreshed.signals, refreshed.kills]
    exact ⟨(List.append_nil _).symm, [], List.nil_sublist _, (List.append_nil _).symm⟩
  · have same : ended = (asked.killStragglers world.recorded more).2 := congrArg Prod.snd done
    obtain ⟨signalsLater, killed, part, killsLater⟩ := killStragglers_journal world more asked
    rw [same]
    refine ⟨?_, killed, part, ?_⟩
    · rw [signalsLater, signals, refreshed.signals]
    · rw [killsLater, kills, refreshed.kills]

variable {world scenario more run}

/-- When all checks were answered and what is killed ends in time, all processes have ended. -/
theorem endAll_over (clock : world.Monotonic) (kills : world.KillsWithin Session.killWait)
    (answered : (run.endAll world.recorded scenario more).2.journal.Answered)
    (fits : ((run.refresh world.recorded).requestStops world.recorded scenario
      more).2.KillWaitFits world.recorded more) :
    (run.endAll world.recorded scenario more).2.session.Over world.recorded := by
  intro index alive
  rcases endAll_cases world.recorded scenario more run with
    ⟨none, done⟩ | ⟨obeyed, done⟩ | done <;> rw [done] at answered alive ⊢
  · simp [none] at alive
  · rw [requestStops, drainUntilEnded_living obeyed] at alive
    exact absurd alive List.not_mem_nil
  · exact killStragglers_over clock kills fits answered index alive

/-- All processes are found ended if they have ended before the last pass after the kill. -/
theorem endAll_ended (clock : world.Monotonic) {span : Duration}
    (kills : world.KillsWithin ⟨Session.killWait.nanos - span.nanos⟩)
    (answered : (run.endAll world.recorded scenario more).2.journal.Answered)
    (fits : ((run.refresh world.recorded).requestStops world.recorded scenario
      more).2.KillWaitFits world.recorded more)
    (takes : ((run.refresh world.recorded).requestStops world.recorded scenario
      more).2.KillPassesTake world.recorded more span) :
    (run.endAll world.recorded scenario more).1 = true := by
  rcases endAll_cases world.recorded scenario more run with ⟨-, done⟩ | ⟨-, done⟩ | done
  · rw [done]
  · rw [done]
  · rw [done] at answered ⊢
    exact killStragglers_ended clock kills fits takes answered

/-- Who is killed did not end in the time it had for that. -/
theorem requestStops_graceOver
    (answered : (run.requestStops world.recorded scenario more).2.journal.Answered)
    (alive : (run.requestStops world.recorded scenario more).2.session.living ≠ []) :
    GraceOver world.recorded scenario more run
      (run.requestStops world.recorded scenario more).2 := by
  obtain ⟨passes, waited⟩ := drainUntil_waited world.recorded false
    (.after ((run.terminateAll world.recorded).now world.recorded) scenario.timeouts.stopGrace)
    allEnded more (run.terminateAll world.recorded)
  obtain ⟨ended, drained, same⟩ := drainUntilEnded_of_answered answered
  rw [drained] at waited
  cases ended with
  | true => exact absurd (drainUntilEnded_living same) alive
  | false =>
      obtain ⟨-, expired | all⟩ := waited.gaveUp rfl
      · exact Or.inl expired
      · exact Or.inr (all ▸ waited.reached)

theorem GraceOver.forget {begun after : Run (σ × Journal)}
    (expired : GraceOver world.recorded scenario more begun after) :
    GraceOver world scenario more begun.forget after.forget := by
  unfold GraceOver at expired ⊢
  rw [← terminateAll_forget]
  generalize begun.terminateAll world.recorded = asked at expired ⊢
  refine expired.imp id fun all => ?_
  rw [all, afterPasses_forget]
  rfl

/-- Whoever is alive after the grace was waited for. -/
theorem requestStops_grows
    (alive : ((run.refresh world.recorded).requestStops world.recorded scenario
      more).2.session.living ≠ []) :
    ((run.refresh world.recorded).requestStops world.recorded scenario more).2.journal <+:
      (run.endAll world.recorded scenario more).2.journal := by
  rcases endAll_cases world.recorded scenario more run with ⟨none, -⟩ | ⟨obeyed, -⟩ | done
  · have noneLater := (requestStops_endings world scenario more
      (run.refresh world.recorded)).frame.living_eq_nil none
    exact absurd noneLater alive
  · exact absurd (drainUntilEnded_living obeyed) alive
  · rw [done]
    exact ((killStragglers_endings world more _).reaches scenario).journal_grows

/-- Whoever is alive at the end was alive after the grace. -/
theorem endAll_living_subset :
    (run.endAll world.recorded scenario more).2.session.living ⊆
      ((run.refresh world.recorded).requestStops world.recorded scenario
        more).2.session.living := by
  rcases endAll_cases world.recorded scenario more run with
    ⟨none, done⟩ | ⟨-, done⟩ | done <;> rw [done]
  · rw [none]
    exact List.nil_subset _
  · exact List.Subset.refl _
  · exact (killStragglers_endings world more _).frame.living_subset

/-- Who lives when the processes are ended is stopped. -/
theorem endAll_stops (noted : run.session.EndsNoted) {index : Nat}
    (alive : index ∈ (run.refresh world.recorded).session.living) :
    (run.endAll world.recorded scenario more).2.journal.StopsBeforeEnd index := by
  have refreshedNoted := ((refresh_steps world run).reaches scenario).endsNoted noted
  have cases := endAll_cases world.recorded scenario more run
  generalize run.refresh world.recorded = begun at alive refreshedNoted cases
  have asked := refreshedNoted.signals (terminateAll_signals world begun)
  obtain ⟨process, found, living⟩ := Session.mem_living.mp alive
  have stopped : (begun.terminateAll world.recorded).session.wasStopped index = true := by
    rw [Session.wasStopped, terminateAll_processes, List.getElem?_map, found]
    simpa [living] using RoleProcess.requestStop_wasStopped living
  refine ((asked.stops index).mp stopped).extend ?_
  have waited := (drainUntilEnded_steps world (.after ((begun.terminateAll world.recorded).now
    world.recorded) scenario.timeouts.stopGrace) more (begun.terminateAll world.recorded)).endings
  rcases cases with ⟨none, -⟩ | ⟨-, done⟩ | done
  · simp [none] at alive
  · rw [done]
    exact (waited.reaches scenario).journal_grows
  · rw [done]
    exact (Endings.reaches (waited.trans (killStragglers_endings world more _))
      scenario).journal_grows

end

/--
A run that has left nothing behind.  The signals went to the processes that were
alive when the stopping began, and again to those that were alive after the
grace, the last one first, and in the end to what the processes had started.
Given up on, if anything, was only what was alive after the grace.
-/
structure PutToRest (run stopping graced : Run σ) (journal : Journal) : Prop where
  living : run.session.living = []
  survivors : ∀ failure ∈ run.teardownFailures, ∃ index ∈ graced.session.living, ∃ process,
    run.session.processes[index]? = some process ∧
      failure = ⟨process.role, some process.pid, "still running 5s after SIGKILL"⟩
  signals : journal.signals =
    stopping.session.living.reverse.map (·, StopSignal.terminate) ++
      graced.session.living.reverse.map (·, StopSignal.kill) ++
      (List.range run.session.processes.length).map (·, StopSignal.kill)
  kills : journal.kills.Sublist graced.session.living.reverse
  stragglers : graced.session.living ⊆ stopping.session.living
  stops : ∀ index, journal.StopsBeforeEnd index ↔ index ∈ stopping.session.living

section

variable (world : World σ) (scenario : Scenario) (more : Nat) (run : Run (σ × Journal))

/-- Giving up on processes changes nothing but the books. -/
theorem stopAll_session :
    (run.stopAll world.recorded scenario more).session =
      (run.endAll world.recorded scenario more).2.session := by
  unfold stopAll
  dsimp only
  split <;> rfl

theorem stopAll_journal :
    (run.stopAll world.recorded scenario more).journal =
      (run.endAll world.recorded scenario more).2.journal :=
  congrArg Session.journal (stopAll_session world scenario more run)

variable {world scenario more run}

theorem stopAll_teardownFailures (none : run.teardownFailures = [])
    (ended : (run.endAll world.recorded scenario more).1 = true) :
    (run.stopAll world.recorded scenario more).teardownFailures = [] := by
  unfold stopAll
  dsimp only
  rw [if_pos ended]
  exact (endAll_endings world scenario more run).frame.teardownFailures.trans none

/-- Whoever is given up on was killed and not found ended. -/
theorem stopAll_survivors (none : run.teardownFailures = []) {failure : TeardownFailure}
    (noted : failure ∈ (run.stopAll world.recorded scenario more).teardownFailures) :
    ∃ index ∈ (run.stopAll world.recorded scenario more).session.living, ∃ process,
      (run.stopAll world.recorded scenario more).session.processes[index]? = some process ∧
        failure = ⟨process.role, some process.pid, "still running 5s after SIGKILL"⟩ := by
  rw [stopAll_session]
  cases ended : (run.endAll world.recorded scenario more).1 with
  | true =>
      rw [stopAll_teardownFailures none ended] at noted
      exact absurd noted List.not_mem_nil
  | false =>
      have books := (endAll_endings world scenario more run).frame.teardownFailures.trans none
      simp only [stopAll, ended, reportSurvivors, books, List.nil_append] at noted
      obtain ⟨process, membership, rfl⟩ := List.mem_map.mp noted
      obtain ⟨started, alive⟩ := List.mem_filter.mp membership
      obtain ⟨index, found⟩ := List.mem_iff_getElem?.mp started
      exact ⟨index, Session.mem_living.mpr ⟨process, found, alive⟩, process, found, rfl⟩

/-- The last pass of all finds whoever has ended. -/
theorem collectRest_living (gone : run.session.Over world.recorded)
    (answered : (run.collectRest world.recorded).journal.Answered) :
    (run.collectRest world.recorded).session.living = [] := by
  have found := Session.poll_living gone answered
  have closed := Session.living_subset (Session.Moves.continues
    (Session.closeAll_moves (run.session.drain world.recorded).2))
  have none : (run.session.drain world.recorded).2.closeAll.living = [] :=
    List.subset_nil.mp (List.Subset.trans closed (List.subset_nil.mpr found))
  exact (relayLines_frame
    { run with session := (run.session.drain world.recorded).2.closeAll }).living_eq_nil none

end

/-- What had ended before any signal was sent keeps its own end. -/
theorem alive_of_stopsBeforeEnd {before after : Run (σ × Journal)}
    (processes : RoleProcess.AllContinue before.session.processes after.session.processes)
    (noted : before.session.EndsNoted) (notedLater : after.session.EndsNoted)
    (quiet : before.journal.signals = []) {index : Nat}
    (stops : after.journal.StopsBeforeEnd index) : index ∈ before.session.living := by
  have stopped := (notedLater.stops index).mpr stops
  cases found : after.session.processes[index]? with
  | none => simp [Session.wasStopped, found] at stopped
  | some later =>
      obtain ⟨process, foundEarlier, continues⟩ := processes.earlier found
      refine Session.mem_living.mpr ⟨process, foundEarlier, Bool.of_not_eq_false fun ended => ?_⟩
      rw [Session.wasStopped_of_getElem? found, continues.wasStopped ended,
        ← Session.wasStopped_of_getElem? foundEarlier, noted.stops] at stopped
      exact Journal.not_stopsBeforeEnd_of_signals quiet index stopped

/-- After all processes have ended, only what they have started is killed. -/
theorem cleanUp_journal (world : World σ) {run : Run (σ × Journal)}
    (ended : (run.collectRest world.recorded).session.living = []) :
    let cleaned := (run.collectRest world.recorded).reapGroups world.recorded
    cleaned.journal.signals = run.journal.signals ++
        (List.range cleaned.session.processes.length).map (·, StopSignal.kill) ∧
      cleaned.journal.kills = run.journal.kills := by
  have collected := collectRest_steps world run
  obtain ⟨signals, kills⟩ := reapGroups_journal world (Session.living_eq_nil_iff.mp ended)
  refine ⟨signals.trans ?_, kills.trans collected.quiet.kills⟩
  rw [collected.quiet.signals]
  rfl

theorem stopAll_putToRest {world : World σ} {scenario : Scenario} {more : Nat}
    {run : Run (σ × Journal)} (noted : run.session.EndsNoted) (signals : run.journal.signals = [])
    (kills : run.journal.kills = []) (survivors : run.teardownFailures = [])
    (answered : (((run.stopAll world.recorded scenario more).collectRest
      world.recorded).reapGroups world.recorded).journal.Answered)
    (gone : (run.endAll world.recorded scenario more).2.session.Over world.recorded) :
    let torn := ((run.stopAll world.recorded scenario more).collectRest
      world.recorded).reapGroups world.recorded
    torn.PutToRest (run.refresh world.recorded)
      ((run.refresh world.recorded).requestStops world.recorded scenario more).2 torn.journal := by
  have same := stopAll_session world scenario more run
  rw [← same] at gone
  have refreshed := refresh_steps world run
  have begun := (refreshed.reaches scenario).endsNoted noted
  have reached := stopAll_reaches world scenario more run
  have cleaning := cleanUp_endings world (run.stopAll world.recorded scenario more)
  have reaping := reapGroups_signals world
    ((run.stopAll world.recorded scenario more).collectRest world.recorded)
  have none := collectRest_living gone
    (answered.earlier ((endings_of_signals reaping).reaches scenario).journal_grows)
  obtain ⟨sent, killed, part, killedAll⟩ := endAll_journal world scenario more run
  obtain ⟨cleaned, cleanedKills⟩ := cleanUp_journal world none
  rw [stopAll_journal] at cleaned cleanedKills
  refine ⟨(frame_of_signals reaping).living_eq_nil none, fun failure given => ?_, ?_, ?_, ?_,
    fun index => ⟨?_, fun alive => ?_⟩⟩
  · rw [cleaning.frame.teardownFailures] at given
    obtain ⟨index, alive, process, found, rfl⟩ := stopAll_survivors survivors given
    obtain ⟨later, foundLater, continues⟩ := cleaning.frame.processes.each index process found
    rw [same] at alive
    refine ⟨index, endAll_living_subset alive, later, foundLater, ?_⟩
    rw [continues.role, continues.pid]
  · rw [cleaned, sent, signals, List.nil_append]
  · rw [cleanedKills, killedAll, kills, List.nil_append]
    exact part
  · exact (requestStops_endings world scenario more _).frame.living_subset
  · have ending := (refresh_endAll_endings world scenario more run).frame.processes
    rw [← same] at ending
    exact alive_of_stopsBeforeEnd (ending.trans cleaning.frame.processes) begun
      ((cleaning.reaches scenario).endsNoted (reached.endsNoted noted))
      (refreshed.quiet.signals.trans signals)
  · have grown := (cleaning.reaches scenario).journal_grows
    rw [stopAll_journal] at grown
    exact (endAll_stops noted alive).extend grown

theorem PutToRest.forget {run stopping graced : Run (σ × Journal)} {journal : Journal}
    (rest : run.PutToRest stopping graced journal) :
    run.forget.PutToRest stopping.forget graced.forget journal :=
  ⟨rest.living, rest.survivors, rest.signals, rest.kills, rest.stragglers, rest.stops⟩

end Run

end Rendezvous
