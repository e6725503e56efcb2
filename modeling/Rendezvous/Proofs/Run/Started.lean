import Rendezvous.Proofs.Run.Forgotten
import Rendezvous.Proofs.Run.Judgement
import Rendezvous.Proofs.Run.Teardown

/-!
Which processes a run has started.

Every process belongs to a role of the scenario and was started with its command
line, and every start that succeeded is in the journal.  A run from its start to
its verdict has started its roles as far as its drive came.
-/

set_option autoImplicit false

namespace Rendezvous

namespace Run

variable {σ : Type}

/-- Every process was started with the command line that the scenario has for its role. -/
def Planned (scenario : Scenario) (run : Run σ) : Prop :=
  ∀ process ∈ run.session.processes,
    scenario.commandLine process.role = .ok process.commandLine

theorem Frame.planned {scenario : Scenario} {before after : Run σ} (frame : before.Frame after)
    (planned : before.Planned scenario) : after.Planned scenario := by
  intro later membership
  obtain ⟨index, found⟩ := List.mem_iff_getElem?.mp membership
  obtain ⟨process, foundEarlier, continues⟩ := frame.processes.earlier found
  rw [continues.role, continues.commandLine]
  exact planned process (List.mem_of_getElem? foundEarlier)

theorem Change.planned {scenario : Scenario} {before after : Run (σ × Journal)}
    (change : Change scenario before after) (planned : before.Planned scenario) :
    after.Planned scenario := by
  cases change with
  | advance advance =>
      cases advance with
      | step step => exact step.frame.planned planned
      | note _ _ _ => exact planned
      | launched plan _ _ _ _ =>
          intro process membership
          rcases List.mem_append.mp membership with old | new
          · exact planned process old
          · obtain rfl := List.mem_singleton.mp new
            exact plan
      | refused _ _ _ _ => exact planned
  | signal signal => exact (frame_of_signals (.single signal)).planned planned
  | survivors => exact planned

theorem Reaches.planned {scenario : Scenario} {before after : Run (σ × Journal)}
    (reaches : Reaches scenario before after) (planned : before.Planned scenario) :
    after.Planned scenario :=
  reaches.keeps (fun _ _ change => change.planned) planned

/-- How a process was started if it got the variables that the scenario has for its role. -/
def startOf (scenario : Scenario) (process : RoleProcess) : CommandLine × Variables × Nat :=
  (process.commandLine, scenario.envOf process.role, process.pid)

/-- The processes are those whose start is in the journal, each with the variables of its role. -/
def Launched (scenario : Scenario) (run : Run (σ × Journal)) : Prop :=
  run.journal.starts = run.session.processes.map (startOf scenario)

theorem Launched.of_frame {scenario : Scenario} {before after : Run (σ × Journal)}
    (launched : before.Launched scenario) (frame : before.Frame after) {later : Journal}
    (grown : after.journal = before.journal ++ later) (nothing : later.starts = []) :
    after.Launched scenario := by
  have same : after.session.processes.map (startOf scenario) =
      before.session.processes.map (startOf scenario) := by
    refine frame.processes.map_eq fun continues => ?_
    rw [startOf, startOf, continues.commandLine, continues.role, continues.pid]
  rw [Launched, grown, Journal.starts_append, nothing, List.append_nil, same]
  exact launched

theorem Change.launched {scenario : Scenario} {before after : Run (σ × Journal)}
    (change : Change scenario before after) (launched : before.Launched scenario) :
    after.Launched scenario := by
  cases change with
  | advance advance =>
      cases advance with
      | step step =>
          obtain ⟨later, grown, nothing, -, -⟩ := step.journal
          exact launched.of_frame step.frame grown nothing
      | note _ _ _ => exact launched
      | launched _ _ pid _ _ =>
          simp only [Launched, afterLaunch, journal, Session.journal, Journal.starts_append,
            List.map_append, List.map_singleton]
          exact congrArg (· ++ _) launched
      | refused _ _ _ _ =>
          simp only [Launched, afterRefusal, journal, Session.journal, Journal.starts_append]
          exact (List.append_nil _).trans launched
  | signal signal =>
      obtain ⟨later, grown, nothing⟩ := signal.journal
      exact launched.of_frame (frame_of_signals (.single signal)) grown nothing
  | survivors => exact launched

theorem Reaches.launched {scenario : Scenario} {before after : Run (σ × Journal)}
    (reaches : Reaches scenario before after) (launched : before.Launched scenario) :
    after.Launched scenario :=
  reaches.keeps (fun _ _ change => change.launched) launched

theorem forget_start (world : World σ) (transcript : Transcript) (outside : σ) :
    (Run.start world.recorded transcript (outside, [])).forget =
      Run.start world transcript outside := rfl

/-- What holds of a recorded run that was torn down, without its journal. -/
theorem start_settle (world : World σ) (scenario : Scenario) (more : Nat)
    (transcript : Transcript) (outside : σ) :
    (Run.start world transcript outside).settle world scenario more =
      ((Run.start world.recorded transcript (outside, [])).settle world.recorded scenario
        more).forget :=
  (settle_forget world scenario more (.start world.recorded transcript (outside, []))).symm

/-- A verdict adds nothing to the journal. -/
theorem recorded_journal (world : World σ) (scenario : Scenario) (more : Nat)
    (transcript : Transcript) (outside : σ) :
    (recorded world scenario more transcript outside).2.journal =
      ((Run.start world.recorded transcript (outside, [])).settle world.recorded scenario
        more).journal :=
  congrArg Session.journal (aggregate_session world.recorded scenario _)

theorem start_settle_launched (world : World σ) (scenario : Scenario) (more : Nat)
    (transcript : Transcript) (outside : σ) :
    (recorded world scenario more transcript outside).2.journal.starts =
      ((Run.start world transcript outside).settle world scenario more).session.processes.map
        (startOf scenario) := by
  have begun : (Run.start world.recorded transcript (outside, [])).Launched scenario := rfl
  have launched := (settle_reaches world scenario more
    (start_stands world.recorded transcript (outside, []))).launched begun
  rw [recorded_journal, start_settle world scenario more transcript outside]
  generalize (Run.start world.recorded transcript (outside, [])).settle world.recorded scenario
    more = settled at launched
  exact launched

/-- A run begins with the start of the server, with its variables, whether that succeeds or not. -/
theorem start_settle_head (world : World σ) {scenario : Scenario} (more : Nat)
    (transcript : Transcript) (outside : σ) {line : CommandLine}
    (built : scenario.commandLine .server = .ok line) :
    ∃ answer, (recorded world scenario more transcript outside).2.journal.head? =
      some (.launched line (scenario.envOf .server) answer) := by
  have stands := start_stands world.recorded transcript (outside, [])
  obtain ⟨answer, tried⟩ := launch_journal world built
    ((Run.start world.recorded transcript (outside, [])).enter .serverStarting)
  have grown := Reaches.journal_grows
    ((launch_drive_advances world scenario more stands).reaches.trans
      (drive_settle_reaches world scenario more _))
  rw [tried] at grown
  obtain ⟨later, whole⟩ := grown
  refine ⟨answer, ?_⟩
  rw [recorded_journal, ← whole]
  rfl

theorem start_settle_planned (world : World σ) (scenario : Scenario) (more : Nat)
    (transcript : Transcript) (outside : σ) :
    ((Run.start world transcript outside).settle world scenario more).Planned scenario := by
  have started : (Run.start world.recorded transcript (outside, [])).Planned scenario := by
    intro process membership
    cases membership
  have planned := (settle_reaches world scenario more
    (start_stands world.recorded transcript (outside, []))).planned started
  rw [start_settle]
  generalize (Run.start world.recorded transcript (outside, [])).settle world.recorded scenario
    more = settled at planned
  exact planned

theorem markerWait_forget (world : World σ) (scenario : Scenario) (more : Nat)
    (run : Run (σ × Journal)) :
    run.markerWait world.recorded scenario more = run.forget.markerWait world scenario more := by
  have entered : ∀ (run : Run (σ × Journal)) (phase : Phase),
      run.forget.enter phase = (run.enter phase).forget := fun _ _ => rfl
  unfold markerWait
  rw [entered, ← launch_forget]
  rcases (run.enter .serverStarting).launch world.recorded scenario .server with ⟨_ | _, starting⟩
  · rfl
  · dsimp only [Prod.map_apply, id_eq]
    rw [entered, ← awaitMarker_forget]
    rfl

theorem start_settle_course (world : World σ) (scenario : Scenario) (more : Nat)
    (transcript : Transcript) (outside : σ) :
    ∃ satisfied phases roles,
      Course scenario ((Run.start world transcript outside).drive world scenario more).1
          ((Run.start world transcript outside).markerWait world scenario more)
          satisfied phases roles ∧
        ((Run.start world transcript outside).settle world scenario more).phases =
          phases ++ [.teardown] ∧
        ((Run.start world transcript outside).settle world scenario more).handshakeSatisfied =
          satisfied ∧
        ((Run.start world transcript outside).settle world scenario more).roles = roles ∧
        (((Run.start world transcript outside).settle world scenario more).failures = [] ↔
          ((Run.start world transcript outside).drive world scenario more).1 = .ok ()) := by
  have drive : ((Run.start world transcript outside).drive world scenario more).1 =
      ((Run.start world.recorded transcript (outside, [])).drive world.recorded scenario
        more).1 :=
    (congrArg Prod.fst (drive_forget world scenario more
      (.start world.recorded transcript (outside, [])))).symm
  have course := settle_course world scenario more
    (start_stands world.recorded transcript (outside, []))
  rw [markerWait_forget] at course
  rw [start_settle, drive]
  generalize (Run.start world.recorded transcript (outside, [])).settle world.recorded scenario
    more = settled at course
  exact course

end Run

theorem Scenario.mem_activeRoles_of_commandLine {scenario : Scenario} {role : Role}
    {line : CommandLine} (planned : scenario.commandLine role = .ok line) :
    role ∈ scenario.activeRoles := by
  refine List.mem_filter.mpr ⟨Role.mem_all role, ?_⟩
  cases plan : scenario.roles.get role with
  | none => simp [commandLine, plan] at planned
  | some _ => rfl

end Rendezvous
