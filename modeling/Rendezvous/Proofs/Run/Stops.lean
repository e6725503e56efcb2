import Rendezvous.Proofs.Run.Frame

/-!
How the processes of a run are stopped.

A signal to every living process goes to the last one first.  The journal says
which processes got one, and waiting in between adds no signals to it.
-/

set_option autoImplicit false

namespace Rendezvous

variable {σ : Type}

namespace Session

/-- The places of the living processes among some of them, counted from a number on. -/
def livingFrom (first : Nat) (processes : List RoleProcess) : List Nat :=
  ((processes.zipIdx first).filter fun place => place.1.isAlive).map Prod.snd

/-- The processes without a recorded end, in start order. -/
def living (session : Session σ) : List Nat :=
  livingFrom 0 session.processes

theorem livingFrom_cons (first : Nat) (process : RoleProcess) (rest : List RoleProcess) :
    livingFrom first (process :: rest) =
      (if process.isAlive then [first] else []) ++ livingFrom (first + 1) rest := by
  cases alive : process.isAlive <;> simp [livingFrom, alive]

theorem mem_livingFrom {first index : Nat} {processes : List RoleProcess} :
    index ∈ livingFrom first processes ↔
      first ≤ index ∧ ∃ process, processes[index - first]? = some process ∧
        process.isAlive = true := by
  simp only [livingFrom, List.mem_map, List.mem_filter, Prod.exists,
    List.mem_zipIdx_iff_le_and_getElem?_sub]
  constructor
  · rintro ⟨process, _, ⟨⟨atLeast, found⟩, alive⟩, rfl⟩
    exact ⟨atLeast, process, found, alive⟩
  · rintro ⟨atLeast, process, found, alive⟩
    exact ⟨process, index, ⟨⟨atLeast, found⟩, alive⟩, rfl⟩

theorem mem_living {session : Session σ} {index : Nat} :
    index ∈ session.living ↔
      ∃ process, session.processes[index]? = some process ∧ process.isAlive = true := by
  simp [living, mem_livingFrom]

theorem living_eq_nil_iff {session : Session σ} :
    session.living = [] ↔ ∀ process ∈ session.processes, process.isAlive = false := by
  constructor
  · intro none process membership
    obtain ⟨index, found⟩ := List.mem_iff_getElem?.mp membership
    refine Bool.eq_false_iff.mpr fun alive => ?_
    have living : index ∈ session.living := mem_living.mpr ⟨process, found, alive⟩
    simp [none] at living
  · intro ended
    refine List.eq_nil_iff_forall_not_mem.mpr fun index membership => ?_
    obtain ⟨process, found, alive⟩ := mem_living.mp membership
    have dead := ended process (List.mem_of_getElem? found)
    simp [dead] at alive

theorem living_subset {before after : Session σ}
    (continues : RoleProcess.AllContinue before.processes after.processes) :
    after.living ⊆ before.living := by
  intro index membership
  obtain ⟨later, found, alive⟩ := mem_living.mp membership
  obtain ⟨process, foundEarlier, continued⟩ := continues.earlier found
  refine mem_living.mpr ⟨process, foundEarlier, ?_⟩
  refine Bool.of_not_eq_false fun ended => ?_
  exact Bool.eq_false_iff.mp (continued.ended ended) alive

end Session

namespace Run

theorem Frame.living_subset {before after : Run σ} (frame : before.Frame after) :
    after.session.living ⊆ before.session.living :=
  Session.living_subset frame.processes

/-- Who has ended does not come back. -/
theorem Frame.living_eq_nil {before after : Run σ} (frame : before.Frame after)
    (none : before.session.living = []) : after.session.living = [] := by
  have fewer := frame.living_subset
  rw [none] at fewer
  exact List.subset_nil.mp fewer

theorem allEnded_iff (session : Session σ) (now : Duration) :
    allEnded session.processes now = true ↔ session.living = [] := by
  rw [Session.living_eq_nil_iff]
  simp [allEnded]

theorem forLiving_signals {action : Nat → RoleProcess → σ × Journal → RoleProcess × (σ × Journal)}
    (acts : ∀ (before after : List RoleProcess) {process : RoleProcess},
      process.isAlive = true → ∀ (seq : Nat) (outside : σ × Journal),
        Session.Signals ⟨outside, before ++ process :: after, seq⟩
          ⟨(action before.length process outside).2,
            before ++ (action before.length process outside).1 :: after, seq⟩)
    (before rest : List RoleProcess) (seq : Nat) (outside : σ × Journal) :
    Session.Signals ⟨outside, before ++ rest, seq⟩
      ⟨(forLiving action (rest.zipIdx before.length) outside).2,
        before ++ (forLiving action (rest.zipIdx before.length) outside).1, seq⟩ := by
  induction rest generalizing before with
  | nil => exact .refl
  | cons process rest inductionHypothesis =>
      have others := inductionHypothesis (before ++ [process])
      simp only [List.length_append, List.length_singleton, List.append_assoc,
        List.singleton_append] at others
      rw [List.zipIdx_cons, forLiving]
      by_cases alive : process.isAlive = true
      · simp only [if_pos alive]
        exact others.trans (acts before _ alive seq _)
      · simp only [if_neg alive]
        exact others

/-- What is done to the living processes enters the journal for the last one first. -/
theorem forLiving_journal {α : Type} (view : Journal → List α) (note : Nat → List α)
    {action : Nat → RoleProcess → σ × Journal → RoleProcess × (σ × Journal)}
    (acts : ∀ (index : Nat) {process : RoleProcess}, process.isAlive = true →
      ∀ outside : σ × Journal,
        view (action index process outside).2.2 = view outside.2 ++ note index)
    (first : Nat) (processes : List RoleProcess) (outside : σ × Journal) :
    view (forLiving action (processes.zipIdx first) outside).2.2 =
      view outside.2 ++ (Session.livingFrom first processes).reverse.flatMap note := by
  induction processes generalizing first with
  | nil => simp [forLiving, Session.livingFrom]
  | cons process rest inductionHypothesis =>
      rw [List.zipIdx_cons, forLiving, Session.livingFrom_cons]
      by_cases alive : process.isAlive = true
      · simp only [if_pos alive, acts first alive, inductionHypothesis (first + 1),
          List.reverse_append, List.flatMap_append, List.reverse_singleton,
          List.flatMap_singleton, List.append_assoc]
      · simp only [if_neg alive, inductionHypothesis (first + 1), List.nil_append]

/-- What is done to the living processes, for those of whom it makes the same each time. -/
theorem forLiving_fst {action : Nat → RoleProcess → σ → RoleProcess × σ}
    {change : RoleProcess → RoleProcess}
    (changes : ∀ (index : Nat) {process : RoleProcess}, process.isAlive = true →
      ∀ outside : σ, (action index process outside).1 = change process)
    (first : Nat) (processes : List RoleProcess) (outside : σ) :
    (forLiving action (processes.zipIdx first) outside).1 =
      processes.map fun process => if process.isAlive then change process else process := by
  induction processes generalizing first with
  | nil => rfl
  | cons process rest inductionHypothesis =>
      rw [List.zipIdx_cons, forLiving, List.map_cons, ← inductionHypothesis (first + 1)]
      by_cases alive : process.isAlive = true
      · simp only [if_pos alive, changes first alive]
      · simp only [if_neg alive]

theorem terminateAll_processes (world : World σ) (run : Run σ) :
    (run.terminateAll world).session.processes = run.session.processes.map fun process =>
      if process.isAlive then process.requestStop else process := by
  refine forLiving_fst (fun index process alive outside => ?_) 0 _ _
  rw [Session.terminateProcess, if_pos alive]

theorem terminateAll_signals (world : World σ) (run : Run (σ × Journal)) :
    Session.Signals run.session (run.terminateAll world.recorded).session :=
  forLiving_signals (fun before after _ alive seq outside =>
    Session.terminateProcess_signals world before after alive seq outside)
    [] run.session.processes run.session.nextSeq run.session.outside

theorem killAll_signals (world : World σ) (run : Run (σ × Journal)) :
    Session.Signals run.session (run.killAll world.recorded).session :=
  forLiving_signals (fun before after _ alive seq outside =>
    Session.killProcess_signals world before after alive seq outside)
    [] run.session.processes run.session.nextSeq run.session.outside

/-- Nothing but the living processes is killed. -/
theorem forLiving_kills
    {action : Nat → RoleProcess → σ × Journal → RoleProcess × (σ × Journal)}
    (acts : ∀ (index : Nat) {process : RoleProcess}, process.isAlive = true →
      ∀ outside : σ × Journal, ∃ killed, killed.Sublist [index] ∧
        (action index process outside).2.2.kills = outside.2.kills ++ killed)
    (first : Nat) (processes : List RoleProcess) (outside : σ × Journal) :
    ∃ killed, killed.Sublist (Session.livingFrom first processes).reverse ∧
      (forLiving action (processes.zipIdx first) outside).2.2.kills =
        outside.2.kills ++ killed := by
  induction processes generalizing first with
  | nil => exact ⟨[], List.nil_sublist _, (List.append_nil _).symm⟩
  | cons process rest inductionHypothesis =>
      obtain ⟨others, part, kills⟩ := inductionHypothesis (first + 1)
      rw [List.zipIdx_cons, forLiving, Session.livingFrom_cons]
      by_cases alive : process.isAlive = true
      · obtain ⟨last, lastPart, lastKills⟩ := acts first alive
          (forLiving action (rest.zipIdx (first + 1)) outside).2
        refine ⟨others ++ last, ?_, ?_⟩
        · simpa only [if_pos alive, List.reverse_append, List.reverse_singleton]
            using part.append lastPart
        · simp only [if_pos alive, lastKills, kills, List.append_assoc]
      · refine ⟨others, ?_, ?_⟩
        · simpa only [if_neg alive, List.nil_append] using part
        · simpa only [if_neg alive] using kills

/-- The requests to stop go to the living processes, the last one first. -/
theorem terminateAll_journal (world : World σ) (run : Run (σ × Journal)) :
    (run.terminateAll world.recorded).journal.signals =
      run.journal.signals ++ run.session.living.reverse.map (·, StopSignal.terminate) := by
  rw [List.map_eq_flatMap]
  refine forLiving_journal Journal.signals _ (fun index process alive outside => ?_) 0 _ _
  simp [Session.terminateProcess, alive, Journal.signals]

/-- A request to stop kills nothing. -/
theorem terminateAll_kills (world : World σ) (run : Run (σ × Journal)) :
    (run.terminateAll world.recorded).journal.kills = run.journal.kills := by
  refine (forLiving_journal Journal.kills (fun _ => []) (fun index process alive outside => ?_)
    0 _ _).trans ?_
  · simp [Session.terminateProcess, alive, Journal.kills]
  · rw [List.flatMap_eq_nil_iff.mpr fun _ _ => rfl, List.append_nil]
    rfl

/-- The signals that kill go to the living processes, the last one first. -/
theorem killAll_journal (world : World σ) (run : Run (σ × Journal)) :
    (run.killAll world.recorded).journal.signals =
      run.journal.signals ++ run.session.living.reverse.map (·, StopSignal.kill) := by
  rw [List.map_eq_flatMap]
  refine forLiving_journal Journal.signals _ (fun index process alive outside => ?_) 0 _ _
  simp only [Session.killProcess, if_pos alive, World.recorded_signalGroup]
  cases Session.ignoreMissing (world.signalGroup index .kill outside.1).1 <;>
    simp [Journal.signals]

/-- Only living processes are killed themselves. -/
theorem killAll_kills (world : World σ) (run : Run (σ × Journal)) :
    ∃ killed, killed.Sublist run.session.living.reverse ∧
      (run.killAll world.recorded).journal.kills = run.journal.kills ++ killed := by
  refine forLiving_kills (fun index process alive outside => ?_) 0 _ _
  simp only [Session.killProcess, if_pos alive, World.recorded_signalGroup,
    World.recorded_killLeader]
  cases Session.ignoreMissing (world.signalGroup index .kill outside.1).1 with
  | error cause => exact ⟨[], List.nil_sublist _, by simp [Journal.kills]⟩
  | ok => exact ⟨[index], .refl _, by simp [Journal.kills]⟩

theorem reapEach_signals (world : World σ) (before rest : List RoleProcess) (seq : Nat)
    (outside : σ × Journal) :
    Session.Signals ⟨outside, before ++ rest, seq⟩
      ⟨reapEach world.recorded (rest.zipIdx before.length) outside, before ++ rest, seq⟩ := by
  induction rest generalizing before outside with
  | nil => exact .refl
  | cons process rest inductionHypothesis =>
      have others := inductionHypothesis (before ++ [process])
        (Session.reapGroup world.recorded before.length process outside)
      simp only [List.length_append, List.length_singleton, List.append_assoc,
        List.singleton_append] at others
      refine .trans ?_ others
      by_cases alive : process.isAlive = true
      · rw [Session.reapGroup, if_pos alive]
      · rw [Session.reapGroup, if_neg alive]
        exact .single (Session.reap_signal before rest (Bool.eq_false_iff.mpr alive) seq outside _)

theorem reapGroups_signals (world : World σ) (run : Run (σ × Journal)) :
    Session.Signals run.session (run.reapGroups world.recorded).session :=
  reapEach_signals world [] run.session.processes run.session.nextSeq run.session.outside

theorem reapEach_journal (world : World σ) {processes : List RoleProcess}
    (ended : ∀ process ∈ processes, process.isAlive = false) (first : Nat)
    (outside : σ × Journal) :
    let reaped := reapEach world.recorded (processes.zipIdx first) outside
    reaped.2.signals =
        outside.2.signals ++ (List.range' first processes.length).map (·, StopSignal.kill) ∧
      reaped.2.kills = outside.2.kills := by
  induction processes generalizing first outside with
  | nil => simp [reapEach]
  | cons process rest inductionHypothesis =>
      have dead := ended process List.mem_cons_self
      obtain ⟨signals, kills⟩ := inductionHypothesis (fun other membership =>
        ended other (List.mem_cons_of_mem process membership)) (first + 1)
        (Session.reapGroup world.recorded first process outside)
      refine ⟨signals.trans ?_, kills.trans ?_⟩
      · simp [Session.reapGroup, dead, Journal.signals, List.range'_succ]
      · simp [Session.reapGroup, dead, Journal.kills]

/-- When every process has ended, what each of them has left behind is killed. -/
theorem reapGroups_journal (world : World σ) {run : Run (σ × Journal)}
    (ended : ∀ process ∈ run.session.processes, process.isAlive = false) :
    (run.reapGroups world.recorded).journal.signals = run.journal.signals ++
        (List.range run.session.processes.length).map (·, StopSignal.kill) ∧
      (run.reapGroups world.recorded).journal.kills = run.journal.kills := by
  rw [List.range_eq_range']
  exact reapEach_journal world ended 0 run.session.outside

end Run

end Rendezvous
