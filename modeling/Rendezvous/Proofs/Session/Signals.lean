import Rendezvous.Proofs.Session.Moves
import Rendezvous.Session.Control

/-!
Signals to the processes of a session.
-/

set_option autoImplicit false

namespace Rendezvous

variable {σ : Type}

namespace Session

/-- One signal of a session that is recorded. -/
inductive Signal : Session (σ × Journal) → Session (σ × Journal) → Prop where
  /-- A living process and what it has started got a signal. -/
  | stop {session : Session (σ × Journal)} {index : Nat} {process : RoleProcess}
      (found : session.processes[index]? = some process) (alive : process.isAlive = true)
      (signal : StopSignal) (outside : σ) :
      Signal session {
        outside := (outside, session.journal ++ [.signalled index signal])
        processes := session.processes.set index process.requestStop
        nextSeq := session.nextSeq }
  /-- A living process that had been asked to stop was killed itself. -/
  | kill {session : Session (σ × Journal)} {index : Nat} {process : RoleProcess}
      (found : session.processes[index]? = some process) (alive : process.isAlive = true)
      (asked : process.stopRequested = true) (outside : σ) :
      Signal session { session with
        outside := (outside, session.journal ++ [.killed index]) }
  /-- What an ended process has left behind was killed. -/
  | reap {session : Session (σ × Journal)} {index : Nat} {process : RoleProcess}
      (found : session.processes[index]? = some process) (ended : process.isAlive = false)
      (outside : σ) :
      Signal session { session with
        outside := (outside, session.journal ++ [.signalled index .kill]) }

/-- Any number of signals. -/
abbrev Signals : Session (σ × Journal) → Session (σ × Journal) → Prop :=
  Relation.ReflTransGen Signal

/-- A signal starts nothing. -/
theorem Signal.journal {before after : Session (σ × Journal)} (signal : Signal before after) :
    ∃ later : Journal, after.journal = before.journal ++ later ∧ later.starts = [] := by
  cases signal with
  | stop _ _ sent _ => exact ⟨[.signalled _ sent], rfl, rfl⟩
  | kill _ _ _ _ => exact ⟨[.killed _], rfl, rfl⟩
  | reap _ _ _ => exact ⟨[.signalled _ .kill], rfl, rfl⟩

theorem stop_signal (before after : List RoleProcess) {process : RoleProcess}
    (alive : process.isAlive = true) (seq : Nat) (state : σ × Journal) (signal : StopSignal)
    (outside : σ) :
    Signal ⟨state, before ++ process :: after, seq⟩
      ⟨(outside, state.2 ++ [.signalled before.length signal]),
        before ++ process.requestStop :: after, seq⟩ := by
  have stop : Signal ⟨state, before ++ process :: after, seq⟩ _ :=
    .stop (getElem?_append_cons_length before after process) alive signal outside
  rwa [set_append_cons_length] at stop

theorem kill_signal (before after : List RoleProcess) {process : RoleProcess}
    (alive : process.isAlive = true) (asked : process.stopRequested = true) (seq : Nat)
    (state : σ × Journal) (outside : σ) :
    Signal ⟨state, before ++ process :: after, seq⟩
      ⟨(outside, state.2 ++ [.killed before.length]), before ++ process :: after, seq⟩ :=
  .kill (getElem?_append_cons_length before after process) alive asked outside

theorem reap_signal (before after : List RoleProcess) {process : RoleProcess}
    (ended : process.isAlive = false) (seq : Nat) (state : σ × Journal) (outside : σ) :
    Signal ⟨state, before ++ process :: after, seq⟩
      ⟨(outside, state.2 ++ [.signalled before.length .kill]), before ++ process :: after, seq⟩ :=
  .reap (getElem?_append_cons_length before after process) ended outside

theorem terminateProcess_signals (world : World σ) (before after : List RoleProcess)
    {process : RoleProcess} (alive : process.isAlive = true) (seq : Nat) (outside : σ × Journal) :
    let asked := terminateProcess world.recorded before.length process outside
    Signals ⟨outside, before ++ process :: after, seq⟩
      ⟨asked.2.2, before ++ asked.2.1 :: after, seq⟩ := by
  simp only [terminateProcess, if_pos alive, World.recorded_signalGroup]
  exact .single (stop_signal before after alive seq outside .terminate _)

theorem killProcess_signals (world : World σ) (before after : List RoleProcess)
    {process : RoleProcess} (alive : process.isAlive = true) (seq : Nat) (outside : σ × Journal) :
    let killed := killProcess world.recorded before.length process outside
    Signals ⟨outside, before ++ process :: after, seq⟩
      ⟨killed.2.2, before ++ killed.2.1 :: after, seq⟩ := by
  simp only [killProcess, if_pos alive, World.recorded_signalGroup, World.recorded_killLeader]
  have stop := stop_signal before after alive seq outside .kill
    (world.signalGroup before.length .kill outside.1).2
  cases ignoreMissing (world.signalGroup before.length .kill outside.1).1 with
  | error cause => exact .single stop
  | ok =>
      have living : process.requestStop.isAlive = true := alive
      exact (Relation.ReflTransGen.single stop).tail (kill_signal before after living rfl seq _ _)

end Session

end Rendezvous
