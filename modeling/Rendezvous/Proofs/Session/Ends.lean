import Rendezvous.Proofs.Session.Continues
import Rendezvous.Proofs.Session.Pending

/-!
The ends of processes, as the journal shows them.

The recorded end of a process is the first one that a check found, and it counts
as asked for exactly when a signal was sent before it was found.
-/

set_option autoImplicit false

namespace Rendezvous

variable {σ : Type}

namespace RoleProcess

/-- Whether a signal came before the end was noticed, or has come if it was not. -/
def wasStopped (process : RoleProcess) : Bool :=
  match process.exit with
  | none => process.stopRequested
  | some record => record.afterStop

theorem exitState_of_exitStatus {process : RoleProcess} {status : ExitStatus}
    (ended : process.exitStatus? = some status) :
    process.exitState =
      if process.wasStopped then .ofStopped status else .ofStatus status := by
  obtain ⟨record, recorded, rfl⟩ := Option.map_eq_some_iff.mp ended
  simp only [exitState, wasStopped, recorded]

theorem exitStatus_eq_none_iff {process : RoleProcess} :
    process.exitStatus? = none ↔ process.isAlive = true := by
  rw [exitStatus?, isAlive, Option.map_eq_none_iff, Option.isNone_iff_eq_none]

theorem exitStatus_of_ended {process : RoleProcess} (ended : process.isAlive = false) :
    ∃ status, process.exitStatus? = some status := by
  refine Option.ne_none_iff_exists'.mp fun unknown => ?_
  exact Bool.eq_false_iff.mp ended (exitStatus_eq_none_iff.mp unknown)

theorem afterCheck_exitStatus {process : RoleProcess} (alive : process.isAlive = true)
    (now : Duration) (answer : Except SystemError (Option ExitStatus)) :
    (process.afterCheck now answer).exitStatus? = answer.toOption.join := by
  have none : process.exit = none := Option.isNone_iff_eq_none.mp alive
  rcases answer with _ | _ | status <;>
    simp [afterCheck, noticeExit, exitStatus?, none, Except.toOption]

theorem afterCheck_wasStopped {process : RoleProcess} (alive : process.isAlive = true)
    (now : Duration) (answer : Except SystemError (Option ExitStatus)) :
    (process.afterCheck now answer).wasStopped = process.wasStopped := by
  have none : process.exit = none := Option.isNone_iff_eq_none.mp alive
  rcases answer with _ | _ | status <;> simp [afterCheck, noticeExit, wasStopped, none]

theorem requestStop_wasStopped {process : RoleProcess} (alive : process.isAlive = true) :
    process.requestStop.wasStopped = true := by
  have none : process.exit = none := Option.isNone_iff_eq_none.mp alive
  simp [requestStop, wasStopped, none]

/-- A recorded end tells for good whether the process was stopped. -/
theorem Continues.wasStopped {before after : RoleProcess} (continues : before.Continues after)
    (ended : before.isAlive = false) : after.wasStopped = before.wasStopped := by
  obtain ⟨record, recorded⟩ := Option.isSome_iff_exists.mp (Option.isNone_eq_false_iff.mp ended)
  simp only [RoleProcess.wasStopped, recorded, continues.exit record recorded]

end RoleProcess

namespace Session

/-- How the process of a number has ended, as far as that was noticed. -/
def endOf (session : Session σ) (index : Nat) : Option ExitStatus :=
  session.processes[index]?.bind RoleProcess.exitStatus?

/-- Whether the process of a number was stopped. -/
def wasStopped (session : Session σ) (index : Nat) : Bool :=
  session.processes[index]?.any RoleProcess.wasStopped

theorem endOf_of_getElem? {session : Session σ} {index : Nat} {process : RoleProcess}
    (found : session.processes[index]? = some process) :
    session.endOf index = process.exitStatus? := by
  rw [endOf, found, Option.bind_some]

theorem wasStopped_of_getElem? {session : Session σ} {index : Nat} {process : RoleProcess}
    (found : session.processes[index]? = some process) :
    session.wasStopped index = process.wasStopped := by
  rw [wasStopped, found, Option.any_some]

/-- The ends in the records are those in the journal, and the signals before them too. -/
structure EndsNoted (session : Session (σ × Journal)) : Prop where
  ends : ∀ index, session.endOf index = session.journal.firstEnd index
  stops : ∀ index, session.wasStopped index = true ↔ session.journal.StopsBeforeEnd index

variable {before after : Session (σ × Journal)}

/-- One event and what it means for the ends. -/
theorem EndsNoted.event (noted : before.EndsNoted) {event : Event}
    (journal : after.journal = before.journal ++ [event])
    (ends : ∀ index, after.endOf index =
      (before.endOf index).or (Journal.firstEnd [event] index))
    (stops : ∀ index, after.wasStopped index = true ↔ before.wasStopped index = true ∨
      before.endOf index = none ∧ ∃ signal, event = .signalled index signal) :
    after.EndsNoted := by
  refine ⟨fun index => ?_, fun index => ?_⟩
  · rw [ends, journal, Journal.firstEnd_append, noted.ends]
  · rw [stops, journal, Journal.stopsBeforeEnd_append_singleton, noted.stops, noted.ends]

/-- What changes neither the journal nor the ends. -/
theorem EndsNoted.same (noted : before.EndsNoted) (journal : after.journal = before.journal)
    (ends : ∀ index, after.endOf index = before.endOf index)
    (stops : ∀ index, after.wasStopped index = before.wasStopped index) : after.EndsNoted := by
  refine ⟨fun index => ?_, fun index => ?_⟩
  · rw [ends, journal, noted.ends]
  · rw [stops, journal, noted.stops]

/-- One event about a process, and what it means for the end of that process. -/
theorem EndsNoted.set (noted : before.EndsNoted) {index : Nat} {process changed : RoleProcess}
    (found : before.processes[index]? = some process) {event : Event}
    (elsewhere : ∀ other, index ≠ other →
      Journal.firstEnd [event] other = none ∧ ∀ signal, event ≠ .signalled other signal)
    (ends : changed.exitStatus? = process.exitStatus?.or (Journal.firstEnd [event] index))
    (stops : changed.wasStopped = true ↔ process.wasStopped = true ∨
      process.exitStatus? = none ∧ ∃ signal, event = .signalled index signal)
    (outside : σ) (seq : Nat) :
    EndsNoted ⟨(outside, before.journal ++ [event]), before.processes.set index changed, seq⟩ := by
  obtain ⟨bound, rfl⟩ := List.getElem?_eq_some_iff.mp found
  refine noted.event rfl (fun other => ?_) fun other => ?_
  · rw [endOf, endOf, List.getElem?_set]
    by_cases same : index = other
    · subst same
      simpa [bound] using ends
    · simp [same, (elsewhere other same).1]
  · rw [wasStopped, wasStopped, endOf, List.getElem?_set]
    by_cases same : index = other
    · subst same
      simpa [bound] using stops
    · simp [same, (elsewhere other same).2]

/-- A change to a process that is no event and has nothing to do with its end. -/
theorem EndsNoted.setSame (noted : before.EndsNoted) {index : Nat} {process changed : RoleProcess}
    (found : before.processes[index]? = some process)
    (ends : changed.exitStatus? = process.exitStatus?)
    (stops : changed.wasStopped = process.wasStopped) (seq : Nat) :
    EndsNoted ⟨before.outside, before.processes.set index changed, seq⟩ := by
  obtain ⟨bound, rfl⟩ := List.getElem?_eq_some_iff.mp found
  refine noted.same rfl (fun other => ?_) fun other => ?_
  · rw [endOf, endOf, List.getElem?_set]
    by_cases same : index = other
    · subst same
      simp [bound, ends]
    · simp [same]
  · rw [wasStopped, wasStopped, List.getElem?_set]
    by_cases same : index = other
    · subst same
      simp [bound, stops]
    · simp [same]

theorem EndsNoted.move (noted : before.EndsNoted) (move : Move before after) :
    after.EndsNoted := by
  cases move with
  | @check index process found alive answer now outside =>
      have unknown := RoleProcess.exitStatus_eq_none_iff.mpr alive
      refine noted.set found (fun other different => ⟨?_, by simp⟩) ?_ ?_ outside _
      · rcases answer with _ | _ | status <;> simp [Journal.firstEnd, different]
      · rw [RoleProcess.afterCheck_exitStatus alive, unknown]
        rcases answer with _ | _ | status <;> simp [Journal.firstEnd, Except.toOption]
      · simp [RoleProcess.afterCheck_wasStopped alive]
  | @receive index process found key isOpen outcome outside =>
      refine noted.set found (fun other different => ⟨rfl, by simp⟩) ?_ ?_ outside _
      · cases key <;> exact (Option.or_none).symm
      · cases key <;> simp [RoleProcess.setStream, RoleProcess.wasStopped]
  | @close index process found key isOpen =>
      refine noted.setSame found ?_ ?_ _
      · cases key <;> rfl
      · cases key <;> rfl
  | sleep outside => exact noted.same rfl (fun _ => rfl) fun _ => rfl

theorem EndsNoted.signal (noted : before.EndsNoted) (signal : Signal before after) :
    after.EndsNoted := by
  cases signal with
  | @stop index process found alive signal outside =>
      refine noted.set found (fun other different => ⟨rfl, by simp [different]⟩) ?_ ?_ outside _
      · exact (Option.or_none).symm
      · simp [RoleProcess.requestStop_wasStopped alive,
          RoleProcess.exitStatus_eq_none_iff.mpr alive]
  | @kill index process found alive asked outside =>
      refine noted.event rfl (fun other => ?_) fun other => ?_
      · exact (Option.or_none).symm
      · simp [wasStopped]
  | @reap index process found ended outside =>
      have known : process.exitStatus? ≠ none := fun unknown =>
        Bool.eq_false_iff.mp ended (RoleProcess.exitStatus_eq_none_iff.mp unknown)
      refine noted.event rfl (fun other => (Option.or_none).symm) fun other => ?_
      have other_of_none : before.endOf other = none → other ≠ index := by
        rintro unknown rfl
        exact known ((endOf_of_getElem? found).symm.trans unknown)
      constructor
      · exact Or.inl
      · rintro (stopped | ⟨unknown, signal, same⟩)
        · exact stopped
        · cases same
          exact absurd rfl (other_of_none unknown)

theorem EndsNoted.signals (noted : before.EndsNoted) (signals : Signals before after) :
    after.EndsNoted := by
  induction signals with
  | refl => exact noted
  | tail _ signal inductionHypothesis => exact inductionHypothesis.signal signal

theorem EndsNoted.takeLines (noted : before.EndsNoted) : before.takeLines.2.EndsNoted := by
  refine noted.same rfl (fun index => ?_) fun index => ?_
  · rw [endOf, endOf, takeLines_processes, List.getElem?_map, Option.bind_map]
    rfl
  · rw [wasStopped, wasStopped, takeLines_processes, List.getElem?_map, Option.any_map]
    rfl

/-- A process that has just been started has no end. -/
theorem EndsNoted.launch (noted : before.EndsNoted) (role : Role) (pid : Nat)
    (line : CommandLine) (env : Variables) (now : Duration) (historyLines : Nat) (outside : σ)
    (answer : Except SystemError Nat) :
    EndsNoted { before with
      outside := (outside, before.journal ++ [.launched line env answer])
      processes := before.processes ++ [.started role pid line now historyLines] } := by
  have beyond : ∀ index, before.processes.length < index →
      (before.processes ++ [RoleProcess.started role pid line now historyLines])[index]? = none := by
    intro index beyond
    refine List.getElem?_eq_none ?_
    rw [List.length_append]
    exact beyond
  refine noted.event rfl (fun index => ?_) fun index => ?_
  · refine Eq.trans ?_ (Option.or_none).symm
    rw [endOf, endOf]
    rcases Nat.lt_trichotomy index before.processes.length with old | rfl | new
    · rw [List.getElem?_append_left old]
    · simp [RoleProcess.started, RoleProcess.exitStatus?]
    · rw [beyond index new, List.getElem?_eq_none (Nat.le_of_lt new)]
  · rw [wasStopped, wasStopped]
    rcases Nat.lt_trichotomy index before.processes.length with old | rfl | new
    · simp [List.getElem?_append_left old]
    · simp [RoleProcess.started, RoleProcess.wasStopped]
    · simp [beyond index new, List.getElem?_eq_none (Nat.le_of_lt new)]

end Session

end Rendezvous
