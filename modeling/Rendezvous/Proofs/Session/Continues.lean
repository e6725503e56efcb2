import Rendezvous.Proofs.Session.Signals

/-!
What no move and no signal changes about a process: who it is, and its recorded
end.
-/

set_option autoImplicit false

namespace Rendezvous

variable {σ : Type}

/-- The same process at a later time. -/
structure RoleProcess.Continues (before after : RoleProcess) : Prop where
  role : after.role = before.role
  pid : after.pid = before.pid
  commandLine : after.commandLine = before.commandLine
  exit : ∀ record, before.exit = some record → after.exit = some record

namespace RoleProcess

theorem Continues.refl (process : RoleProcess) : process.Continues process :=
  ⟨rfl, rfl, rfl, fun _ ended => ended⟩

theorem Continues.trans {first second third : RoleProcess} (former : first.Continues second)
    (latter : second.Continues third) : first.Continues third :=
  ⟨latter.role.trans former.role, latter.pid.trans former.pid,
    latter.commandLine.trans former.commandLine,
    fun record ended => latter.exit record (former.exit record ended)⟩

theorem Continues.ended {before after : RoleProcess} (continues : before.Continues after)
    (ended : before.isAlive = false) : after.isAlive = false := by
  obtain ⟨record, recorded⟩ := Option.isSome_iff_exists.mp (Option.isNone_eq_false_iff.mp ended)
  simp [isAlive, continues.exit record recorded]

theorem continues_setStream (process : RoleProcess) (key : Stream) (stream : OutputStream) :
    process.Continues (process.setStream key stream) := by
  cases key <;> exact ⟨rfl, rfl, rfl, fun _ ended => ended⟩

theorem continues_requestStop (process : RoleProcess) : process.Continues process.requestStop :=
  ⟨rfl, rfl, rfl, fun _ ended => ended⟩

theorem continues_noticeExit (process : RoleProcess) (now : Duration) (status : ExitStatus) :
    process.Continues (process.noticeExit now status) := by
  cases ended : process.exit with
  | some record =>
      rw [noticeExit_of_exit ended]
      exact .refl process
  | none =>
      simp only [noticeExit, ended]
      exact ⟨rfl, rfl, rfl, fun record impossible => by rw [ended] at impossible; cases impossible⟩

theorem continues_afterCheck (process : RoleProcess) (now : Duration)
    (answer : Except SystemError (Option ExitStatus)) :
    process.Continues (process.afterCheck now answer) := by
  rcases answer with _ | _ | status
  · exact .refl process
  · exact .refl process
  · exact continues_noticeExit process now status

theorem continues_takeLines (process : RoleProcess) : process.Continues process.takeLines.2 :=
  ⟨rfl, rfl, rfl, fun _ ended => ended⟩

/-- The same processes at a later time. -/
structure AllContinue (before after : List RoleProcess) : Prop where
  length : after.length = before.length
  each : ∀ (index : Nat) (process : RoleProcess), before[index]? = some process →
    ∃ later, after[index]? = some later ∧ process.Continues later

/-- Every process was there before. -/
theorem AllContinue.earlier {before after : List RoleProcess}
    (continues : AllContinue before after) {index : Nat} {later : RoleProcess}
    (found : after[index]? = some later) :
    ∃ process, before[index]? = some process ∧ process.Continues later := by
  have bound : index < before.length := by
    rw [← continues.length]
    exact (List.getElem?_eq_some_iff.mp found).1
  obtain ⟨same, foundSame, continued⟩ :=
    continues.each index before[index] (List.getElem?_eq_getElem bound)
  obtain rfl : later = same := Option.some.inj (found.symm.trans foundSame)
  exact ⟨before[index], List.getElem?_eq_getElem bound, continued⟩

theorem AllContinue.refl (processes : List RoleProcess) : AllContinue processes processes :=
  ⟨rfl, fun _ process found => ⟨process, found, .refl process⟩⟩

theorem AllContinue.trans {first second third : List RoleProcess}
    (former : AllContinue first second) (latter : AllContinue second third) :
    AllContinue first third := by
  refine ⟨latter.length.trans former.length, fun index process found => ?_⟩
  obtain ⟨middle, foundMiddle, continues⟩ := former.each index process found
  obtain ⟨last, foundLast, continuesOn⟩ := latter.each index middle foundMiddle
  exact ⟨last, foundLast, continues.trans continuesOn⟩

theorem allContinue_set {processes : List RoleProcess} {index : Nat} {process changed : RoleProcess}
    (found : processes[index]? = some process) (continues : process.Continues changed) :
    AllContinue processes (processes.set index changed) := by
  refine ⟨List.length_set, fun other old foundOld => ?_⟩
  by_cases same : index = other
  · subst same
    obtain rfl : process = old := Option.some.inj (found.symm.trans foundOld)
    refine ⟨changed, ?_, continues⟩
    rw [List.getElem?_set_self (List.getElem?_eq_some_iff.mp found).1]
  · refine ⟨old, ?_, .refl old⟩
    rwa [List.getElem?_set_ne same]

theorem allContinue_map {change : RoleProcess → RoleProcess}
    (continues : ∀ process : RoleProcess, process.Continues (change process))
    (processes : List RoleProcess) : AllContinue processes (processes.map change) := by
  refine ⟨List.length_map _, fun index process found => ⟨change process, ?_, continues process⟩⟩
  rw [List.getElem?_map, found, Option.map_some]

/-- What a process keeps, a list of processes keeps. -/
theorem AllContinue.map_eq {α : Type} {before after : List RoleProcess}
    (continues : AllContinue before after) {view : RoleProcess → α}
    (kept : ∀ {process later : RoleProcess}, process.Continues later →
      view later = view process) : after.map view = before.map view := by
  refine List.ext_getElem? fun index => ?_
  rw [List.getElem?_map, List.getElem?_map]
  cases found : before[index]? with
  | none =>
      have short := List.getElem?_eq_none_iff.mp found
      rw [List.getElem?_eq_none (continues.length ▸ short)]
  | some process =>
      obtain ⟨later, foundLater, same⟩ := continues.each index process found
      rw [foundLater, Option.map_some, Option.map_some, kept same]

theorem AllContinue.roles {before after : List RoleProcess}
    (continues : AllContinue before after) : after.map role = before.map role :=
  continues.map_eq Continues.role

end RoleProcess

theorem Session.Move.continues {before after : Session (σ × Journal)} (move : Move before after) :
    RoleProcess.AllContinue before.processes after.processes := by
  cases move with
  | check found _ answer now _ =>
      exact RoleProcess.allContinue_set found (RoleProcess.continues_afterCheck _ now answer)
  | receive found _ _ _ =>
      exact RoleProcess.allContinue_set found (RoleProcess.continues_setStream _ _ _)
  | close found _ =>
      exact RoleProcess.allContinue_set found (RoleProcess.continues_setStream _ _ _)
  | sleep _ => exact .refl _

theorem Session.Moves.continues {before after : Session (σ × Journal)}
    (moves : Moves before after) :
    RoleProcess.AllContinue before.processes after.processes := by
  induction moves with
  | refl => exact .refl _
  | tail _ move inductionHypothesis => exact inductionHypothesis.trans move.continues

theorem Session.Signal.continues {before after : Session (σ × Journal)}
    (signal : Signal before after) :
    RoleProcess.AllContinue before.processes after.processes := by
  cases signal with
  | stop found _ _ _ =>
      exact RoleProcess.allContinue_set found (RoleProcess.continues_requestStop _)
  | kill _ _ _ _ => exact .refl _
  | reap _ _ _ => exact .refl _

end Rendezvous
