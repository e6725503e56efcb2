import Mathlib.Algebra.GroupWithZero.Nat
import Mathlib.Data.List.Basic
import Mathlib.Data.List.Perm.Basic
import Rendezvous.Session

/-!
The complete lines that wait to be taken, and what `Session.takeLines` makes of
them.

All of them are taken, sorted by their numbers, which are the next ones, and each
process gives its own among them in the order in which they enter its history.
-/

set_option autoImplicit false

namespace Rendezvous

universe u

/-- What belongs to different roles can be put together role by role. -/
theorem Role.perm_flatMap_filter {α : Type u} (roleOf : α → Role) {roles : List Role}
    (distinct : roles.Nodup) {items : List α} (owned : ∀ item ∈ items, roleOf item ∈ roles) :
    items.Perm (roles.flatMap fun role => items.filter fun item => roleOf item = role) := by
  induction roles generalizing items with
  | nil =>
      cases items with
      | nil => exact .refl _
      | cons item rest => exact absurd (owned item List.mem_cons_self) (List.not_mem_nil)
  | cons role rest inductionHypothesis =>
      obtain ⟨fresh, distinctRest⟩ := List.nodup_cons.mp distinct
      let others := items.filter fun item => !decide (roleOf item = role)
      have ownedRest : ∀ item ∈ others, roleOf item ∈ rest := by
        intro item membership
        obtain ⟨place, different⟩ := List.mem_filter.mp membership
        exact List.mem_of_ne_of_mem (by simpa using different) (owned item place)
      have unchanged : ∀ other ∈ rest, (others.filter fun item => roleOf item = other) =
          items.filter fun item => roleOf item = other := by
        intro other membership
        have different : other ≠ role := fun same => fresh (same ▸ membership)
        rw [List.filter_filter]
        refine List.filter_congr fun item _ => ?_
        by_cases same : roleOf item = other <;> simp [same, different]
      have split := inductionHypothesis distinctRest ownedRest
      rw [List.flatMap_congr unchanged] at split
      exact (List.filter_append_perm _ items).symm.trans (split.append_left _)

/-- What belongs to different roles can be counted role by role. -/
theorem Role.length_eq_sum_filter {α : Type u} (roleOf : α → Role) {roles : List Role}
    (distinct : roles.Nodup) {items : List α} (owned : ∀ item ∈ items, roleOf item ∈ roles) :
    items.length =
      (roles.map fun role => (items.filter fun item => roleOf item = role).length).sum := by
  rw [(perm_flatMap_filter roleOf distinct owned).length_eq, List.length_flatMap]

/-- Lists that have the same entries for each role differ in the order of different roles only. -/
theorem Role.perm_of_filter_eq {α : Type u} (roleOf : α → Role) {first second : List α}
    (same : ∀ role, (first.filter fun item => roleOf item = role) =
      second.filter fun item => roleOf item = role) : first.Perm second := by
  have split : ∀ items : List α,
      items.Perm (all.flatMap fun role => items.filter fun item => roleOf item = role) :=
    fun _ => perm_flatMap_filter roleOf (by decide) fun _ _ => mem_all _
  exact (split first).trans
    ((List.Perm.of_eq (List.flatMap_congr fun role _ => same role)).trans (split second).symm)

namespace Output

/-- The lines of a role among some lines. -/
def ofRole (role : Role) (lines : List Line) : List Line :=
  lines.filter fun line => line.role = role

/-- The texts of the lines of a stream of a role among some lines. -/
def textsOf (role : Role) (key : Stream) (lines : List Line) : List String :=
  ((ofRole role lines).filter fun line => line.stream = key).map Line.text

/-- Lines in the order of their numbers. -/
def sorted (lines : List Line) : List Line :=
  lines.mergeSort fun line other => decide (line.seq ≤ other.seq)

/-- Lines of different roles can be put together role by role. -/
theorem perm_flatMap_ofRole {roles : List Role} (distinct : roles.Nodup) {lines : List Line}
    (owned : ∀ line ∈ lines, line.role ∈ roles) :
    lines.Perm (roles.flatMap fun role => ofRole role lines) :=
  Role.perm_flatMap_filter Line.role distinct owned

/-- Lines of different roles are counted role by role. -/
theorem length_eq_sum_ofRole {roles : List Role} (distinct : roles.Nodup) {lines : List Line}
    (owned : ∀ line ∈ lines, line.role ∈ roles) :
    lines.length = (roles.map fun role => (ofRole role lines).length).sum :=
  Role.length_eq_sum_filter Line.role distinct owned

theorem sorted_perm (lines : List Line) : (sorted lines).Perm lines :=
  List.mergeSort_perm lines _

/-- Lines with different numbers are sorted strictly. -/
theorem sorted_pairwise {lines : List Line} (distinct : (lines.map Line.seq).Nodup) :
    (sorted lines).Pairwise fun line other => line.seq < other.seq := by
  have ordered : (sorted lines).Pairwise fun line other => line.seq ≤ other.seq := by
    refine (List.pairwise_mergeSort ?_ ?_ lines).imp of_decide_eq_true
    · intro first second third former latter
      exact decide_eq_true (Nat.le_trans (of_decide_eq_true former) (of_decide_eq_true latter))
    · intro first second
      simpa using Nat.le_total first.seq second.seq
  have different : (sorted lines).Pairwise fun line other => line.seq ≠ other.seq :=
    List.pairwise_map.mp (((sorted_perm lines).map Line.seq).nodup_iff.mpr distinct)
  exact ordered.imp₂ (fun _ _ => Nat.lt_of_le_of_ne) different

/-- Only one list of lines is in the strict order of its numbers. -/
theorem eq_of_perm_of_pairwise {α : Type} {number : α → Nat} {first second : List α}
    (same : first.Perm second)
    (former : first.Pairwise fun entry other => number entry < number other)
    (latter : second.Pairwise fun entry other => number entry < number other) : first = second :=
  same.eq_of_pairwise
    (fun _ _ _ _ less more => absurd (Nat.lt_trans less more) (Nat.lt_irrefl _)) former latter

end Output

namespace RoleProcess

/-- The complete lines of a stream that wait to be taken. -/
def pendingOf (process : RoleProcess) (key : Stream) : List Line :=
  (process.stream key).buffer.lines.toList.map fun line => ⟨line.seq, process.role, key, line.text⟩

/-- The complete lines of both streams that wait to be taken. -/
def pending (process : RoleProcess) : List Line :=
  process.pendingOf .stdout ++ process.pendingOf .stderr

/-- A stream without its complete lines. -/
def emptied (stream : OutputStream) : OutputStream :=
  { stream with buffer := { stream.buffer with lines := #[] } }

theorem takeLines_stream (process : RoleProcess) (key : Stream) :
    process.takeLines.2.stream key = emptied (process.stream key) := by
  cases key <;> rfl

theorem takeLines_history (process : RoleProcess) :
    process.takeLines.2.history =
      (Output.sorted process.pending).foldl History.push process.history := rfl

theorem role_of_mem_pending {process : RoleProcess} {line : Line}
    (membership : line ∈ process.pending) : line.role = process.role := by
  simp only [pending, pendingOf, List.mem_append, List.mem_map] at membership
  rcases membership with ⟨_, _, rfl⟩ | ⟨_, _, rfl⟩ <;> rfl

/-- The pending lines of one stream, by the name of the stream. -/
theorem filter_stream_pending (process : RoleProcess) (key : Stream) :
    (process.pending.filter fun line => line.stream = key) = process.pendingOf key := by
  cases key <;> simp [pending, pendingOf, List.filter_map, Function.comp_def]

end RoleProcess

namespace Session

variable {σ : Type}

/-- The complete lines of some processes that wait to be taken. -/
def pendingIn (processes : List RoleProcess) : List Line :=
  processes.flatMap RoleProcess.pending

theorem takeLines_perm (session : Session σ) :
    session.takeLines.1.Perm (pendingIn session.processes) := by
  refine (Output.sorted_perm _).trans ?_
  rw [List.flatMap_map]
  exact List.Perm.flatMap_left _ fun process _ => Output.sorted_perm process.pending

theorem takeLines_pairwise {session : Session σ}
    (distinct : ((pendingIn session.processes).map Line.seq).Nodup) :
    session.takeLines.1.Pairwise fun line other => line.seq < other.seq := by
  refine Output.sorted_pairwise ?_
  refine (List.Perm.nodup_iff (List.Perm.map _ ?_)).mpr distinct
  rw [List.flatMap_map]
  exact List.Perm.flatMap_left _ fun process _ => Output.sorted_perm process.pending

theorem takeLines_processes (session : Session σ) :
    session.takeLines.2.processes =
      session.processes.map fun process => process.takeLines.2 := by
  simp only [takeLines, List.map_map, Function.comp_def]

/-- The lines that a process gives when lines are taken. -/
def takenFrom (session : Session σ) (index : Nat) : List Line :=
  (session.processes[index]?.map fun process => process.takeLines.1).getD []

theorem takenFrom_of_getElem? {session : Session σ} {index : Nat} {process : RoleProcess}
    (found : session.processes[index]? = some process) :
    session.takenFrom index = process.takeLines.1 := by
  rw [takenFrom, found]
  rfl

/-- What each place of a list has, from the first to the last one. -/
theorem map_range_places {α β : Type} (entries : List α) (view : α → List β) :
    (List.range entries.length).map (fun index => (entries[index]?.map view).getD []) =
      entries.map view := by
  refine List.ext_getElem (by simp) fun index _ inside => ?_
  rw [List.length_map] at inside
  rw [List.getElem_map, List.getElem_map, List.getElem_range, List.getElem?_eq_getElem inside]
  rfl

theorem takeLines_perm_takenFrom (session : Session σ) :
    session.takeLines.1.Perm
      ((List.range session.processes.length).flatMap session.takenFrom) := by
  have places : (List.range session.processes.length).map session.takenFrom =
      session.processes.map fun process => process.takeLines.1 :=
    map_range_places session.processes fun process => process.takeLines.1
  rw [List.flatMap_def, places, ← List.flatMap_def]
  refine (takeLines_perm session).trans ?_
  exact List.Perm.flatMap_left _ fun process _ => (Output.sorted_perm process.pending).symm

/-- When the lines that wait have the next numbers, they are taken in the order of these. -/
theorem takeLines_numbers {session : Session σ} {next : Nat}
    (pending : ((pendingIn session.processes).map Line.seq).Perm
      (List.range' next (pendingIn session.processes).length)) :
    session.takeLines.1.map Line.seq = List.range' next session.takeLines.1.length := by
  have distinct := pending.nodup_iff.mpr (List.nodup_range' 1)
  refine @Output.eq_of_perm_of_pairwise _ id _ _ ?_
    (List.pairwise_map.mpr (takeLines_pairwise distinct)) (List.pairwise_lt_range' 1)
  rw [(takeLines_perm session).length_eq]
  exact ((takeLines_perm session).map Line.seq).trans pending

/-- Nothing is left to be taken. -/
theorem pendingIn_takeLines (session : Session σ) :
    pendingIn session.takeLines.2.processes = [] := by
  rw [takeLines_processes, pendingIn, List.flatMap_map]
  exact List.flatMap_eq_nil_iff.mpr fun _ _ => rfl

end Session

end Rendezvous
