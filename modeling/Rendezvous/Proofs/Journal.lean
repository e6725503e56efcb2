import Mathlib.Data.List.Basic
import Rendezvous.World

/-!
A journal of what a world is asked and what it answers.

`World.recorded` does what a world does and keeps the journal beside its state,
the oldest entry first.  What a journal says about one process (the bytes that
came from a stream, the end that a check found first, whether a signal was sent
before that) is the measure of the statements about whole runs.
-/

set_option autoImplicit false

namespace Rendezvous

/-- Something that a world was asked, with its answer where that matters. -/
inductive Event where
  | launched (line : CommandLine) (env : Variables) (answer : Except SystemError Nat)
  | checked (process : Nat) (answer : Except SystemError (Option ExitStatus))
  | received (process : Nat) (stream : Stream) (outcome : ReadOutcome)
  /-- A signal was sent to a process and everything it has started, whether it arrived or not. -/
  | signalled (process : Nat) (signal : StopSignal)
  /-- The process itself was killed. -/
  | killed (process : Nat)
  deriving Repr

/-- The events of a run, oldest first. -/
abbrev Journal := List Event

/-- What a wait leaves in the journal: what the stream gave that ended it. -/
def Wake.events : Wake → Journal
  | .ready process stream outcome => [.received process stream outcome]
  | .elapsed | .interrupted => []

/-- A world that keeps a journal. -/
def World.recorded {σ : Type} (world : World σ) : World (σ × Journal) where
  now state := world.now state.1
  launch line env state :=
    let (answer, outside) := world.launch line env state.1
    (answer, outside, state.2 ++ [.launched line env answer])
  status process state :=
    let (answer, outside) := world.status process state.1
    (answer, outside, state.2 ++ [.checked process answer])
  read process stream state :=
    let (outcome, outside) := world.read process stream state.1
    (outcome, outside, state.2 ++ [.received process stream outcome])
  wait watched budget attentive state :=
    let (wake, outside) := world.wait watched budget attentive state.1
    (wake, outside, state.2 ++ wake.events)
  ready_mem watched budget attentive state := world.ready_mem watched budget attentive state.1
  awaitExit process budget state :=
    let (answer, outside) := world.awaitExit process budget state.1
    (answer, outside, state.2 ++ [.checked process answer])
  signalGroup process signal state :=
    let (answer, outside) := world.signalGroup process signal state.1
    (answer, outside, state.2 ++ [.signalled process signal])
  killLeader process state :=
    let (answer, outside) := world.killLeader process state.1
    (answer, outside, state.2 ++ [.killed process])

namespace World

variable {σ : Type} (world : World σ)

@[simp]
theorem recorded_now (state : σ × Journal) : world.recorded.now state = world.now state.1 := rfl

@[simp]
theorem recorded_launch (line : CommandLine) (env : Variables) (state : σ × Journal) :
    world.recorded.launch line env state =
      ((world.launch line env state.1).1, (world.launch line env state.1).2,
        state.2 ++ [.launched line env (world.launch line env state.1).1]) := rfl

@[simp]
theorem recorded_status (process : Nat) (state : σ × Journal) :
    world.recorded.status process state =
      ((world.status process state.1).1, (world.status process state.1).2,
        state.2 ++ [.checked process (world.status process state.1).1]) := rfl

@[simp]
theorem recorded_read (process : Nat) (stream : Stream) (state : σ × Journal) :
    world.recorded.read process stream state =
      ((world.read process stream state.1).1, (world.read process stream state.1).2,
        state.2 ++ [.received process stream (world.read process stream state.1).1]) := rfl

@[simp]
theorem recorded_wait (watched : List (Nat × Stream)) (budget : Duration) (attentive : Bool)
    (state : σ × Journal) :
    world.recorded.wait watched budget attentive state =
      ((world.wait watched budget attentive state.1).1,
        (world.wait watched budget attentive state.1).2,
        state.2 ++ (world.wait watched budget attentive state.1).1.events) := rfl

@[simp]
theorem recorded_signalGroup (process : Nat) (signal : StopSignal) (state : σ × Journal) :
    world.recorded.signalGroup process signal state =
      ((world.signalGroup process signal state.1).1, (world.signalGroup process signal state.1).2,
        state.2 ++ [.signalled process signal]) := rfl

@[simp]
theorem recorded_killLeader (process : Nat) (state : σ × Journal) :
    world.recorded.killLeader process state =
      ((world.killLeader process state.1).1, (world.killLeader process state.1).2,
        state.2 ++ [.killed process]) := rfl

end World

namespace Journal

/-- The bytes that came from a stream of a process. -/
def bytes (journal : Journal) (process : Nat) (stream : Stream) : List UInt8 :=
  journal.flatMap fun event => match event with
    | .received source key (.chunk bytes) =>
        if source = process ∧ key = stream then bytes else []
    | _ => []

/-- What the first check said that found the end of a process. -/
def firstEnd (journal : Journal) (process : Nat) : Option ExitStatus :=
  journal.findSome? fun event => match event with
    | .checked checked (.ok (some status)) => if checked = process then some status else none
    | _ => none

/-- A process was sent a signal before a check had found its end. -/
def StopsBeforeEnd (journal : Journal) (process : Nat) : Prop :=
  ∃ earlier signal later, journal = earlier ++ .signalled process signal :: later ∧
    firstEnd earlier process = none

/-- The signals that were sent, in order. -/
def signals (journal : Journal) : List (Nat × StopSignal) :=
  journal.filterMap fun event => match event with
    | .signalled process signal => some (process, signal)
    | _ => none

/-- The processes that were killed themselves, in order. -/
def kills (journal : Journal) : List Nat :=
  journal.filterMap fun event => match event with
    | .killed process => some process
    | _ => none

/-- The command lines that were started, in order. -/
def launches (journal : Journal) : List CommandLine :=
  journal.filterMap fun event => match event with
    | .launched line _ (.ok _) => some line
    | _ => none

/-- What was started, in order: the command lines, the variables and the process ids. -/
def starts (journal : Journal) : List (CommandLine × Variables × Nat) :=
  journal.filterMap fun event => match event with
    | .launched line env (.ok pid) => some (line, env, pid)
    | _ => none

/-- No check of a process failed. -/
def Answered (journal : Journal) : Prop :=
  ∀ process cause, Event.checked process (.error cause) ∉ journal

theorem answered_of_all {journal : Journal}
    (all : (journal.all fun event => match event with
      | .checked _ (.error _) => false
      | _ => true) = true) : journal.Answered := by
  intro process cause membership
  have fine := List.all_eq_true.mp all _ membership
  cases fine

theorem bytes_append (first second : Journal) (process : Nat) (stream : Stream) :
    bytes (first ++ second) process stream =
      bytes first process stream ++ bytes second process stream := by
  simp [bytes]

theorem firstEnd_append (first second : Journal) (process : Nat) :
    firstEnd (first ++ second) process =
      (firstEnd first process).or (firstEnd second process) := by
  simp [firstEnd, List.findSome?_append]

theorem signals_append (first second : Journal) :
    signals (first ++ second) = signals first ++ signals second := by
  simp [signals]

theorem kills_append (first second : Journal) :
    kills (first ++ second) = kills first ++ kills second := by
  simp [kills]

theorem starts_append (first second : Journal) :
    starts (first ++ second) = starts first ++ starts second := by
  simp [starts]

theorem launches_eq (journal : Journal) : journal.launches = journal.starts.map Prod.fst := by
  rw [launches, starts, List.map_filterMap]
  refine List.filterMap_congr fun event _ => ?_
  rcases event with ⟨line, env, _ | pid⟩ | _ | _ | _ | _ <;> rfl

theorem not_stopsBeforeEnd_nil (process : Nat) : ¬ StopsBeforeEnd [] process := by
  rintro ⟨earlier, signal, later, split, -⟩
  simp at split

theorem StopsBeforeEnd.extend {first second : Journal} {process : Nat}
    (stops : first.StopsBeforeEnd process) (grown : first <+: second) :
    second.StopsBeforeEnd process := by
  obtain ⟨earlier, signal, later, rfl, alive⟩ := stops
  obtain ⟨more, rfl⟩ := grown
  exact ⟨earlier, signal, later ++ more, by simp, alive⟩

theorem not_stopsBeforeEnd_of_signals {journal : Journal} (none : journal.signals = [])
    (process : Nat) : ¬ journal.StopsBeforeEnd process := by
  rintro ⟨earlier, signal, later, rfl, -⟩
  rw [signals_append] at none
  simp [signals] at none

/-- Only a signal to a process that no check has found ended changes whether it was stopped. -/
theorem stopsBeforeEnd_append_singleton (journal : Journal) (event : Event) (process : Nat) :
    StopsBeforeEnd (journal ++ [event]) process ↔
      StopsBeforeEnd journal process ∨
        firstEnd journal process = none ∧ ∃ signal, event = .signalled process signal := by
  constructor
  · rintro ⟨earlier, signal, later, split, alive⟩
    rcases List.eq_nil_or_concat later with rfl | ⟨initial, last, rfl⟩
    · obtain ⟨rfl, same⟩ := List.append_inj' split rfl
      exact Or.inr ⟨alive, signal, by simpa using same⟩
    · rw [List.concat_eq_append, ← List.cons_append, ← List.append_assoc] at split
      obtain ⟨rfl, -⟩ := List.append_inj' split rfl
      exact Or.inl ⟨earlier, signal, initial, rfl, alive⟩
  · rintro (⟨earlier, signal, later, rfl, alive⟩ | ⟨alive, signal, rfl⟩)
    · exact ⟨earlier, signal, later ++ [event], by simp, alive⟩
    · exact ⟨journal, signal, [], rfl, alive⟩

end Journal

end Rendezvous
