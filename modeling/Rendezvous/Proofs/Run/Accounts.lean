import Rendezvous.Proofs.Run.Started
import Rendezvous.Proofs.Session.Ledger

/-!
What becomes of the output of a run.

The transcript has observed exactly the lines in the ledger of the session, in
the order of their numbers.  At the end of a run no line waits and no stream is
open, so the transcript has observed every line of every process.
-/

set_option autoImplicit false

namespace Rendezvous

variable {σ : Type}

namespace Run

/-- The transcript has observed the lines in the ledger of the session. -/
structure Accounts (initial : Transcript) (run : Run (σ × Journal)) (lines : List Line) :
    Prop where
  transcript : run.transcript = initial.observeAll lines
  ledger : Session.Ledger 0 run.session lines

theorem start_accounts (world : World σ) (initial : Transcript) (outside : σ) :
    Accounts initial (.start world.recorded initial (outside, [])) [] := by
  refine ⟨rfl, List.nodup_nil, ?_, rfl, .refl _, rfl, ?_, ?_, fun _ _ _ => rfl, ?_⟩
  · intro line membership
    cases membership
  · intro process membership
    cases membership
  · intro index process found
    cases found
  · intro process membership
    cases membership

namespace Accounts

variable {scenario : Scenario} {initial : Transcript} {before after : Run (σ × Journal)}
  {lines : List Line}

theorem nothingTaken (accounts : before.Accounts initial lines)
    (transcript : after.transcript = before.transcript)
    (ledger : Session.Ledger 0 after.session lines) :
    ∃ more, after.Accounts initial (lines ++ more) :=
  ⟨[], (List.append_nil lines).symm ▸ ⟨transcript.trans accounts.transcript, ledger⟩⟩

theorem step (accounts : before.Accounts initial lines) (step : Step before after) :
    ∃ more, after.Accounts initial (lines ++ more) := by
  cases step with
  | move move => exact accounts.nothingTaken rfl (accounts.ledger.move move)
  | relay =>
      refine ⟨before.session.takeLines.1, ?_, accounts.ledger.takeLines.1⟩
      rw [Transcript.observeAll_append, ← accounts.transcript]
      rfl

theorem advance (accounts : before.Accounts initial lines)
    (advance : Advance scenario before after) :
    ∃ more, after.Accounts initial (lines ++ more) := by
  cases advance with
  | step step => exact accounts.step step
  | note phases handshakeSatisfied failures => exact accounts.nothingTaken rfl accounts.ledger
  | launched planned fresh pid now outside =>
      exact accounts.nothingTaken rfl
        (accounts.ledger.launch fresh pid _ _ now scenario.historyLines outside _)
  | refused line cause outside =>
      refine accounts.nothingTaken rfl (accounts.ledger.sameOutput rfl rfl fun index key => ?_)
      exact (Journal.bytes_append _ _ _ _).trans (List.append_nil _)

theorem change (accounts : before.Accounts initial lines) (change : Change scenario before after) :
    ∃ more, after.Accounts initial (lines ++ more) := by
  cases change with
  | advance advance => exact accounts.advance advance
  | signal signal => exact accounts.nothingTaken rfl (accounts.ledger.signal signal)
  | survivors => exact accounts.nothingTaken rfl accounts.ledger

theorem reaches (accounts : before.Accounts initial lines) (reaches : Reaches scenario before after) :
    ∃ more, after.Accounts initial (lines ++ more) := by
  induction reaches with
  | refl => exact ⟨[], by simpa using accounts⟩
  | tail _ change inductionHypothesis =>
      obtain ⟨first, accountsFirst⟩ := inductionHypothesis
      obtain ⟨second, accountsSecond⟩ := accountsFirst.change change
      exact ⟨first ++ second, by rwa [← List.append_assoc]⟩

end Accounts

/-- Every stream is closed and no complete line waits. -/
def Drained (run : Run σ) : Prop :=
  ∀ process ∈ run.session.processes, ∀ key,
    (process.stream key).isOpen = false ∧ (process.stream key).buffer.lines = #[]

theorem relayLines_drained {run : Run σ}
    (closed : ∀ process ∈ run.session.processes, ∀ key, (process.stream key).isOpen = false) :
    run.relayLines.Drained := by
  intro process membership key
  have taken : process ∈ run.session.takeLines.2.processes := membership
  rw [Session.takeLines_processes] at taken
  obtain ⟨before, place, rfl⟩ := List.mem_map.mp taken
  rw [RoleProcess.takeLines_stream]
  exact ⟨closed before place key, rfl⟩

theorem collectRest_drained (world : World σ) (run : Run σ) : (run.collectRest world).Drained :=
  relayLines_drained (Session.closeFrom_isOpen _ _)

theorem reapGroups_drained (world : World σ) {run : Run σ} (drained : run.Drained) :
    (run.reapGroups world).Drained :=
  drained

theorem settle_drained (world : World σ) (scenario : Scenario) (more : Nat) (run : Run σ) :
    (run.settle world scenario more).Drained := by
  unfold settle teardown
  exact reapGroups_drained world (collectRest_drained world _)

/--
The lines are all that the processes of a run have printed, as the journal shows
it; each was observed once, in the order of their numbers, and entered the
history of its process, and nothing is left in the streams.
-/
structure Observed (initial : Transcript) (journal : Journal) (run : Run σ) (lines : List Line) :
    Prop where
  transcript : run.transcript = initial.observeAll lines
  numbers : lines.map Line.seq = List.range run.session.nextSeq
  roles : run.roles.Nodup
  owned : ∀ line ∈ lines, line.role ∈ run.roles
  streams : ∀ (index : Nat) (process : RoleProcess), run.session.processes[index]? = some process →
    ∀ key, Output.textsOf process.role key lines = Output.lines (journal.bytes index key)
  histories : ∀ process ∈ run.session.processes, process.history =
    (Output.ofRole process.role lines).foldl History.push (.empty process.history.limit)
  left : ∀ process ∈ run.session.processes, ∀ key, (process.stream key).isOpen = false ∧
    (process.stream key).buffer.lines = #[] ∧ (process.stream key).buffer.unfinished = #[]

theorem Accounts.observed {initial : Transcript} {run : Run (σ × Journal)} {lines : List Line}
    (accounts : run.Accounts initial lines) (drained : run.Drained) :
    run.Observed initial run.journal lines := by
  have nothing : Session.pendingIn run.session.processes = [] := by
    refine List.flatMap_eq_nil_iff.mpr fun process membership => ?_
    simp [RoleProcess.pending, RoleProcess.pendingOf, drained process membership]
  have all : ∀ (index : Nat) (process : RoleProcess),
      run.session.processes[index]? = some process → ∀ key,
        (process.stream key).buffer.HoldsAll (run.journal.bytes index key)
          (Output.textsOf process.role key lines) := by
    intro index process found key
    have closed := (drained process (List.mem_of_getElem? found) key).1
    have carries := accounts.ledger.streams index process found key
    rwa [OutputStream.Carries, if_neg (Bool.eq_false_iff.mp closed)] at carries
  refine ⟨accounts.transcript, ?_, accounts.ledger.roles, accounts.ledger.owned, ?_,
    accounts.ledger.histories, ?_⟩
  · have next := accounts.ledger.nextSeq
    rw [nothing, List.length_nil, Nat.add_zero, Nat.zero_add] at next
    rw [accounts.ledger.numbers, next, List.range_eq_range']
  · intro index process found key
    have waiting := (drained process (List.mem_of_getElem? found) key).2
    have lines := (all index process found key).lines
    rwa [OutputBuffer.texts, waiting, List.map_nil, List.append_nil] at lines
  · intro process membership key
    obtain ⟨index, found⟩ := List.mem_iff_getElem?.mp membership
    obtain ⟨closed, waiting⟩ := drained process membership key
    exact ⟨closed, waiting, (all index process found key).unfinished⟩

theorem Observed.forget {initial : Transcript} {journal : Journal} {run : Run (σ × Journal)}
    {lines : List Line} (observed : run.Observed initial journal lines) :
    run.forget.Observed initial journal lines :=
  ⟨observed.transcript, observed.numbers, observed.roles, observed.owned, observed.streams,
    observed.histories, observed.left⟩

/-- Whatever happens in a run, at its end every line of its processes was observed. -/
theorem settle_observed (world : World σ) (scenario : Scenario) (more : Nat)
    (initial : Transcript) (outside : σ) :
    ∃ lines, Observed initial (recorded world scenario more initial outside).2.journal
      ((Run.start world initial outside).settle world scenario more) lines := by
  have start := start_accounts world initial outside
  obtain ⟨lines, accounts⟩ := start.reaches
    (settle_reaches world scenario more (start_stands world.recorded initial (outside, [])))
  have observed := accounts.observed (settle_drained world.recorded scenario more _)
  refine ⟨lines, ?_⟩
  rw [recorded_journal, start_settle world scenario more initial outside]
  exact observed.forget

/-- As many lines were relayed as entered the histories. -/
theorem Observed.relayed {initial : Transcript} {journal : Journal} {run : Run σ}
    {lines : List Line} (observed : run.Observed initial journal lines) :
    run.transcript.relayed = initial.relayed +
      (run.session.processes.map fun process =>
        process.history.length + process.history.dropped).sum := by
  have each : run.session.processes.map (fun process =>
      process.history.length + process.history.dropped) =
      run.roles.map fun role => (Output.ofRole role lines).length := by
    rw [Run.roles, List.map_map]
    refine List.map_congr_left fun process membership => ?_
    rw [observed.histories process membership, History.length_add_dropped_foldl_push]
    rfl
  rw [observed.transcript, Transcript.observeAll_relayed, each,
    ← Output.length_eq_sum_ofRole observed.roles observed.owned]

/-- Error text was observed when a line that was read from a process contains a signature. -/
theorem Observed.hasAnyErrorText_iff {initial : Transcript} {journal : Journal} {run : Run σ}
    {lines : List Line} (observed : run.Observed initial journal lines)
    (fresh : ∀ role, initial.hits.get role = 0) :
    run.transcript.hasAnyErrorText = true ↔
      ∃ index process key text, run.session.processes[index]? = some process ∧
        text ∈ Output.lines (journal.bytes index key) ∧ initial.scanner.hasError text = true := by
  rw [observed.transcript, Transcript.hasAnyErrorText_observeAll fresh]
  constructor
  · rintro ⟨line, membership, hit⟩
    obtain ⟨process, place, same⟩ := List.mem_map.mp (observed.owned line membership)
    obtain ⟨index, found⟩ := List.mem_iff_getElem?.mp place
    refine ⟨index, process, line.stream, line.text, found, ?_, hit⟩
    rw [← observed.streams index process found]
    refine List.mem_map_of_mem (List.mem_filter.mpr ⟨?_, decide_eq_true rfl⟩)
    exact List.mem_filter.mpr ⟨membership, decide_eq_true same.symm⟩
  · rintro ⟨index, process, key, text, found, membership, hit⟩
    rw [← observed.streams index process found] at membership
    obtain ⟨line, place, rfl⟩ := List.mem_map.mp membership
    exact ⟨line, List.mem_of_mem_filter (List.mem_of_mem_filter place), hit⟩

end Run

end Rendezvous
