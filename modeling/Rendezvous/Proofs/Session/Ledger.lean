import Rendezvous.Proofs.Output.Kept
import Rendezvous.Proofs.Session.Continues
import Rendezvous.Proofs.Session.Tally

/-!
Where every line of a session is, when all its processes have different roles.

A ledger of the lines that were taken says that they and the lines that wait to
be taken carry all numbers so far, that each stream has given the lines of its
bytes in order, and that each history was given the lines of its process.  What
each process has given need not be kept: it can be told by the roles of the lines.
So a ledger is a balanced tally, and is kept by whatever keeps the balance.
-/

set_option autoImplicit false

namespace Rendezvous

variable {σ : Type}

namespace Session

/-- Where the lines of a session are, those in the list having been taken. -/
structure Ledger (first : Nat) (session : Session (σ × Journal)) (lines : List Line) : Prop where
  roles : (session.processes.map RoleProcess.role).Nodup
  owned : ∀ line ∈ lines, line.role ∈ session.processes.map RoleProcess.role
  numbers : lines.map Line.seq = List.range' first lines.length
  pending : ((pendingIn session.processes).map Line.seq).Perm
    (List.range' (first + lines.length) (pendingIn session.processes).length)
  nextSeq : session.nextSeq = first + lines.length + (pendingIn session.processes).length
  ordered : ∀ process ∈ session.processes, ∀ key,
    (process.pendingOf key).Pairwise fun line other => line.seq < other.seq
  streams : ∀ (index : Nat) (process : RoleProcess), session.processes[index]? = some process →
    ∀ key, (process.stream key).Carries (session.journal.bytes index key)
      (Output.textsOf process.role key lines)
  unread : ∀ index, session.processes.length ≤ index → ∀ key,
    session.journal.bytes index key = []
  histories : ∀ process ∈ session.processes, process.history =
    (Output.ofRole process.role lines).foldl History.push (.empty process.history.limit)

/-- The lines of the role of a process among some lines. -/
def linesOfRole (session : Session σ) (lines : List Line) (index : Nat) : List Line :=
  (session.processes[index]?.map fun process => Output.ofRole process.role lines).getD []

theorem linesOfRole_of_getElem? {session : Session σ} {index : Nat} {process : RoleProcess}
    (found : session.processes[index]? = some process) (lines : List Line) :
    session.linesOfRole lines index = Output.ofRole process.role lines := by
  rw [linesOfRole, found]
  rfl

variable {first : Nat} {session : Session (σ × Journal)} {lines : List Line}

/-- Where all roles are different, the lines of a role are what its process has given. -/
theorem Ledger.balanced (ledger : Ledger first session lines) :
    Tally.Balanced first (session.processes.map fun process => .empty process.history.limit)
      ⟨session, session.journal.bytes, lines, session.linesOfRole lines⟩ := by
  have increasing : Output.Increasing lines :=
    List.pairwise_map.mp (ledger.numbers ▸ List.pairwise_lt_range' 1)
  refine ⟨ledger.numbers, ledger.pending, ledger.nextSeq, ?_, List.length_map _, ?_, ?_⟩
  · have places : (List.range session.processes.length).map (session.linesOfRole lines) =
        (session.processes.map RoleProcess.role).map fun role => Output.ofRole role lines := by
      rw [List.map_map]
      exact map_range_places session.processes fun process => Output.ofRole process.role lines
    rw [List.flatMap_def, places, ← List.flatMap_def]
    exact Output.perm_flatMap_ofRole ledger.roles ledger.owned
  · intro index process (found : session.processes[index]? = some process)
    have membership := List.mem_of_getElem? found
    refine ⟨.empty process.history.limit, by rw [List.getElem?_map, found]; rfl, ?_⟩
    dsimp only
    rw [linesOfRole_of_getElem? found]
    exact ⟨ledger.ordered process membership, increasing.filter _,
      fun line place => of_decide_eq_true (List.mem_filter.mp place).2,
      ledger.streams index process found, ledger.histories process membership⟩
  · intro index beyond
    refine ⟨?_, ledger.unread index beyond⟩
    dsimp only
    rw [linesOfRole, List.getElem?_eq_none beyond]
    rfl

section

variable {start : List History} {given : Nat → List Line}

/-- What a process has given are the lines of its role, if no other process has that role. -/
theorem ofRole_of_balanced
    (balanced : Tally.Balanced first start ⟨session, session.journal.bytes, lines, given⟩)
    (roles : (session.processes.map RoleProcess.role).Nodup) {index : Nat} {process : RoleProcess}
    (found : session.processes[index]? = some process) :
    Output.ofRole process.role lines = given index := by
  obtain ⟨history, -, share⟩ := balanced.each index process found
  have increasing : Output.Increasing (Output.ofRole process.role lines) :=
    balanced.increasing.filter _
  refine (increasing.sublist share.increasing fun line membership => ?_).antisymm
    (share.increasing.sublist increasing fun line membership => ?_)
  · obtain ⟨place, same⟩ := List.mem_filter.mp membership
    obtain ⟨other, inside, source⟩ := List.mem_flatMap.mp (balanced.shares.mem_iff.mp place)
    have foundOther := List.getElem?_eq_getElem (List.mem_range.mp inside)
    obtain ⟨history, -, shareOther⟩ := balanced.each other _ foundOther
    have sameRole := (shareOther.owned line source).symm.trans (of_decide_eq_true same)
    have sameIndex : other = index := by
      refine (List.getElem?_inj (by simpa using inside) roles).mp ?_
      rw [List.getElem?_map, List.getElem?_map, foundOther, found, Option.map_some, sameRole]
      rfl
    exact sameIndex ▸ source
  · exact List.mem_filter.mpr ⟨balanced.given_subset index membership,
      decide_eq_true (share.owned line membership)⟩

/-- A balanced tally is a ledger if all roles are different and all histories began empty. -/
theorem ledger_of_balanced
    (balanced : Tally.Balanced first start ⟨session, session.journal.bytes, lines, given⟩)
    (roles : (session.processes.map RoleProcess.role).Nodup)
    (empty : ∀ history ∈ start, ∃ limit, history = .empty limit) :
    Ledger first session lines := by
  have owned : ∀ line ∈ lines, line.role ∈ session.processes.map RoleProcess.role := by
    intro line membership
    obtain ⟨index, inside, source⟩ := List.mem_flatMap.mp (balanced.shares.mem_iff.mp membership)
    have found := List.getElem?_eq_getElem (List.mem_range.mp inside)
    obtain ⟨history, -, share⟩ := balanced.each index _ found
    rw [share.owned line source]
    exact List.mem_map_of_mem (List.getElem_mem _)
  refine ⟨roles, owned, balanced.numbers, balanced.pending, balanced.nextSeq, ?_, ?_,
    fun index beyond => (balanced.unread index beyond).2, ?_⟩
  · intro process membership
    obtain ⟨index, found⟩ := List.mem_iff_getElem?.mp membership
    obtain ⟨history, -, share⟩ := balanced.each index process found
    exact share.ordered
  · intro index process found key
    obtain ⟨history, -, share⟩ := balanced.each index process found
    rw [Output.textsOf, ofRole_of_balanced balanced roles found]
    exact share.streams key
  · intro process membership
    obtain ⟨index, found⟩ := List.mem_iff_getElem?.mp membership
    obtain ⟨history, begun, share⟩ := balanced.each index process found
    obtain ⟨limit, rfl⟩ := empty history (List.mem_of_getElem? begun)
    have kept : process.history = (Output.ofRole process.role lines).foldl History.push
      (.empty limit) := (ofRole_of_balanced balanced roles found).symm ▸ share.history
    have same : process.history.limit = (History.empty limit).limit := by
      rw [kept, History.foldl_push_limit]
    rw [same, History.empty_limit]
    exact kept

end

namespace Ledger

theorem histories_empty (session : Session (σ × Journal)) :
    ∀ history ∈ session.processes.map fun process => History.empty process.history.limit,
      ∃ limit, history = .empty limit := by
  intro history membership
  obtain ⟨process, -, rfl⟩ := List.mem_map.mp membership
  exact ⟨process.history.limit, rfl⟩

/-- What does not touch the output keeps the ledger. -/
theorem sameOutput (ledger : Ledger first session lines) {after : Session (σ × Journal)}
    (outputs : after.processes.map RoleProcess.heard =
      session.processes.map RoleProcess.heard)
    (nextSeq : after.nextSeq = session.nextSeq)
    (bytes : ∀ index key, after.journal.bytes index key = session.journal.bytes index key) :
    Ledger first after lines := by
  have roles : after.processes.map RoleProcess.role = session.processes.map RoleProcess.role := by
    simpa [RoleProcess.heard, Function.comp_def] using congrArg (List.map Prod.fst) outputs
  exact ledger_of_balanced (ledger.balanced.sameOutput after outputs nextSeq bytes)
    (roles ▸ ledger.roles) (histories_empty session)

/-- What is taken enters the ledger, and nothing is left to be taken. -/
theorem takeLines (ledger : Ledger first session lines) :
    Ledger first session.takeLines.2 (lines ++ session.takeLines.1) ∧
      pendingIn session.takeLines.2.processes = [] := by
  have roles : session.takeLines.2.processes.map RoleProcess.role =
      session.processes.map RoleProcess.role := by
    rw [takeLines_processes, List.map_map]
    rfl
  exact ⟨ledger_of_balanced ledger.balanced.takeLines (roles ▸ ledger.roles)
    (histories_empty session), pendingIn_takeLines session⟩

theorem move (ledger : Ledger first session lines) {after : Session (σ × Journal)}
    (move : Move session after) : Ledger first after lines :=
  ledger_of_balanced (ledger.balanced.move (fun _ _ => []) move)
    (move.continues.roles ▸ ledger.roles) (histories_empty session)

theorem signal (ledger : Ledger first session lines) {after : Session (σ × Journal)}
    (signal : Signal session after) : Ledger first after lines := by
  cases signal with
  | stop found alive sent outside =>
      refine ledger.sameOutput (map_set_eq found rfl) rfl ?_
      intro other key
      exact (Journal.bytes_append _ _ _ _).trans (List.append_nil _)
  | kill found alive asked outside =>
      refine ledger.sameOutput rfl rfl ?_
      intro other key
      exact (Journal.bytes_append _ _ _ _).trans (List.append_nil _)
  | reap found ended outside =>
      refine ledger.sameOutput rfl rfl ?_
      intro other key
      exact (Journal.bytes_append _ _ _ _).trans (List.append_nil _)

/-- A process that has just been started has no lines. -/
theorem launch (ledger : Ledger first session lines) {role : Role}
    (fresh : role ∉ session.processes.map RoleProcess.role) (pid : Nat) (line : CommandLine)
    (env : Variables) (now : Duration) (historyLines : Nat) (outside : σ)
    (answer : Except SystemError Nat) :
    Ledger first { session with
      outside := (outside, session.journal ++ [.launched line env answer])
      processes := session.processes ++ [.started role pid line now historyLines] } lines := by
  have bytes : ∀ index key,
      Journal.bytes (session.journal ++ [.launched line env answer]) index key =
        session.journal.bytes index key := fun index key =>
    (Journal.bytes_append _ _ _ _).trans (List.append_nil _)
  refine ledger_of_balanced (ledger.balanced.launch role pid line now historyLines bytes) ?_ ?_
  · rw [List.map_append, List.map_singleton]
    exact (List.perm_append_singleton role _).nodup_iff.mpr
      (List.nodup_cons.mpr ⟨fresh, ledger.roles⟩)
  · intro history membership
    rcases List.mem_append.mp membership with old | new
    · exact histories_empty session history old
    · exact ⟨historyLines, List.mem_singleton.mp new⟩

end Ledger

end Session

end Rendezvous
