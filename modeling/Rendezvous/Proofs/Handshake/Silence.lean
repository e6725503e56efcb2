import Rendezvous.Proofs.Handshake.Passes

/-!
Waits that do not relay the lines of their target.

Whether the lines of the target are relayed decides nothing: a silent wait takes the same
passes as one that relays everything, and it ends in the same way.  It withholds the
target's lines up to the first decisive one, and nothing else.
-/

set_option autoImplicit false

namespace Rendezvous

namespace Transcript

def scan (transcript : Transcript) (line : Line) : Transcript :=
  (transcript.observe line false).1

theorem observe_fst (transcript : Transcript) (line : Line) (relaying : Bool) :
    (transcript.observe line relaying).1 =
      if relaying then (transcript.scan line).relay line else transcript.scan line := by
  cases relaying <;> rfl

/-- Scanning and relaying have nothing to do with each other. -/
theorem scan_relay (transcript : Transcript) (first second : Line) :
    (transcript.relay first).scan second = (transcript.scan second).relay first := by
  have scanner : (transcript.relay first).scanner = transcript.scanner := rfl
  unfold scan observe
  rw [scanner]
  cases transcript.scanner.match? second.text <;> rfl

theorem foldl_scan_relay (transcript : Transcript) (line : Line) (lines : List Line) :
    lines.foldl scan (transcript.relay line) = (lines.foldl scan transcript).relay line := by
  induction lines generalizing transcript with
  | nil => rfl
  | cons next lines inductionHypothesis =>
      rw [List.foldl_cons, List.foldl_cons, scan_relay, inductionHypothesis]

/-- Relaying counts lines and writes them, and nothing else. -/
theorem foldl_relay (transcript : Transcript) (lines : List Line) :
    lines.foldl relay transcript = { transcript with
      relayed := transcript.relayed + lines.length
      written := if transcript.quiet || !transcript.writable then transcript.written
        else transcript.written ++ String.join (lines.map render) } := by
  induction lines generalizing transcript with
  | nil => simp
  | cons line lines inductionHypothesis =>
      rw [List.foldl_cons, inductionHypothesis, relay]
      cases transcript.quiet || !transcript.writable <;>
        simp [Nat.add_assoc, Nat.add_comm 1, String.join_cons, String.append_assoc]

/-- Scanning writes nothing and counts no line as relayed. -/
theorem foldl_scan_output (transcript : Transcript) (lines : List Line) :
    let scanned := lines.foldl scan transcript
    scanned.relayed = transcript.relayed ∧ scanned.written = transcript.written ∧
      scanned.quiet = transcript.quiet ∧ scanned.writable = transcript.writable := by
  induction lines generalizing transcript with
  | nil => exact ⟨rfl, rfl, rfl, rfl⟩
  | cons line lines inductionHypothesis =>
      have first : (transcript.scan line).relayed = transcript.relayed ∧
          (transcript.scan line).written = transcript.written ∧
          (transcript.scan line).quiet = transcript.quiet ∧
          (transcript.scan line).writable = transcript.writable := by
        unfold scan observe
        cases transcript.scanner.match? line.text <;> exact ⟨rfl, rfl, rfl, rfl⟩
      obtain ⟨relayed, written, quiet, writable⟩ := first
      obtain ⟨relayedOn, writtenOn, quietOn, writableOn⟩ :=
        inductionHypothesis (transcript.scan line)
      exact ⟨relayedOn.trans relayed, writtenOn.trans written, quietOn.trans quiet,
        writableOn.trans writable⟩

/-- The transcript that has scanned some lines and relayed some lines. -/
def after (transcript : Transcript) (scanned relayed : List Line) : Transcript :=
  relayed.foldl relay (scanned.foldl scan transcript)

theorem relayed_after (transcript : Transcript) (scanned relayed : List Line) :
    (transcript.after scanned relayed).relayed = transcript.relayed + relayed.length := by
  rw [after, foldl_relay, (transcript.foldl_scan_output scanned).1]

theorem written_after (transcript : Transcript) (scanned relayed : List Line) :
    (transcript.after scanned relayed).written =
      if transcript.quiet || !transcript.writable then transcript.written
      else transcript.written ++ String.join (relayed.map render) := by
  obtain ⟨-, written, quiet, writable⟩ := transcript.foldl_scan_output scanned
  rw [after, foldl_relay, written, quiet, writable]

theorem after_cons (transcript : Transcript) (line : Line) (scanned relayed : List Line)
    (relaying : Bool) :
    transcript.after (line :: scanned) (if relaying then line :: relayed else relayed) =
      (transcript.observe line relaying).1.after scanned relayed := by
  unfold after
  rw [List.foldl_cons, observe_fst]
  cases relaying with
  | false => rfl
  | true =>
      rw [if_pos rfl, if_pos rfl, List.foldl_cons, foldl_scan_relay]

end Transcript

namespace Handshake

variable {σ : Type}

/-- What a wait that does not relay its target relays of the lines that it takes. -/
inductive Spoken (scanner : Scanner) (target : Target) : List Line → List Line → Prop where
  | undecided {lines : List Line}
      (undecided : ∀ line ∈ lines, isDecisive scanner target line = false) :
      Spoken scanner target lines (lines.filter fun line => line.role ≠ target.role)
  | decided {before after : List Line} {line : Line}
      (undecided : ∀ earlier ∈ before, isDecisive scanner target earlier = false)
      (decides : isDecisive scanner target line = true) :
      Spoken scanner target (before ++ line :: after)
        (before.filter (fun line => line.role ≠ target.role) ++ after)

section

variable {scanner : Scanner} {target : Target}

theorem Spoken.cons {line : Line} {lines relayed : List Line}
    (first : isDecisive scanner target line = false)
    (spoken : Spoken scanner target lines relayed) :
    Spoken scanner target (line :: lines)
      (if line.role ≠ target.role then line :: relayed else relayed) := by
  cases spoken with
  | undecided later =>
      have none : ∀ other ∈ line :: lines, isDecisive scanner target other = false :=
        List.forall_mem_cons.mpr ⟨first, later⟩
      have whole := Spoken.undecided none
      by_cases own : line.role = target.role <;> simpa [own] using whole
  | @decided before after last earlier decides =>
      have none : ∀ other ∈ line :: before, isDecisive scanner target other = false :=
        List.forall_mem_cons.mpr ⟨first, earlier⟩
      have whole := @Spoken.decided scanner target _ after last none decides
      by_cases own : line.role = target.role <;> simpa [own] using whole

theorem observe_undecided {line : Line} {transcript : Transcript}
    (undecided : isDecisive transcript.scanner target line = false) :
    (observe target (.waiting, transcript) line).1 = .waiting := by
  have stands := @foldl_observe target [line] transcript
  have none : verdict? transcript.scanner target [line] = none :=
    verdict?_eq_none.mpr (List.forall_mem_singleton.mpr undecided)
  rwa [none] at stands

theorem observe_decides {line : Line} {transcript : Transcript}
    (decides : isDecisive transcript.scanner target line = true) :
    (observe target (.waiting, transcript) line).1 ≠ .waiting := by
  have stands := @foldl_observe target [line] transcript
  cases decided : verdict? transcript.scanner target [line] with
  | none =>
      have undecided := verdict?_eq_none.mp decided line List.mem_cons_self
      rw [decides] at undecided
      cases undecided
  | some state =>
      rw [decided] at stands
      rcases verdict?_eq_some decided with ⟨pattern, text, rfl⟩ | ⟨text, rfl⟩ <;>
        exact fun waiting => nomatch stands.symm.trans waiting

theorem afterLine_past {state : Handshake} (past : state ≠ .waiting) (marker line : String)
    (signature? : Option String) : state.afterLine marker line signature? ≠ .waiting := by
  cases state with
  | waiting => exact absurd rfl past
  | found | timedOut | exitedEarly | errorText =>
      cases signature? <;> simp [afterLine, isErrorText, isWaiting]

theorem observe_past {state : Handshake} (past : state ≠ .waiting) (transcript : Transcript)
    (line : Line) : (observe target (state, transcript) line).1 ≠ .waiting := by
  by_cases own : line.role = target.role
  · simp only [observe, if_pos own]
    apply afterLine_past past
  · simp only [observe, if_neg own]
    exact past

/-- Lines are all relayed if the target's are or if the wait has been decided. -/
theorem foldl_observe_all (target : Target) {state : Handshake}
    (all : target.relaying = true ∨ state ≠ .waiting) (lines : List Line) (transcript : Transcript) :
    (lines.foldl (observe target) (state, transcript)).2 = transcript.after lines lines := by
  induction lines generalizing state transcript with
  | nil => rfl
  | cons line lines inductionHypothesis =>
      have relaying : (observe target (state, transcript) line).2 =
          (transcript.observe line true).1 := by
        rcases all with relaying | past
        · simp [observe, relaying]
        · simp [observe, isWaiting, past]
      have later := transcript.after_cons line lines lines true
      rw [if_pos rfl] at later
      rw [later, ← relaying]
      exact inductionHypothesis (all.imp_right fun past => observe_past past transcript line) _

theorem foldl_observe_silent (target : Target) (lines : List Line) (transcript : Transcript) :
    ∃ relayed, Spoken transcript.scanner target lines relayed ∧
      (lines.foldl (observe { target with relaying := false }) (.waiting, transcript)).2 =
        transcript.after lines relayed := by
  induction lines generalizing transcript with
  | nil => exact ⟨[], .undecided nofun, rfl⟩
  | cons line lines inductionHypothesis =>
      let silent := { target with relaying := false }
      have heard : (observe silent (.waiting, transcript) line).2 =
          (transcript.observe line (line.role ≠ target.role)).1 := by
        simp [observe, isWaiting, silent]
      cases decides : isDecisive transcript.scanner target line with
      | true =>
          have own : line.role = target.role :=
            of_decide_eq_true (Bool.and_eq_true_iff.mp decides).1
          -- the decisive line itself is withheld, and what comes behind it is all relayed
          have past : (observe silent (.waiting, transcript) line).1 ≠ .waiting :=
            observe_decides decides
          have rest := foldl_observe_all silent (Or.inr past) lines
            (observe silent (.waiting, transcript) line).2
          have withheld := @Spoken.decided _ _ [] lines _ nofun decides
          refine ⟨lines, withheld, rest.trans ?_⟩
          rw [heard, decide_eq_false (not_not.mpr own)]
          exact (transcript.after_cons line lines lines false).symm
      | false =>
          obtain ⟨relayed, spoken, rest⟩ :=
            inductionHypothesis (transcript.observe line (line.role ≠ target.role)).1
          rw [Transcript.observe_scanner] at spoken
          refine ⟨_, spoken.cons decides, ?_⟩
          have next : observe silent (.waiting, transcript) line =
              (.waiting, (transcript.observe line (line.role ≠ target.role)).1) :=
            Prod.ext (observe_undecided decides) heard
          rw [List.foldl_cons, next, rest, ← Transcript.after_cons]
          simp

end

/-- The lines of the first passes of a wait. -/
def linesOfPasses (world : World σ) (target : Target) (count : Nat) (session : Session σ) :
    List Line :=
  (List.range count).flatMap fun pass =>
    nextLines world target (afterPasses world target pass session)

theorem linesOfPasses_succ (world : World σ) (target : Target) (count : Nat)
    (session : Session σ) :
    linesOfPasses world target (count + 1) session =
      nextLines world target session ++
        linesOfPasses world target count (next world target session) := by
  rw [linesOfPasses, List.range_succ_eq_map, List.flatMap_cons, List.flatMap_map]
  rfl

/-- The passes that gave lines: one that was cut short, the last one, gave none. -/
def passesTaken (count : Nat) : Except Error Handshake → Nat
  | .ok _ => count + 1
  | .error _ => count

section

variable {world : World σ} {target : Target} {scanner : Scanner} {session after : Session σ}
  {transcript : Transcript} {outcome : Except Error Handshake} {more count : Nat}

theorem passes_of_goesOn (goesOn : GoesOn world target transcript.scanner session)
    (tracked : target.role ∈ session.processes.map RoleProcess.role) :
    passes world target (more + 1) session transcript =
      passes world target more (next world target session)
        ((nextLines world target session).foldl (observe target) (.waiting, transcript)).2 := by
  obtain ⟨process, found⟩ := Session.exists_process? (next_roles world target session ▸ tracked)
  rw [passes_of_ok goesOn.polled, verdict?_eq_none.mpr goesOn.undecided, Option.getD_none,
    afterPass_waiting found, goesOn.unfinished process found, goesOn.inTime]
  rfl

/-- The session that a wait leaves when it ends with a pass. -/
def sessionAfter (world : World σ) (target : Target) (session : Session σ) :
    Except Error Handshake → Session σ
  | .ok _ => next world target session
  | .error _ => (poll world target session).2

theorem passes_of_ends (ends : Ends world target transcript.scanner session (0 = more) outcome) :
    passes world target more session transcript = (outcome, sessionAfter world target session outcome,
      ((linesOfPasses world target (passesTaken 0 outcome) session).foldl (observe target)
        (.waiting, transcript)).2) := by
  have single : linesOfPasses world target 1 session = nextLines world target session :=
    List.flatMap_singleton _ _
  cases ends with
  | failed failed =>
      exact passes_of_interrupted (Prod.ext failed rfl) more transcript
  | decided polled decided =>
      rw [passes_of_ok polled, decided, Option.getD_some, passesTaken, single]
      rcases verdict?_eq_some decided with ⟨pattern, text, rfl⟩ | ⟨text, rfl⟩ <;> rfl
  | exitedEarly polled undecided found finished =>
      rw [passes_of_ok polled, verdict?_eq_none.mpr undecided, Option.getD_none,
        afterPass_waiting found, finished, passesTaken, single]
      rfl
  | timedOut polled undecided found unfinished late =>
      rw [passes_of_ok polled, verdict?_eq_none.mpr undecided, Option.getD_none,
        afterPass_waiting found, unfinished, passesTaken, single]
      rcases late with late | rfl
      · rw [late]
        rfl
      · cases target.deadline.isExpired ((next world target session).now world) <;> rfl

theorem Waited.rest
    (waited : Waited world target scanner (more + 1) session (count + 1) outcome after) :
    Waited world target scanner more (next world target session) count outcome after := by
  refine ⟨Nat.le_of_succ_le_succ waited.within, ?_, ?_, waited.reached⟩
  · intro earlier before
    exact waited.goesOn (earlier + 1) (Nat.succ_lt_succ before)
  · have ends := waited.ends
    rwa [Nat.succ_inj] at ends

/-- The passes of a wait tell how it ends and which lines it has observed. -/
theorem Waited.passes_eq
    (waited : Waited world target transcript.scanner more session count outcome after)
    (tracked : target.role ∈ session.processes.map RoleProcess.role) :
    passes world target more session transcript =
      (outcome, sessionAfter world target (afterPasses world target count session) outcome,
        ((linesOfPasses world target (passesTaken count outcome) session).foldl (observe target)
          (.waiting, transcript)).2) := by
  induction count generalizing more session transcript with
  | zero => exact passes_of_ends waited.ends
  | succ count inductionHypothesis =>
      obtain ⟨more, rfl⟩ := Nat.exists_eq_add_one_of_ne_zero
        (Nat.ne_of_gt (Nat.lt_of_lt_of_le (Nat.succ_pos count) waited.within))
      have goesOn : GoesOn world target transcript.scanner session :=
        waited.goesOn 0 (Nat.succ_pos count)
      have trackedNext : target.role ∈
          (next world target session).processes.map RoleProcess.role := by
        rwa [next_roles]
      have taken : passesTaken (count + 1) outcome = passesTaken count outcome + 1 := by
        cases outcome <;> rfl
      -- the lines of the first pass leave the handshake as it was
      have heard : (nextLines world target session).foldl (observe target) (.waiting, transcript) =
          (.waiting, ((nextLines world target session).foldl (observe target)
            (.waiting, transcript)).2) := by
        refine Prod.ext ?_ rfl
        rw [foldl_observe, verdict?_eq_none.mpr goesOn.undecided]
        rfl
      rw [passes_of_goesOn goesOn tracked, taken, linesOfPasses_succ, List.foldl_append, heard]
      have scanned := foldl_observe_scanner target (nextLines world target session) .waiting
        transcript
      generalize ((nextLines world target session).foldl (observe target)
        (.waiting, transcript)).2 = later at scanned ⊢
      rw [← scanned] at waited
      exact inductionHypothesis waited.rest trackedNext

theorem afterPasses_relaying (relaying : Bool) (count : Nat) (session : Session σ) :
    afterPasses world { target with relaying } count session =
      afterPasses world target count session := by
  induction count generalizing session with
  | zero => rfl
  | succ count inductionHypothesis => exact inductionHypothesis _

theorem linesOfPasses_relaying (relaying : Bool) (count : Nat) (session : Session σ) :
    linesOfPasses world { target with relaying } count session =
      linesOfPasses world target count session := by
  unfold linesOfPasses
  simp only [afterPasses_relaying]
  rfl

theorem Waited.withRelaying (waited : Waited world target scanner more session count outcome after)
    (relaying : Bool) :
    Waited world { target with relaying } scanner more session count outcome after := by
  refine ⟨waited.within, ?_, ?_, ?_⟩
  · intro earlier before
    have goesOn := waited.goesOn earlier before
    rw [afterPasses_relaying]
    exact ⟨goesOn.polled, goesOn.undecided, goesOn.unfinished, goesOn.inTime⟩
  · have ends := waited.ends
    rw [afterPasses_relaying]
    cases ends with
    | failed failed => exact .failed failed
    | decided polled decided => exact .decided polled decided
    | exitedEarly polled undecided found finished =>
        exact .exitedEarly polled undecided found finished
    | timedOut polled undecided found unfinished late =>
        exact .timedOut polled undecided found unfinished late
  · intro state same
    rw [afterPasses_relaying]
    exact waited.reached state same

end

theorem await_of_waited {world : World σ} {target : Target} {session after : Session σ}
    {transcript : Transcript} {outcome : Except Error Handshake} {more count : Nat}
    (waited : Waited world target transcript.scanner more session count outcome after)
    (tracked : target.role ∈ session.processes.map RoleProcess.role) (relaying : Bool) :
    await world { target with relaying } more session transcript =
      (outcome, sessionAfter world target (afterPasses world target count session) outcome,
        ((linesOfPasses world target (passesTaken count outcome) session).foldl
          (observe { target with relaying }) (.waiting, transcript)).2) := by
  have passed := (waited.withRelaying relaying).passes_eq tracked
  rw [afterPasses_relaying, linesOfPasses_relaying] at passed
  exact (await_of_tracked world { target with relaying } more session transcript tracked).trans
    passed

theorem await_of_untracked (world : World σ) (target : Target) (more : Nat) (session : Session σ)
    (transcript : Transcript) (absent : target.role ∉ session.processes.map RoleProcess.role) :
    await world target more session transcript =
      (.error (.processNotTracked target.role), session, transcript) := by
  rw [await, Session.process?_eq_none absent]

/-- The lines that a wait takes: those of its passes, and none if its target is not there. -/
inductive Takes (world : World σ) (target : Target) (scanner : Scanner) (more : Nat)
    (session : Session σ) : Except Error Handshake → Session σ → List Line → Prop where
  | untracked (absent : target.role ∉ session.processes.map RoleProcess.role) :
      Takes world target scanner more session (.error (.processNotTracked target.role)) session []
  | passes {count : Nat} {outcome : Except Error Handshake} {after : Session σ}
      (waited : Waited world target scanner more session count outcome after) :
      Takes world target scanner more session outcome after
        (linesOfPasses world target (passesTaken count outcome) session)

theorem exists_taken (world : World σ) (target : Target) (more : Nat) (session : Session σ)
    (transcript : Transcript) :
    let printing := await world { target with relaying := true } more session transcript
    let silent := await world { target with relaying := false } more session transcript
    ∃ lines relayed, silent.1 = printing.1 ∧ silent.2.1 = printing.2.1 ∧
      Takes world target transcript.scanner more session printing.1 printing.2.1 lines ∧
      Spoken transcript.scanner target lines relayed ∧
      printing.2.2 = transcript.after lines lines ∧
      silent.2.2 = transcript.after lines relayed := by
  intro printing silent
  by_cases tracked : target.role ∈ session.processes.map RoleProcess.role
  · obtain ⟨count, waited⟩ :=
      passes_waited world { target with relaying := true } more session transcript tracked
    have made := await_of_tracked world { target with relaying := true } more session transcript
      tracked
    rw [← made] at waited
    have passes : Waited world target transcript.scanner more session count printing.1
        printing.2.1 := waited.withRelaying target.relaying
    have printed : printing = _ := await_of_waited passes tracked true
    have silenced : silent = _ := await_of_waited passes tracked false
    let lines := linesOfPasses world target (passesTaken count printing.1) session
    obtain ⟨relayed, spoken, withheld⟩ := foldl_observe_silent target lines transcript
    have all := @foldl_observe_all { target with relaying := true } .waiting (Or.inl rfl) lines
      transcript
    have ended : silent.1 = printing.1 := by rw [silenced]
    have left : silent.2.1 = printing.2.1 :=
      (congrArg (·.2.1) silenced).trans (congrArg (·.2.1) printed).symm
    exact ⟨lines, relayed, ended, left, .passes passes, spoken,
      (congrArg (·.2.2) printed).trans all, (congrArg (·.2.2) silenced).trans withheld⟩
  · have printed : printing = _ := await_of_untracked world { target with relaying := true } more
      session transcript tracked
    have silenced : silent = _ := await_of_untracked world { target with relaying := false } more
      session transcript tracked
    rw [printed, silenced]
    exact ⟨[], [], rfl, rfl, .untracked tracked, .undecided nofun, rfl, rfl⟩

/--
A silent wait and one that relays the lines of its target agree: they end in the same way,
in the same session and with the same findings.  Both scan every line that they take, and
one relays all of them.  The silent one withholds the lines of the target up to the first
decisive one; it relays the lines of the other roles and everything behind that line.
What a wait relays is what its transcript has counted and written more than before.
-/
theorem silent_wait_agrees (world : World σ) (target : Target) (more : Nat) (session : Session σ)
    (transcript : Transcript) :
    let printing := await world { target with relaying := true } more session transcript
    let silent := await world { target with relaying := false } more session transcript
    silent.1 = printing.1 ∧ silent.2.1 = printing.2.1 ∧
      silent.2.2.findings = printing.2.2.findings ∧ silent.2.2.hits = printing.2.2.hits ∧
      silent.2.2.dropped = printing.2.2.dropped ∧
      ∃ lines relayed,
        Takes world target transcript.scanner more session printing.1 printing.2.1 lines ∧
        Spoken transcript.scanner target lines relayed ∧
        printing.2.2 = transcript.after lines lines ∧
        silent.2.2 = transcript.after lines relayed ∧
        printing.2.2.relayed = transcript.relayed + lines.length ∧
        silent.2.2.relayed = transcript.relayed + relayed.length ∧
        printing.2.2.written =
          (if transcript.quiet || !transcript.writable then transcript.written
            else transcript.written ++ String.join (lines.map Transcript.render)) ∧
        silent.2.2.written =
          (if transcript.quiet || !transcript.writable then transcript.written
            else transcript.written ++ String.join (relayed.map Transcript.render)) := by
  intro printing silent
  obtain ⟨lines, relayed, outcome, after, takes, spoken, printed, silenced⟩ :=
    exists_taken world target more session transcript
  have counts : silent.2.2.findings = printing.2.2.findings ∧
      silent.2.2.hits = printing.2.2.hits ∧ silent.2.2.dropped = printing.2.2.dropped := by
    rw [silenced, printed, Transcript.after, Transcript.after, Transcript.foldl_relay,
      Transcript.foldl_relay]
    exact ⟨rfl, rfl, rfl⟩
  obtain ⟨findings, hits, dropped⟩ := counts
  refine ⟨outcome, after, findings, hits, dropped, lines, relayed, takes, spoken, printed,
    silenced, ?_, ?_, ?_, ?_⟩
  · rw [printed, Transcript.relayed_after]
  · rw [silenced, Transcript.relayed_after]
  · rw [printed, Transcript.written_after]
  · rw [silenced, Transcript.written_after]

end Handshake

end Rendezvous
