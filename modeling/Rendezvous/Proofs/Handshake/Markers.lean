import Rendezvous.Proofs.Handshake.Passes
import Rendezvous.Proofs.Output.Relayed
import Rendezvous.Proofs.Run.Started
import Rendezvous.Proofs.Scenario.CommandLines
import Rendezvous.Proofs.Text.Encoding

/-!
Markers that can be found.

The marker is looked for in the text of one line, and an error signature in the same
line outweighs it.  No line has a newline in its text, so a marker with a newline is
never found, and neither is one that holds a signature.  Any other marker is found
when the server prints it on a line of its own; the line ends with a carriage return
as well, since one at the end of the line is not part of its text and the marker may
end with one.
-/

set_option autoImplicit false

namespace Rendezvous

variable {σ : Type}

theorem Text.contains_trans {text part inner : String} (outer : contains text part = true)
    (deeper : contains part inner = true) : contains text inner = true :=
  occurs_iff.mpr ((occurs_iff.mp deeper).trans (occurs_iff.mp outer))

namespace Output

theorem newline_not_mem_finished {bytes : List UInt8} {text : String}
    (membership : text ∈ finished bytes) : '\n' ∉ text.toList := by
  induction bytes using List.reverseRecOn with
  | nil => cases membership
  | append_singleton bytes byte inductionHypothesis =>
      by_cases ends : byte = OutputBuffer.newline
      · rw [ends, finished_append_newline] at membership
        rcases List.mem_append.mp membership with earlier | last
        · exact inductionHypothesis earlier
        · rw [List.mem_singleton.mp last]
          exact OutputBuffer.newline_not_mem_textOf (newline_not_mem_rest bytes)
      · rw [finished_append_other bytes ends] at membership
        exact inductionHypothesis membership

theorem newline_not_mem_lines {bytes : List UInt8} {text : String}
    (membership : text ∈ lines bytes) : '\n' ∉ text.toList := by
  rcases List.mem_append.mp membership with complete | last
  · exact newline_not_mem_finished complete
  · split at last
    · cases last
    · rw [List.mem_singleton.mp last]
      exact OutputBuffer.newline_not_mem_textOf (newline_not_mem_rest bytes)

/-- A carriage return in front of the newline is not part of the line, one in front of it is. -/
theorem lines_encode {text : String} (single : '\n' ∉ text.toList) :
    lines (Utf8.encode (text ++ "\r\n")) = [text] := by
  have absent : OutputBuffer.newline ∉ Utf8.encode text :=
    Utf8.not_mem_encode (by decide) single
  have ends : Utf8.encode "\r\n" = [carriageReturn, OutputBuffer.newline] := by
    decide +kernel
  have bytes : Utf8.encode (text ++ "\r\n") =
      Utf8.encode text ++ [carriageReturn] ++ [OutputBuffer.newline] := by
    rw [Utf8.encode_append, ends, List.append_assoc]
    rfl
  have piece := textOf_append_return (Utf8.encode text)
  have whole := pieces_of_not_mem absent
  rw [bytes, lines, rest_append_newline, finished_append_newline,
    finished_append_other _ (by decide), rest_append_other _ (by decide),
    finished, rest, whole]
  rw [Utf8.decodeLossy_encode] at piece
  exact congrArg (fun text => [text]) piece

end Output

/-- No line that was taken from a session has a newline in its text. -/
theorem Tally.Balanced.newline_not_mem {first : Nat} {start : List History} {tally : Tally σ}
    (balanced : tally.Balanced first start) {line : Line} (membership : line ∈ tally.lines) :
    '\n' ∉ line.text.toList := by
  obtain ⟨index, inside, given⟩ := List.mem_flatMap.mp (balanced.shares.mem_iff.mp membership)
  have found := List.getElem?_eq_getElem (List.mem_range.mp inside)
  obtain ⟨history, -, share⟩ := balanced.each index _ found
  have text : line.text ∈ Output.textsFrom line.stream (tally.given index) :=
    List.mem_map_of_mem (List.mem_filter.mpr ⟨given, decide_eq_true rfl⟩)
  have carries := share.streams line.stream
  unfold OutputStream.Carries at carries
  split at carries
  · exact Output.newline_not_mem_finished (carries.lines ▸ List.mem_append_left _ text)
  · exact Output.newline_not_mem_lines (carries.lines ▸ List.mem_append_left _ text)

namespace Handshake

/-- A line that a wait ends with holds the marker and no signature. -/
theorem verdict?_eq_found {scanner : Scanner} {target : Target} {lines : List Line}
    {text : String} (decided : verdict? scanner target lines = some (.found text)) :
    ∃ line ∈ lines, line.text = text ∧ Text.contains text target.marker = true ∧
      scanner.match? text = none := by
  rcases Option.or_eq_some_iff.mp decided with error | ⟨noError, found⟩
  · obtain ⟨line, -, signature⟩ := List.exists_of_findSome?_eq_some error
    obtain ⟨pattern, -, impossible⟩ := Option.map_eq_some_iff.mp signature
    cases impossible
  · obtain ⟨line, first, same⟩ := Option.map_eq_some_iff.mp found
    obtain rfl : line.text = text := Handshake.found.inj same
    have place := List.mem_of_find?_eq_some first
    have marked := List.find?_some first
    have clean := List.findSome?_eq_none_iff.mp noError line place
    exact ⟨line, List.mem_of_mem_filter place, rfl, marked, Option.map_eq_none_iff.mp clean⟩

/-- What a wait finds is a line without a newline and without a signature. -/
theorem await_found {world : World σ} {target : Target} {more : Nat} {session : Session σ}
    {transcript : Transcript} {text : String}
    (tracked : target.role ∈ session.processes.map RoleProcess.role) (emptied : session.Emptied)
    (found : (await world target more session transcript).1 = .ok (.found text)) :
    Text.contains text target.marker = true ∧ transcript.scanner.match? text = none ∧
      '\n' ∉ text.toList := by
  -- the journal tells which bytes the lines come from
  have recorded : (passes world.recorded target more session.noted transcript).1 =
      .ok (.found text) := by
    rw [← found, await_of_tracked world target more session transcript tracked]
    exact congrArg Prod.fst (passes_forget world target more session.noted transcript)
  obtain ⟨count, waited⟩ :=
    passes_waited world.recorded target more session.noted transcript tracked
  have ends := waited.ends
  rw [recorded] at ends
  cases ends with
  | decided _ decided =>
      obtain ⟨line, membership, rfl, marked, clean⟩ := verdict?_eq_found decided
      obtain ⟨given, balanced⟩ := afterPasses_balanced world target emptied (count + 1)
      refine ⟨marked, clean, balanced.newline_not_mem ?_⟩
      exact List.mem_flatMap.mpr ⟨count, List.mem_range.mpr (Nat.lt_succ_self count), membership⟩

end Handshake

namespace Session

/-- A session of one process that was just started. -/
def single (outside : σ) (role : Role) (pid : Nat) (line : CommandLine) (now : Duration)
    (historyLines : Nat) : Session σ where
  outside
  processes := [.started role pid line now historyLines]

theorem single_emptied (outside : σ) (role : Role) (pid : Nat) (line : CommandLine)
    (now : Duration) (historyLines : Nat) :
    (single outside role pid line now historyLines).Emptied := by
  intro process membership key
  obtain rfl := List.mem_singleton.mp membership
  cases key <;> exact ⟨rfl, List.not_mem_nil, nofun⟩

end Session

namespace Brief

/-- The stream on which such a process prints, once it was read to its end. -/
def printedOn (bytes : List UInt8) : OutputStream × Nat :=
  let (stream, seq) := ({} : OutputStream).push bytes 0
  stream.close seq

theorem printedOn_texts (bytes : List UInt8) :
    (printedOn bytes).1.buffer.texts = Output.lines bytes := by
  have carries : (printedOn bytes).1.Carries bytes [] :=
    (OutputStream.carries_fresh.accept rfl (.chunk bytes) 0).close rfl _
  have closed : (printedOn bytes).1.isOpen = false := rfl
  rw [OutputStream.Carries, if_neg (Bool.eq_false_iff.mp closed)] at carries
  exact carries.lines

section

variable (role : Role) (pid : Nat) (line : CommandLine) (now : Duration) (historyLines : Nat)

/-- One pass reads everything that such a process prints. -/
theorem poll_eq (printed : String) (target : Handshake.Target) :
    Handshake.poll (world printed) target (.single false role pid line now historyLines) =
      (.ok (), ⟨true, [{ RoleProcess.started role pid line now historyLines with
        exit := some ⟨.code 1, .zero, false⟩
        stdout := (printedOn (Utf8.encode printed)).1
        stderr := ⟨false, {}⟩ }], (printedOn (Utf8.encode printed)).2⟩) :=
  rfl

/-- All that a process with one line to print gives is this line. -/
theorem nextLines_eq {text : String} (single : '\n' ∉ text.toList) (target : Handshake.Target) :
    ∃ seq, Handshake.nextLines (world (text ++ "\r\n")) target
      (.single false role pid line now historyLines) = [⟨seq, role, .stdout, text⟩] := by
  have texts := (printedOn_texts (Utf8.encode (text ++ "\r\n"))).trans (Output.lines_encode single)
  obtain ⟨pending, lines, same⟩ := List.map_eq_singleton_iff.mp texts
  refine ⟨pending.seq, List.perm_singleton.mp ?_⟩
  have waiting : Session.pendingIn (Handshake.poll (world (text ++ "\r\n")) target
      (.single false role pid line now historyLines)).2.processes =
        [⟨pending.seq, role, .stdout, text⟩] := by
    rw [poll_eq]
    simp [Session.pendingIn, RoleProcess.pending, RoleProcess.pendingOf, RoleProcess.stream,
      RoleProcess.started, lines, same]
  rw [← waiting]
  exact Session.takeLines_perm _

/-- The wait for a process that prints the marker, and no signature, finds it in the first pass. -/
theorem await_found {target : Handshake.Target} {transcript : Transcript}
    (own : target.role = role) (single : '\n' ∉ target.marker.toList)
    (clean : transcript.scanner.match? target.marker = none) (more : Nat) :
    (Handshake.await (world (target.marker ++ "\r\n")) target more
      (.single false role pid line now historyLines) transcript).1 =
        .ok (.found target.marker) := by
  have tracked : target.role ∈ (Session.single false role pid line now
      historyLines).processes.map RoleProcess.role := List.mem_singleton.mpr own
  have polled : (Handshake.poll (world (target.marker ++ "\r\n")) target
      (.single false role pid line now historyLines)).1 = .ok () := by
    rw [poll_eq]
  obtain ⟨seq, lines⟩ := nextLines_eq role pid line now historyLines single target
  have marked : Text.contains target.marker target.marker = true :=
    Text.occurs_iff.mpr (List.infix_refl _)
  have decided : Handshake.verdict? transcript.scanner target
      (Handshake.nextLines (world (target.marker ++ "\r\n")) target
        (.single false role pid line now historyLines)) = some (.found target.marker) := by
    rw [lines, Handshake.verdict?, Handshake.error?_cons, Handshake.found?_cons]
    simp [own, clean, marked, Handshake.error?, Output.ofRole]
  have ended := Handshake.passes_of_ok polled more transcript
  rw [Handshake.await_of_tracked _ _ _ _ _ tracked, ended, decided]
  rfl

end

end Brief

/-- A marker that can stand in a line without an error signature. -/
def Scenario.HasPlainMarker (scenario : Scenario) : Prop :=
  '\n' ∉ scenario.marker.toList ∧
    ∀ signature ∈ scenario.scanner.signatures, Text.contains scenario.marker signature = false

namespace Run

/-- What the wait of a run finds is a line without a newline and without a signature. -/
theorem markerWait_found {world : World σ} {scenario : Scenario} {more : Nat}
    {transcript : Transcript} {outside : σ} {text : String}
    (found : (Run.start world transcript outside).markerWait world scenario more =
      some (.ok (.found text))) :
    Text.contains text scenario.marker = true ∧ transcript.scanner.match? text = none ∧
      '\n' ∉ text.toList := by
  rw [← forget_start, ← markerWait_forget, markerWait] at found
  rcases launch_cases world scenario .server
      ((Run.start world.recorded transcript (outside, [])).enter .serverStarting) with
    ⟨cause, launched⟩ | ⟨cause, line, refusal, later, -, launched⟩ |
      ⟨line, pid, now, later, planned, launched⟩ <;> rw [launched] at found
  · cases found
  · cases found
  · exact Handshake.await_found (List.mem_singleton_self _)
      (Session.single_emptied _ .server pid line now scenario.historyLines)
      (Option.some.inj found)

/-- A server that prints a plain marker on a line of its own is found to be ready. -/
theorem markerWait_plain {scenario : Scenario} (startable : scenario.Startable)
    (active : .server ∈ scenario.activeRoles) (plain : scenario.HasPlainMarker) (more : Nat) :
    let world := Brief.world (scenario.marker ++ "\r\n")
    (Run.start world (transcriptOf scenario) false).markerWait world scenario more =
      some (.ok (.found scenario.marker)) := by
  intro world
  obtain ⟨line, built⟩ := startable .server active
  obtain ⟨plan, planned⟩ := Option.isSome_iff_exists.mp (List.mem_filter.mp active).2
  have clean : (transcriptOf scenario).scanner.match? scenario.marker = none :=
    Scanner.match?_eq_none_iff.mpr plain.2
  let begun := (Run.start world (transcriptOf scenario) false).enter .serverStarting
  have launched : begun.launch world scenario .server = (.ok (), { begun with
      session := Session.single false .server 1000 line .zero scenario.historyLines }) := by
    simp only [launch, planned, built]
    rfl
  let target : Handshake.Target :=
    ⟨.server, scenario.marker, .after .zero scenario.timeouts.handshake, true⟩
  have own : target.role = .server := rfl
  have found := Brief.await_found .server 1000 line .zero scenario.historyLines own plain.1 clean
    more
  simp only [markerWait, begun] at launched ⊢
  rw [launched]
  exact congrArg some found

/-- A marker that is found is plain. -/
theorem plain_of_markerWait_found {world : World σ} {scenario : Scenario} {more : Nat}
    {outside : σ} {text : String}
    (found : (Run.start world (transcriptOf scenario) outside).markerWait world scenario more =
      some (.ok (.found text))) : scenario.HasPlainMarker := by
  obtain ⟨marked, clean, single⟩ := markerWait_found found
  refine ⟨fun newline => single ((Text.occurs_iff.mp marked).subset newline), ?_⟩
  intro signature membership
  refine Bool.eq_false_iff.mpr fun inside => ?_
  have contained := Text.contains_trans marked inside
  rw [Scanner.match?_eq_none_iff.mp clean signature membership] at contained
  cases contained

theorem aggregate_missed (world : World σ) (scenario : Scenario) {run : Run σ}
    (missed : run.handshakeSatisfied = false) :
    (run.aggregate world scenario).1.passed = false := by
  have passed : (run.aggregate world scenario).1.passed = (run.judge scenario).passed := rfl
  rw [passed, Run.passed, judge_handshakeSatisfied, missed]
  rfl

/-- A run whose marker was not found fails before its client is started. -/
theorem complete_missed {world : World σ} {scenario : Scenario} {more : Nat}
    {transcript : Transcript} {outside : σ}
    (missed : ∀ text, (Run.start world transcript outside).markerWait world scenario more ≠
      some (.ok (.found text))) :
    let outcome := (Run.start world transcript outside).complete world scenario more
    outcome.1.handshakeSatisfied = false ∧ outcome.1.passed = false ∧
      .clientStarting ∉ outcome.2.phases := by
  obtain ⟨satisfied, phases, roles, course, entered, found, -, -⟩ :=
    start_settle_course world scenario more transcript outside
  have unsatisfied : ¬ satisfied = true := fun found => (course.satisfied_iff.mp found).elim missed
  have unentered : .clientStarting ∉ phases := fun place =>
    unsatisfied (course.clientStarting_mem_iff.mp place)
  rw [complete]
  generalize (Run.start world transcript outside).settle world scenario more = settled
    at entered found
  rw [Bool.eq_false_iff.mpr unsatisfied] at found
  have failed := aggregate_missed world scenario found
  refine ⟨(aggregate_handshakeSatisfied world scenario settled).trans found, failed, ?_⟩
  rw [aggregate_phases, entered, failed]
  simp [unentered]

/--
A marker that a scenario accepts can be found exactly when it is plain: when it has no
newline and none of the signatures occurs in it.  A server that prints such a marker on a
line of its own is found to be ready.  With any other marker no run gets past the wait,
whatever its server does.
-/
theorem marker_found_iff_plain {locate : String → Option String} {options : RunOptions}
    {settings : Settings} {builtIn : LauncherSettings} {scenario : Scenario}
    (resolved : Scenario.resolve locate options settings builtIn = .ok scenario) :
    ((∃ (σ : Type) (world : World σ) (outside : σ) (more : Nat) (text : String),
        (Run.start world (transcriptOf scenario) outside).markerWait world scenario more =
          some (.ok (.found text))) ↔ scenario.HasPlainMarker) ∧
    (scenario.HasPlainMarker → ∀ more,
      let world := Brief.world (scenario.marker ++ "\r\n")
      (Run.start world (transcriptOf scenario) false).markerWait world scenario more =
        some (.ok (.found scenario.marker))) ∧
    (¬ scenario.HasPlainMarker →
      ∀ (σ : Type) (world : World σ) (outside : σ) (more : Nat),
        let outcome :=
          (Run.start world (transcriptOf scenario) outside).complete world scenario more
        outcome.1.handshakeSatisfied = false ∧ outcome.1.passed = false ∧
          .clientStarting ∉ outcome.2.phases) := by
  let sources : Sources := ⟨options, settings, builtIn⟩
  have describes : sources.Describes locate scenario := Sources.resolve_eq_ok_iff.mp resolved
  have ready (plain : scenario.HasPlainMarker) :=
    markerWait_plain describes.startable describes.server_active plain
  refine ⟨⟨?_, fun plain => ?_⟩, ready, fun marred σ world outside more => ?_⟩
  · rintro ⟨σ, world, outside, more, text, found⟩
    exact plain_of_markerWait_found found
  · exact ⟨Bool, _, false, 0, scenario.marker, ready plain 0⟩
  · exact complete_missed fun text found => marred (plain_of_markerWait_found found)

/-- Two roles, and a marker that says that there is no error. -/
def reassuring : RunOptions where
  roles := ⟨{ path := some "server" }, { path := some "client" }, {}⟩
  serial := true
  marker := some "READY, no ERROR: so far"

theorem reassuring_never_ready :
    ∃ scenario, Scenario.resolve some reassuring {} = .ok scenario ∧
      ¬ scenario.HasPlainMarker ∧
      ∀ (σ : Type) (world : World σ) (outside : σ) (more : Nat),
        ((Run.start world (transcriptOf scenario) outside).complete world scenario
          more).1.handshakeSatisfied = false := by
  have accepted : (Scenario.resolve some reassuring {}).toOption.map (fun scenario =>
      (scenario.marker, scenario.scanner.signatures)) =
        some ("READY, no ERROR: so far", Scanner.defaultSignatures) := by decide +kernel
  obtain ⟨scenario, place, values⟩ := Option.map_eq_some_iff.mp accepted
  obtain ⟨marker, signatures⟩ := Prod.mk.inj values
  have resolved : Scenario.resolve some reassuring {} = .ok scenario :=
    Except.toOption_eq_some_iff.mp place
  have marred : ¬ scenario.HasPlainMarker := by
    rintro ⟨-, clean⟩
    rw [marker, signatures] at clean
    exact absurd (clean "ERROR:" (by decide)) (by decide)
  exact ⟨scenario, resolved, marred, fun σ world outside more =>
    ((marker_found_iff_plain resolved).2.2 marred σ world outside more).1⟩

end Run

end Rendezvous
