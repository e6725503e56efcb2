import Rendezvous.Proofs.Output.Kept
import Rendezvous.Proofs.Session.Pending

/-!
The findings of a transcript.

For each role a transcript keeps the first findings up to its limit, so for each
stream of a role it keeps the first ones of that stream, and all of them if
nothing of the role was dropped.
-/

set_option autoImplicit false

namespace Rendezvous

namespace Scanner

/-- What a line is recorded as, if it contains a signature. -/
def finding? (scanner : Scanner) (line : Line) : Option Finding :=
  (scanner.match? line.text).map fun pattern => ⟨line.role, line.stream, pattern, line.text⟩

/-- The texts that contain a signature, each with its first one. -/
def hits (scanner : Scanner) (texts : List String) : List (String × String) :=
  texts.filterMap fun text => (scanner.match? text).map fun pattern => (pattern, text)

/-- How many lines of a role contain a signature. -/
def hitsOf (scanner : Scanner) (role : Role) (lines : List Line) : Nat :=
  lines.countP fun line => line.role = role && scanner.hasError line.text

/-- What is recorded of some lines: for each role its first hits, up to the limit. -/
def kept (scanner : Scanner) (limit : Nat) (lines : List Line) : List Finding :=
  lines.zipIdx.filterMap fun (line, index) =>
    if scanner.hitsOf line.role (lines.take index) < limit then scanner.finding? line else none

variable {scanner : Scanner} {line : Line} {finding : Finding}

theorem finding?_isSome (scanner : Scanner) (line : Line) :
    (scanner.finding? line).isSome = scanner.hasError line.text := by
  rw [finding?, Option.isSome_map]
  rfl

theorem finding?_role (found : scanner.finding? line = some finding) :
    finding.role = line.role := by
  obtain ⟨pattern, -, rfl⟩ := Option.map_eq_some_iff.mp found
  rfl

theorem hitsOf_append_singleton (scanner : Scanner) (role : Role) (lines : List Line)
    (line : Line) : scanner.hitsOf role (lines ++ [line]) = scanner.hitsOf role lines +
      if line.role = role ∧ scanner.hasError line.text then 1 else 0 := by
  simp [hitsOf, List.countP_append, List.countP_singleton]

/-- The last line is kept if it contains a signature and there is room for its role. -/
theorem kept_append_singleton (scanner : Scanner) (limit : Nat) (lines : List Line) (line : Line) :
    scanner.kept limit (lines ++ [line]) = scanner.kept limit lines ++
      if scanner.hitsOf line.role lines < limit then (scanner.finding? line).toList else [] := by
  have last : (lines ++ [line]).zipIdx = lines.zipIdx ++ [(line, lines.length)] := by
    simp [List.zipIdx_append]
  have earlier : ∀ entry ∈ lines.zipIdx, (lines ++ [line]).take entry.2 = lines.take entry.2 := by
    intro entry place
    have bound := List.snd_lt_of_mem_zipIdx place
    exact List.take_append_of_le_length (by omega)
  unfold kept
  rw [last, List.filterMap_append]
  congr 1
  · refine List.filterMap_congr fun entry place => ?_
    simp only [earlier entry place]
  · simp only [List.filterMap_cons, List.filterMap_nil, List.take_left]
    by_cases room : scanner.hitsOf line.role lines < limit
    · cases scanner.finding? line <;> simp [room]
    · simp [room]

theorem length_filterMap_finding? (scanner : Scanner) (role : Role) (lines : List Line) :
    ((Output.ofRole role lines).filterMap scanner.finding?).length = scanner.hitsOf role lines := by
  rw [List.length_filterMap_eq_countP, Output.ofRole, List.countP_filter, hitsOf]
  refine List.countP_congr fun line _ => ?_
  rw [finding?_isSome, Bool.and_comm]

end Scanner

namespace Finding

def ofRole (role : Role) (findings : List Finding) : List Finding :=
  findings.filter fun finding => finding.role = role

/-- The findings on a stream of a role, each as its pattern and its line. -/
def onStream (role : Role) (key : Stream) (findings : List Finding) : List (String × String) :=
  ((ofRole role findings).filter fun finding => finding.stream = key).map fun finding =>
    (finding.pattern, finding.line)

/-- What is kept for a role are the first findings of its lines. -/
theorem ofRole_kept (scanner : Scanner) (limit : Nat) (lines : List Line) (role : Role) :
    ofRole role (scanner.kept limit lines) =
      ((Output.ofRole role lines).filterMap scanner.finding?).take limit := by
  induction lines using List.reverseRecOn with
  | nil => simp [ofRole, Output.ofRole, Scanner.kept]
  | append_singleton lines line inductionHypothesis =>
      rw [Scanner.kept_append_singleton, ofRole, List.filter_append, Output.ofRole,
        List.filter_append, List.filterMap_append, List.take_append]
      refine congrArg₂ _ inductionHypothesis ?_
      rw [← Output.ofRole, Scanner.length_filterMap_finding?]
      by_cases own : line.role = role
      · subst own
        cases found : scanner.finding? line with
        | none => simp [found]
        | some finding =>
            have same := Scanner.finding?_role found
            by_cases room : scanner.hitsOf line.role lines < limit
            · obtain ⟨left, rest⟩ : ∃ left, limit - scanner.hitsOf line.role lines = left + 1 :=
                ⟨limit - scanner.hitsOf line.role lines - 1, by omega⟩
              simp [room, same, found, rest]
            · have full : limit - scanner.hitsOf line.role lines = 0 := by omega
              simp [room, full]
      · cases found : scanner.finding? line with
        | none => simp [own]
        | some finding =>
            have elsewhere : finding.role ≠ role := Scanner.finding?_role found ▸ own
            split <;> simp [own, elsewhere]

end Finding

namespace Transcript

variable {transcript : Transcript}

/-- A line that contains a signature is kept as a finding if there is room for its role. -/
theorem observe_findings (transcript : Transcript) (line : Line) (relaying : Bool) :
    (transcript.observe line relaying).1.findings.toList = transcript.findings.toList ++
      if transcript.hits.get line.role < transcript.limit then
        (transcript.scanner.finding? line).toList
      else [] := by
  cases found : transcript.scanner.match? line.text with
  | none => cases relaying <;> simp [observe, found, relay, Scanner.finding?]
  | some pattern =>
      by_cases room : transcript.hits.get line.role < transcript.limit
      · have kept : transcript.hits.get line.role + 1 ≤ transcript.limit := room
        cases relaying <;> simp [observe, found, relay, record, Scanner.finding?, room, kept]
      · have full : ¬ transcript.hits.get line.role + 1 ≤ transcript.limit := room
        cases relaying <;> simp [observe, found, relay, record, room, full]

/-- The findings that some lines of a stream would give. -/
theorem onStream_filterMap (scanner : Scanner) (key : Stream) (lines : List Line) :
    ((lines.filterMap scanner.finding?).filter fun finding => finding.stream = key).map
        (fun finding => (finding.pattern, finding.line)) =
      scanner.hits ((lines.filter fun line => line.stream = key).map Line.text) := by
  unfold Scanner.hits
  induction lines with
  | nil => rfl
  | cons line lines inductionHypothesis =>
      by_cases own : line.stream = key <;> cases found : scanner.match? line.text <;>
        simp [Scanner.finding?, own, found, inductionHypothesis]

/-- If nothing was dropped at all, there was room for the findings of each role. -/
theorem hits_le_of_dropped (none : transcript.dropped = 0) (role : Role) :
    transcript.hits.get role ≤ transcript.limit := by
  simp only [dropped, Role.all, List.foldl_cons, List.foldl_nil] at none
  cases role <;> omega

/-- Nothing was found yet. -/
structure Unused (transcript : Transcript) : Prop where
  findings : transcript.findings = #[]
  hits : ∀ role, transcript.hits.get role = 0

theorem start_unused (scanner : Scanner) (quiet : Bool) (limit : Nat) :
    (start scanner quiet limit).Unused :=
  ⟨rfl, RoleTable.get_replicate 0⟩

/-- What was found is what there is to find in some lines. -/
structure Recorded (transcript : Transcript) (lines : List Line) : Prop where
  hits : ∀ role, transcript.hits.get role = transcript.scanner.hitsOf role lines
  findings : transcript.findings.toList = transcript.scanner.kept transcript.limit lines

theorem Unused.recorded (unused : transcript.Unused) : transcript.Recorded [] :=
  ⟨unused.hits, congrArg Array.toList unused.findings⟩

theorem Recorded.observe {lines : List Line} (recorded : transcript.Recorded lines) (line : Line)
    (relaying : Bool) : (transcript.observe line relaying).1.Recorded (lines ++ [line]) where
  hits role := by
    rw [observe_hits, observe_scanner, recorded.hits, Scanner.hitsOf_append_singleton]
  findings := by
    rw [observe_findings, observe_scanner, (observe_setup transcript line relaying).limit,
      recorded.hits, recorded.findings, Scanner.kept_append_singleton]

theorem Recorded.observeAll {earlier : List Line} (recorded : transcript.Recorded earlier)
    (lines : List Line) : (transcript.observeAll lines).Recorded (earlier ++ lines) := by
  induction lines generalizing transcript earlier with
  | nil => simpa [Transcript.observeAll] using recorded
  | cons line lines inductionHypothesis =>
      have later := inductionHypothesis (recorded.observe line true)
      rwa [List.append_assoc] at later

/-- What an unused transcript keeps of a stream of a role: its first findings, if not all. -/
theorem observeAll_onStream (unused : transcript.Unused) (lines : List Line) (role : Role)
    (key : Stream) :
    let after := transcript.observeAll lines
    let found := transcript.scanner.hits (Output.textsOf role key lines)
    Finding.onStream role key after.findings.toList <+: found ∧
      (after.dropped = 0 → Finding.onStream role key after.findings.toList = found) := by
  intro after found
  let all := (Output.ofRole role lines).filterMap transcript.scanner.finding?
  have recorded : after.Recorded lines := unused.recorded.observeAll lines
  have scanner : after.scanner = transcript.scanner :=
    (observeAll_setup transcript lines).scanner
  have kept : Finding.ofRole role after.findings.toList = all.take after.limit := by
    rw [recorded.findings, Finding.ofRole_kept, scanner]
  have whole : found = ((all.filter fun finding => finding.stream = key).map fun finding =>
      (finding.pattern, finding.line)) :=
    (onStream_filterMap transcript.scanner key _).symm
  rw [Finding.onStream, kept, whole]
  refine ⟨((List.take_prefix _ all).filter _).map _, fun none => ?_⟩
  have counted : after.hits.get role = all.length := by
    rw [recorded.hits, scanner, Scanner.length_filterMap_finding?]
  rw [List.take_of_length_le (counted ▸ hits_le_of_dropped none role)]

end Transcript

end Rendezvous
