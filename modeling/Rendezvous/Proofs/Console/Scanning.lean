import Mathlib.Data.List.Find
import Rendezvous.Proofs.Console.Records
import Rendezvous.Proofs.Output.Captured
import Rendezvous.Proofs.Output.Findings
import Rendezvous.Proofs.Handshake.Passes
import Rendezvous.Proofs.Run.Accounts
import Rendezvous.Proofs.Run.Survivors

/-!
Scanning captured output.

The records of a file are the matches that a run finds when the same bytes come
from a stream: the same lines, each with the same signature.
-/

set_option autoImplicit false

namespace Rendezvous

theorem Text.occurs_append_singleton {part items : List Char} {last : Char}
    (absent : last ∉ part) : occurs part (items ++ [last]) = occurs part items := by
  rw [Bool.eq_iff_iff, occurs_iff, occurs_iff, List.infix_concat_iff]
  constructor
  · rintro (suffix | inside)
    · rcases List.suffix_concat_iff.mp suffix with rfl | ⟨initial, rfl, -⟩
      · exact List.nil_infix
      · exact absurd (List.mem_append_right initial List.mem_cons_self) absent
    · exact inside
  · exact Or.inr

namespace Scanner

/-- No signature can reach into a carriage return. -/
def Plain (scanner : Scanner) : Prop :=
  ∀ signature ∈ scanner.signatures, '\r' ∉ signature.toList

theorem Plain.match?_append_return {scanner : Scanner} (plain : scanner.Plain) (text : String) :
    scanner.match? (text ++ "\r") = scanner.match? text := by
  apply List.find?_congr
  intro signature membership
  have split : (text ++ "\r").toList = text.toList ++ ['\r'] := String.toList_append
  rw [Text.contains, Text.contains, split,
    Text.occurs_append_singleton (plain signature membership)]

end Scanner

namespace FileScan

variable {scanner : Scanner} {path : String}

theorem recordsFrom_append (scanner : Scanner) (path : String) (number : Nat)
    (first second : List String) :
    recordsFrom scanner path number (first ++ second) =
      recordsFrom scanner path number first ++
        recordsFrom scanner path (number + first.length) second := by
  induction first generalizing number with
  | nil => rfl
  | cons line first inductionHypothesis =>
      have next : number + (line :: first).length = number + 1 + first.length := by
        rw [List.length_cons, Nat.add_assoc, Nat.add_comm 1]
      rw [next, List.cons_append, recordsFrom, recordsFrom, inductionHypothesis]
      cases scanner.match? line <;> rfl

/-- The records of some lines are the lines that contain a signature. -/
theorem recordsFrom_hits (scanner : Scanner) (path : String) (number : Nat)
    (texts : List String) :
    (recordsFrom scanner path number texts).map (fun record => (record.signature, record.line)) =
      scanner.hits texts := by
  unfold Scanner.hits
  induction texts generalizing number with
  | nil => rfl
  | cons text texts inductionHypothesis =>
      cases found : scanner.match? text <;> simp [recordsFrom, found, inductionHypothesis]

/-- What a record says besides the text of its line. -/
def head (record : ScanRecord) : String × Nat × String :=
  (record.path, record.number, record.signature)

/-- A carriage return at the end of the last line changes none of the records otherwise. -/
theorem records_head {content : List UInt8} (plain : scanner.Plain) :
    (records scanner path content).map head =
      (recordsFrom scanner path 1 (Output.lines content)).map head := by
  by_cases ends : content.getLast? = some Output.carriageReturn
  · obtain ⟨earlier, last, cut, scanned⟩ := Output.linesOf_of_return ends
    have same : (recordsFrom scanner path (1 + earlier.length) [last ++ "\r"]).map head =
        (recordsFrom scanner path (1 + earlier.length) [last]).map head := by
      simp only [recordsFrom, plain.match?_append_return]
      cases scanner.match? last <;> rfl
    rw [records, scanned, cut, recordsFrom_append, recordsFrom_append, List.map_append,
      List.map_append, same]
  · rw [records, Output.linesOf_eq_lines ends]

end FileScan

namespace Run

variable {σ : Type}

/-- What a run keeps of a stream is what the bytes of the stream would give. -/
theorem complete_onStream (world : World σ) (scenario : Scenario) (more : Nat)
    {initial : Transcript} (unused : initial.Unused) (outside : σ) {index : Nat}
    {process : RoleProcess}
    (place : ((Run.start world initial outside).settle world scenario
      more).session.processes[index]? = some process) (key : Stream) :
    let result := ((Run.start world initial outside).complete world scenario more).1
    let journal := (recorded world scenario more initial outside).2.journal
    let found := initial.scanner.hits (Output.lines (journal.bytes index key))
    Finding.onStream process.role key result.findings <+: found ∧
      (result.findingsDropped = 0 →
        Finding.onStream process.role key result.findings = found) := by
  intro result journal found
  obtain ⟨lines, observed⟩ := settle_observed world scenario more initial outside
  have findings : result.findings = _ := aggregate_findings world scenario _
  have dropped : result.findingsDropped = _ := aggregate_findingsDropped world scenario _
  rw [findings, dropped, observed.transcript]
  simp only [found, journal]
  rw [← observed.streams index process place key]
  exact Transcript.observeAll_onStream unused lines process.role key

end Run

namespace FileScan

/--
A scan of captured output sees the lines that a buffer makes of the same bytes,
however they arrive; only a carriage return at the very end stays with the last
line.  So, with signatures that have no carriage return, it reports the lines that
a run finds on the stream, each with the same signature, up to the limit of what
the run keeps.
-/
theorem captured_like_live (content : List UInt8) :
    (∀ chunks seq, chunks.flatten = content →
      let buffer := OutputBuffer.ofChunks chunks seq
      let texts := (buffer.1.finish buffer.2).1.texts
      (content.getLast? ≠ some Output.carriageReturn → linesOf content = texts) ∧
      (content.getLast? = some Output.carriageReturn → ∃ earlier last,
        texts = earlier ++ [last] ∧ linesOf content = earlier ++ [last ++ "\r"])) ∧
    ∀ scanner : Scanner, scanner.Plain → ∀ path,
      let reported := records scanner path content
      let live := recordsFrom scanner path 1 (Output.lines content)
      reported.map head = live.map head ∧
      (∀ record ∈ reported, (linesOf content)[record.number - 1]? = some record.line) ∧
      (∀ record ∈ live, (Output.lines content)[record.number - 1]? = some record.line) ∧
      ∀ {σ : Type} (world : World σ) (scenario : Scenario) (more : Nat) (outside : σ)
        (index : Nat) (process : RoleProcess) (key : Stream),
        let initial := Run.transcriptOf scenario
        let start := Run.start world initial outside
        scenario.scanner = scanner →
        (start.settle world scenario more).session.processes[index]? = some process →
        (Run.recorded world scenario more initial outside).2.journal.bytes index key = content →
        let result := (start.complete world scenario more).1
        let found := Finding.onStream process.role key result.findings
        let wanted := live.map fun record => (record.signature, record.line)
        found <+: wanted ∧ (result.findingsDropped = 0 → found = wanted) := by
  constructor
  · rintro chunks seq rfl buffer texts
    have held : texts = Output.lines chunks.flatten := OutputBuffer.texts_ofChunks chunks seq
    rw [held]
    exact ⟨Output.linesOf_eq_lines, Output.linesOf_of_return⟩
  · intro scanner plain path reported live
    refine ⟨records_head plain, fun record place => (getElem?_of_mem_recordsFrom place).2,
      fun record place => (getElem?_of_mem_recordsFrom place).2, ?_⟩
    intro σ world scenario more outside index process key
    have unused : (Run.transcriptOf scenario).Unused := Transcript.start_unused _ _ _
    have scanned : (Run.transcriptOf scenario).scanner = scenario.scanner := rfl
    -- of the transcript of a run only matters that nothing was found before
    generalize Run.transcriptOf scenario = initial at unused scanned
    dsimp only
    rintro rfl place rfl
    simp only [live, recordsFrom_hits, ← scanned]
    exact Run.complete_onStream world scenario more unused outside place key

/-- A cut character in a line of its own, and a line that ends with a carriage return only. -/
def cutOff : List UInt8 :=
  [0xE2, 0x82, 13, 10] ++ Utf8.encode "FAILED\r"

/-- A server on its own, in whose output the built-in signatures are looked for. -/
def server : Scenario :=
  { Stubborn.scenario with scanner := .builtIn }

theorem cutOff_scanned :
    cutOff.getLast? = some Output.carriageReturn ∧ Scanner.builtIn.Plain ∧
      (∃ earlier last, Output.lines cutOff = earlier ++ [last] ∧
        linesOf cutOff = earlier ++ [last ++ "\r"]) ∧
      (records Scanner.builtIn "log" cutOff).map head = [("log", 2, "FAILED")] ∧
      let start := Run.start (Brief.world "FAILED\r") (Run.transcriptOf server) false
      let result := (start.complete (Brief.world "FAILED\r") server 3).1
      Finding.onStream .server .stdout result.findings = [("FAILED", "FAILED")] := by
  have ends : cutOff.getLast? = some Output.carriageReturn := by decide +kernel
  have plain : Scanner.builtIn.Plain := by
    unfold Scanner.Plain
    decide +kernel
  obtain ⟨lines, live⟩ := captured_like_live cutOff
  have buffered := OutputBuffer.texts_ofChunks [cutOff] 0
  have scanned := (lines [cutOff] 0 (by simp)).2 ends
  simp only [buffered] at scanned
  refine ⟨ends, plain, by simpa using scanned, ?_, ?_⟩
  · exact (live Scanner.builtIn plain "log").1.trans (by decide +kernel)
  · have printed : (Run.recorded (Brief.world "FAILED\r") server 3 (Run.transcriptOf server)
        false).2.journal.bytes 0 .stdout = Utf8.encode "FAILED\r" := by
      decide +kernel
    have launched : (((Run.start (Brief.world "FAILED\r") (Run.transcriptOf server) false).settle
        (Brief.world "FAILED\r") server 3).session.processes[0]?.map RoleProcess.role) =
        some .server := by
      decide +kernel
    obtain ⟨process, place, role⟩ := Option.map_eq_some_iff.mp launched
    have found := ((captured_like_live (Utf8.encode "FAILED\r")).2 Scanner.builtIn plain
      "log").2.2.2 (Brief.world "FAILED\r") server 3 false 0 process .stdout
    simp only [role] at found
    exact ((found rfl place printed).2 (by decide +kernel)).trans (by decide +kernel)

end FileScan

end Rendezvous
