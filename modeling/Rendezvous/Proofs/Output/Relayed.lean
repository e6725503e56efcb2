import Rendezvous.Proofs.Output.Captured
import Rendezvous.Proofs.Output.Kept

/-!
Reading relayed output back.

A buffer gives lines without a newline, and every tag ends at its first bracket,
so the output of a transcript can be cut into the lines that were relayed, each
with its role, its stream and its text.
-/

set_option autoImplicit false

namespace Rendezvous

namespace OutputBuffer

/-- The buffers that a stream can have. -/
inductive Used : OutputBuffer → Prop where
  | fresh : Used {}
  | push {buffer : OutputBuffer} (used : Used buffer) (bytes : List UInt8) (seq : Nat) :
      Used (buffer.push bytes seq).1
  | finish {buffer : OutputBuffer} (used : Used buffer) (seq : Nat) : Used (buffer.finish seq).1
  | popLine {buffer : OutputBuffer} (used : Used buffer) : Used buffer.popLine.2
  | popLines {buffer : OutputBuffer} (used : Used buffer) : Used buffer.popLines.2

/-- A text that can be taken from a buffer. -/
def Gives (text : String) : Prop :=
  ∃ buffer, Used buffer ∧ text ∈ buffer.texts

/-- Newlines are neither kept in what is unfinished nor in the texts of the lines. -/
structure Cut (buffer : OutputBuffer) : Prop where
  unfinished : newline ∉ buffer.unfinished.toList
  texts : ∀ text ∈ buffer.texts, '\n' ∉ text.toList

theorem newline_not_mem_textOf {bytes : List UInt8} (absent : newline ∉ bytes) :
    '\n' ∉ (Line.textOf bytes).toList := by
  intro membership
  rw [Output.textOf_eq, String.toList_ofList] at membership
  have read : '\n' ∈ Utf8.charsOf bytes := by
    unfold Text.dropReturn at membership
    split at membership
    · exact (List.dropLast_sublist _).subset membership
    · exact membership
  exact of_decide_eq_false (Output.newline_unmarked absent '\n' read) rfl

theorem Cut.complete {buffer : OutputBuffer} (cut : buffer.Cut) (seq : Nat) :
    (buffer.complete seq).Cut where
  unfinished := by simp [OutputBuffer.complete]
  texts text membership := by
    have place : text ∈ buffer.texts ++ [Line.textOf buffer.unfinished.toList] := by
      simpa [OutputBuffer.complete, OutputBuffer.texts] using membership
    rcases List.mem_append.mp place with earlier | last
    · exact cut.texts text earlier
    · rw [List.mem_singleton.mp last]
      exact newline_not_mem_textOf cut.unfinished

theorem Cut.step {state : Numbered} (cut : state.1.Cut) (byte : UInt8) :
    (step state byte).1.Cut := by
  obtain ⟨buffer, seq⟩ := state
  by_cases ends : byte = newline
  · rw [OutputBuffer.step, if_pos ends]
    have counted : Cut { buffer with total := buffer.total + 1 } := ⟨cut.unfinished, cut.texts⟩
    exact counted.complete seq
  · rw [OutputBuffer.step, if_neg ends]
    refine ⟨?_, cut.texts⟩
    rw [Array.toList_push, List.mem_append, List.mem_singleton, not_or]
    exact ⟨cut.unfinished, Ne.symm ends⟩

theorem Cut.push {buffer : OutputBuffer} (cut : buffer.Cut) (bytes : List UInt8) (seq : Nat) :
    (buffer.push bytes seq).1.Cut :=
  List.foldlRecOn bytes OutputBuffer.step (motive := fun state => state.1.Cut) cut
    fun _ before byte _ => before.step byte

theorem Used.cut {buffer : OutputBuffer} (used : Used buffer) : buffer.Cut := by
  induction used with
  | fresh => exact ⟨by simp, by simp [OutputBuffer.texts]⟩
  | push _ bytes seq cut => exact cut.push bytes seq
  | finish _ seq cut =>
      unfold OutputBuffer.finish
      split
      · exact cut
      · exact cut.complete seq
  | popLine _ cut =>
      refine ⟨cut.unfinished, fun text membership => cut.texts text ?_⟩
      obtain ⟨line, place, rfl⟩ := List.mem_map.mp membership
      refine List.mem_map_of_mem ?_
      simp only [OutputBuffer.popLine, Array.toList_extract, List.extract_eq_take_drop] at place
      exact List.mem_of_mem_drop (List.mem_of_mem_take place)
  | popLines _ cut => exact ⟨cut.unfinished, by simp [OutputBuffer.popLines, OutputBuffer.texts]⟩

theorem Gives.newline_not_mem {text : String} (gives : Gives text) : '\n' ∉ text.toList := by
  obtain ⟨buffer, used, place⟩ := gives
  exact used.cut.texts text place

end OutputBuffer

namespace Transcript

/-- The tags with the roles and the streams that they stand for. -/
def tags : List (String × Role × Stream) :=
  Role.all.flatMap fun role => Stream.all.map fun stream => (tag role stream, role, stream)

/-- Strip the tag of one piece of relayed output. -/
def untag? : List Char → Option Statement
  | '[' :: rest => do
      let (name, body) ← Text.cutAt? ']' rest
      let (role, stream) ← tags.lookup (String.ofList name)
      match body with
      | ' ' :: text => some ⟨role, stream, String.ofList text⟩
      | _ => none
  | _ => none

/-- Cut relayed output at each newline and strip the tag of each piece. -/
def readBack (written : String) : Option (List Statement) :=
  (Text.splitBy (· = '\n') written.toList).dropLast.mapM untag?

/-- A relayed line without the newline at its end. -/
def piece (statement : Statement) : String :=
  "[" ++ tag statement.role statement.stream ++ "] " ++ statement.text

theorem bracket_not_mem_tag (role : Role) (stream : Stream) : ']' ∉ (tag role stream).toList := by
  cases role <;> cases stream <;> decide

theorem newline_not_mem_tag (role : Role) (stream : Stream) :
    '\n' ∉ (tag role stream).toList := by
  cases role <;> cases stream <;> decide

/-- No two tags are the same. -/
theorem lookup_tag (role : Role) (stream : Stream) :
    tags.lookup (tag role stream) = some (role, stream) := by
  cases role <;> cases stream <;> decide

theorem untag?_piece (statement : Statement) :
    untag? (piece statement).toList = some statement := by
  obtain ⟨role, stream, text⟩ := statement
  have cut := Text.cutAt?_append_cons (bracket_not_mem_tag role stream) (' ' :: text.toList)
  have chars : (piece ⟨role, stream, text⟩).toList =
      '[' :: ((tag role stream).toList ++ ']' :: ' ' :: text.toList) := by
    simp [piece]
  rw [chars, untag?, cut]
  simp [lookup_tag]

theorem newline_not_mem_piece {statement : Statement} (plain : '\n' ∉ statement.text.toList) :
    '\n' ∉ (piece statement).toList := by
  have tagged := newline_not_mem_tag statement.role statement.stream
  simp [piece, plain, tagged]

variable {transcript : Transcript}

theorem observe_written (loud : transcript.quiet = false) (works : transcript.writable = true)
    (line : Line) :
    (transcript.observe line true).1.written = transcript.written ++ render line := by
  cases found : transcript.scanner.match? line.text <;>
    simp [observe, found, relay, record, loud, works]

theorem observe_writable (transcript : Transcript) (line : Line) (relaying : Bool) :
    (transcript.observe line relaying).1.writable = transcript.writable := by
  cases relaying <;> cases found : transcript.scanner.match? line.text <;>
    simp [observe, found, relay, record]

/-- Every line that is relayed is written behind the others. -/
theorem observeAll_written (loud : transcript.quiet = false) (works : transcript.writable = true)
    (lines : List Line) : (transcript.observeAll lines).written =
      transcript.written ++ String.join (lines.map render) := by
  induction lines generalizing transcript with
  | nil => simp [observeAll]
  | cons line lines inductionHypothesis =>
      have later := inductionHypothesis
        ((observe_setup transcript line true).quiet.trans loud)
        ((observe_writable transcript line true).trans works)
      refine later.trans ?_
      rw [observe_written loud works, List.map_cons, String.join_cons, String.append_assoc]

/-- Output that was relayed, and nothing else, is read back without loss. -/
theorem readBack_join_render {lines : List Line}
    (plain : ∀ line ∈ lines, '\n' ∉ line.text.toList) :
    readBack (String.join (lines.map render)) = some (lines.map statementOf) := by
  let pieces := lines.map fun line => piece (statementOf line)
  have written : String.join (lines.map render) = String.join (pieces.map (· ++ "\n")) := by
    rw [List.map_map]
    rfl
  have unmarked : ∀ text ∈ pieces, '\n' ∉ text.toList :=
    List.forall_mem_map.mpr fun line place => newline_not_mem_piece (plain line place)
  rw [readBack, written, Text.splitBy_join_lines unmarked, List.dropLast_concat, List.mapM_map,
    List.mapM_map]
  simp only [Function.comp_def, untag?_piece]
  exact List.mapM_pure

/--
What a transcript relays is never ambiguous.  The texts that buffers give have no
newline.  So whatever else stands in them, a tag included, the output of a loud
transcript can be read back: it is cut at the newlines, the tags are stripped, and
there are the lines that were observed, in order.  Different lines are never
written as the same text.
-/
theorem readBack_observeAll (transcript : Transcript) (loud : transcript.quiet = false)
    (works : transcript.writable = true) :
    (∀ text, OutputBuffer.Gives text → '\n' ∉ text.toList) ∧
    (∀ lines : List Line, (∀ line ∈ lines, OutputBuffer.Gives line.text) →
      ∃ relayed, (transcript.observeAll lines).written = transcript.written ++ relayed ∧
        readBack relayed = some (lines.map statementOf)) ∧
    ∀ first second : List Line, (∀ line ∈ first ++ second, OutputBuffer.Gives line.text) →
      (transcript.observeAll first).written = (transcript.observeAll second).written →
      first.map statementOf = second.map statementOf := by
  have readable : ∀ lines : List Line, (∀ line ∈ lines, OutputBuffer.Gives line.text) →
      readBack (String.join (lines.map render)) = some (lines.map statementOf) :=
    fun lines given => readBack_join_render fun line place => (given line place).newline_not_mem
  refine ⟨fun _ => OutputBuffer.Gives.newline_not_mem, fun lines given => ?_,
    fun first second given same => ?_⟩
  · exact ⟨_, observeAll_written loud works lines, readable lines given⟩
  · rw [observeAll_written loud works, observeAll_written loud works] at same
    have relayed : String.join (first.map render) = String.join (second.map render) :=
      (String.append_right_inj _).mp same
    have one := readable first fun line place => given line (List.mem_append_left second place)
    have two := readable second fun line place => given line (List.mem_append_right first place)
    rw [relayed, two] at one
    exact (Option.some.inj one).symm

/-- A server that prints what looks like a tag, and a line without any text. -/
def pretender : List Line :=
  [⟨0, .server, .stderr, "[client-helper] READY"⟩, ⟨1, .server, .stderr, ""⟩]

theorem pretender_readBack :
    let transcript := start .builtIn false 0
    transcript.quiet = false ∧ transcript.writable = true ∧
      (∀ line ∈ pretender, OutputBuffer.Gives line.text) ∧
      ∃ relayed, (transcript.observeAll pretender).written = transcript.written ++ relayed ∧
        readBack relayed = some (pretender.map statementOf) := by
  intro transcript
  let buffer := (({} : OutputBuffer).push (Utf8.encode "[client-helper] READY\r\n\n") 0).1
  have used : OutputBuffer.Used buffer := .push .fresh _ 0
  have texts : buffer.texts = pretender.map Line.text := by decide +kernel
  have given : ∀ line ∈ pretender, OutputBuffer.Gives line.text := fun line place =>
    ⟨buffer, used, texts ▸ List.mem_map_of_mem place⟩
  exact ⟨rfl, rfl, given, (readBack_observeAll transcript rfl rfl).2.1 pretender given⟩

end Transcript

end Rendezvous
