import Rendezvous.Console
import Rendezvous.Proofs.Handshake.Passes
import Rendezvous.Proofs.Output.Captured
import Rendezvous.Proofs.Output.Observations
import Rendezvous.Proofs.Output.Signatures

/-!
What a scan reports.

A line of a file has a place in the bytes of the file: it begins at the start or behind
a newline, and its number counts the newlines before it.  A scan has one record for each
line with a signature, in the order of the files and of their lines, up to the first
file that cannot be read.
-/

set_option autoImplicit false

namespace Rendezvous

namespace Output

/-- A line can begin behind these bytes. -/
def Begins (before : List UInt8) : Prop :=
  ∀ byte, before.getLast? = some byte → byte = OutputBuffer.newline

theorem begins_iff_rest {before : List UInt8} : Begins before ↔ rest before = [] := by
  rcases List.eq_nil_or_concat before with rfl | ⟨earlier, last, rfl⟩
  · simp [Begins, rest, pieces]
  rw [List.concat_eq_append, Begins, List.getLast?_concat]
  by_cases ends : last = OutputBuffer.newline
  · simp [ends, rest_append_newline]
  · simp [ends, rest_append_other earlier ends]

theorem rest_append_of_begins {before body : List UInt8} (begins : rest before = [])
    (plain : OutputBuffer.newline ∉ body) :
    rest (before ++ body) = body ∧ finished (before ++ body) = finished before := by
  induction body using List.reverseRecOn with
  | nil => simpa using begins
  | append_singleton body byte inductionHypothesis =>
      have inside : OutputBuffer.newline ∉ body :=
        fun membership => plain (List.mem_append_left _ membership)
      have other : byte ≠ OutputBuffer.newline := by
        rintro rfl
        exact plain (List.mem_append_right _ List.mem_cons_self)
      obtain ⟨open', kept⟩ := inductionHypothesis inside
      rw [← List.append_assoc, rest_append_other _ other, finished_append_other _ other]
      exact ⟨congrArg (· ++ [byte]) open', kept⟩

theorem finished_prefix (bytes more : List UInt8) : finished bytes <+: finished (bytes ++ more) := by
  induction more using List.reverseRecOn with
  | nil => exact ⟨[], by simp⟩
  | append_singleton more byte inductionHypothesis =>
      rw [← List.append_assoc]
      apply inductionHypothesis.trans
      by_cases ends : byte = OutputBuffer.newline
      · exact ⟨[Line.textOf (rest (bytes ++ more))], by rw [ends, finished_append_newline]⟩
      · exact ⟨[], by rw [finished_append_other _ ends, List.append_nil]⟩

/-- What follows the last newline begins as a line does. -/
theorem exists_before_rest (bytes : List UInt8) :
    ∃ before, bytes = before ++ rest bytes ∧ Begins before ∧
      before.count OutputBuffer.newline = bytes.count OutputBuffer.newline := by
  induction bytes using List.reverseRecOn with
  | nil => exact ⟨[], by simp [rest, pieces], by simp [Begins], rfl⟩
  | append_singleton bytes byte inductionHypothesis =>
      by_cases ends : byte = OutputBuffer.newline
      · subst ends
        refine ⟨bytes ++ [OutputBuffer.newline], ?_, ?_, rfl⟩
        · rw [rest_append_newline, List.append_nil]
        · simp [Begins]
      · obtain ⟨before, whole, begins, same⟩ := inductionHypothesis
        refine ⟨before, ?_, begins, ?_⟩
        · rw [rest_append_other bytes ends, ← List.append_assoc, ← whole]
        · rw [same, List.count_append, List.count_singleton, beq_eq_false_iff_ne.mpr ends]
          rfl

/-- A line of some bytes under its number, by what stands before and behind it. -/
inductive LineAt (content : List UInt8) : Nat → String → Prop where
  /-- The newline ends the line, with a carriage return in front of it if there is one. -/
  | ended {before body after : List UInt8} (begins : Begins before)
      (plain : OutputBuffer.newline ∉ body)
      (whole : content = before ++ body ++ OutputBuffer.newline :: after) :
      LineAt content (before.count OutputBuffer.newline + 1) (Line.textOf body)
  | last {before body : List UInt8} (begins : Begins before)
      (plain : OutputBuffer.newline ∉ body) (visible : body ≠ [])
      (whole : content = before ++ body) :
      LineAt content (before.count OutputBuffer.newline + 1) (Utf8.decodeLossy body)

theorem finished_of_begins {before body : List UInt8} (begins : Begins before)
    (plain : OutputBuffer.newline ∉ body) (after : List UInt8) :
    (finished (before ++ body ++ OutputBuffer.newline :: after))[
      before.count OutputBuffer.newline]? = some (Line.textOf body) := by
  obtain ⟨left, kept⟩ := rest_append_of_begins (begins_iff_rest.mp begins) plain
  have first : finished (before ++ body ++ [OutputBuffer.newline]) =
      finished before ++ [Line.textOf body] := by
    rw [finished_append_newline, left, kept]
  obtain ⟨later, whole⟩ := finished_prefix (before ++ body ++ [OutputBuffer.newline]) after
  rw [List.append_cons, ← whole, first, ← length_finished, List.append_assoc,
    List.getElem?_append_right (Nat.le_refl _), Nat.sub_self]
  rfl

theorem exists_of_finished {content : List UInt8} {index : Nat} {line : String}
    (found : (finished content)[index]? = some line) :
    ∃ before body after, Begins before ∧ OutputBuffer.newline ∉ body ∧
      content = before ++ body ++ OutputBuffer.newline :: after ∧
      before.count OutputBuffer.newline = index ∧ Line.textOf body = line := by
  induction content using List.reverseRecOn with
  | nil => simp [finished, pieces] at found
  | append_singleton content byte inductionHypothesis =>
      have earlier : (finished content)[index]? = some line → ∃ before body after,
          Begins before ∧ OutputBuffer.newline ∉ body ∧
          content ++ [byte] = before ++ body ++ OutputBuffer.newline :: after ∧
          before.count OutputBuffer.newline = index ∧ Line.textOf body = line := by
        intro found
        obtain ⟨before, body, after, begins, plain, rfl, same⟩ := inductionHypothesis found
        exact ⟨before, body, after ++ [byte], begins, plain, by simp, same⟩
      by_cases ends : byte = OutputBuffer.newline
      · rw [ends, finished_append_newline] at found
        by_cases old : index < (finished content).length
        · rw [List.getElem?_append_left old] at found
          exact earlier found
        · obtain ⟨before, whole, begins, same⟩ := exists_before_rest content
          rw [List.getElem?_append_right (Nat.le_of_not_lt old)] at found
          obtain ⟨last, text⟩ : index - (finished content).length = 0 ∧
              Line.textOf (rest content) = line := by
            simpa [List.getElem?_singleton] using found
          refine ⟨before, rest content, [], begins, newline_not_mem_rest content, ?_, ?_, text⟩
          · rw [← whole, ends]
          · rw [same, ← length_finished]
            omega
      · rw [finished_append_other _ ends] at found
        exact earlier found

/-- The lines that a scan sees are the lines of the bytes, each under its number. -/
theorem lineAt_iff {content : List UInt8} {number : Nat} {line : String} :
    LineAt content number line ↔
      1 ≤ number ∧ (FileScan.linesOf content)[number - 1]? = some line := by
  rw [linesOf_eq]
  constructor
  · intro lineAt
    refine ⟨by cases lineAt <;> exact Nat.succ_pos _, ?_⟩
    cases lineAt with
    | @ended before body after begins plain whole =>
        have found := finished_of_begins begins plain after
        obtain ⟨inside, -⟩ := List.getElem?_eq_some_iff.mp found
        rw [whole, Nat.add_sub_cancel, List.getElem?_append_left inside, found]
    | @last before body begins plain visible whole =>
        obtain ⟨left, kept⟩ := rest_append_of_begins (begins_iff_rest.mp begins) plain
        rw [whole, left, kept, Nat.add_sub_cancel, ← length_finished, if_neg visible,
          List.getElem?_concat_length]
  · rintro ⟨positive, found⟩
    by_cases old : number - 1 < (finished content).length
    · rw [List.getElem?_append_left old] at found
      obtain ⟨before, body, after, begins, plain, whole, same, rfl⟩ := exists_of_finished found
      rw [← Nat.sub_add_cancel positive, ← same]
      exact .ended begins plain whole
    · rw [List.getElem?_append_right (Nat.le_of_not_lt old)] at found
      obtain ⟨visible, last, rfl⟩ : rest content ≠ [] ∧
          number - 1 - (finished content).length = 0 ∧ Utf8.decodeLossy (rest content) = line := by
        split at found
        · simp at found
        · next visible => exact ⟨visible, by simpa [List.getElem?_singleton] using found⟩
      obtain ⟨before, whole, begins, same⟩ := exists_before_rest content
      have place : number = before.count OutputBuffer.newline + 1 := by
        rw [same, ← length_finished]
        omega
      rw [place]
      exact .last begins (newline_not_mem_rest content) visible whole

end Output

namespace FileScan

variable {scanner : Scanner} {path : String}

/-- The records of some lines, by the lines under their numbers. -/
theorem recordsFrom_eq (number : Nat) (texts : List String) :
    recordsFrom scanner path number texts = (texts.zipIdx number).filterMap fun line =>
      (scanner.match? line.1).map fun signature => ⟨path, line.2, signature, line.1⟩ := by
  induction texts generalizing number with
  | nil => rfl
  | cons text texts inductionHypothesis =>
      rw [recordsFrom, inductionHypothesis, List.zipIdx_cons, List.filterMap_cons]
      cases scanner.match? text <;> rfl

theorem mem_recordsFrom_iff {number : Nat} {texts : List String} {record : ScanRecord} :
    record ∈ recordsFrom scanner path number texts ↔
      record.path = path ∧ (number ≤ record.number ∧
        texts[record.number - number]? = some record.line) ∧
        scanner.match? record.line = some record.signature := by
  rw [recordsFrom_eq, List.mem_filterMap]
  constructor
  · rintro ⟨⟨line, place⟩, membership, same⟩
    obtain ⟨signature, found, rfl⟩ := Option.map_eq_some_iff.mp same
    exact ⟨rfl, List.mk_mem_zipIdx_iff_le_and_getElem?_sub.mp membership, found⟩
  · rintro ⟨rfl, place, found⟩
    refine ⟨(record.line, record.number),
      List.mk_mem_zipIdx_iff_le_and_getElem?_sub.mpr place, ?_⟩
    rw [found]
    rfl

/-- A record has the number of its line, counted from that of the first one. -/
theorem getElem?_of_mem_recordsFrom {number : Nat} {texts : List String} {record : ScanRecord}
    (reported : record ∈ recordsFrom scanner path number texts) :
    number ≤ record.number ∧ texts[record.number - number]? = some record.line :=
  (mem_recordsFrom_iff.mp reported).2.1

theorem recordsFrom_pairwise (number : Nat) (texts : List String) :
    (recordsFrom scanner path number texts).Pairwise fun first second =>
      first.number < second.number := by
  induction texts generalizing number with
  | nil => exact .nil
  | cons text texts inductionHypothesis =>
      have later := inductionHypothesis (number + 1)
      rw [recordsFrom]
      cases scanner.match? text with
      | none => exact later
      | some signature =>
          refine .cons (fun record membership => ?_) later
          exact (getElem?_of_mem_recordsFrom membership).1

/-- The records of a file: one for each line with a pattern, in the order of the lines. -/
structure Reports (patterns : List String) (path : String) (content : List UInt8)
    (records : List ScanRecord) : Prop where
  inOrder : records.Pairwise fun first second => first.number < second.number
  mem_iff : ∀ record, record ∈ records ↔ record.path = path ∧
    Output.LineAt content record.number record.line ∧
    Scanner.Foremost patterns record.line record.signature
  lines : ∀ number, (∃ record ∈ records, record.number = number) ↔
    ∃ line, Output.LineAt content number line ∧
      ∃ pattern ∈ patterns, pattern ≠ "" ∧ pattern.toList <:+: line.toList

theorem records_reports (settings : ScanSettings) (extra : List String) (path : String)
    (content : List UInt8) :
    Reports (Scanner.patterns settings extra) path content
      (records (Scanner.configured settings extra) path content) := by
  have mem_iff : ∀ record, record ∈ records (Scanner.configured settings extra) path content ↔
      record.path = path ∧ Output.LineAt content record.number record.line ∧
        Scanner.Foremost (Scanner.patterns settings extra) record.line record.signature := by
    intro record
    rw [records, mem_recordsFrom_iff, Output.lineAt_iff, Scanner.match?_configured_iff]
  refine ⟨recordsFrom_pairwise 1 _, mem_iff, fun number => ⟨?_, ?_⟩⟩
  · rintro ⟨record, membership, rfl⟩
    obtain ⟨-, lineAt, before, after, split, here, -⟩ := (mem_iff record).mp membership
    refine ⟨record.line, lineAt, record.signature, ?_, here⟩
    rw [split]
    exact List.mem_append_right before List.mem_cons_self
  · rintro ⟨line, lineAt, pattern, given, here⟩
    obtain ⟨signature, foremost⟩ := Scanner.exists_foremost given here
    exact ⟨⟨path, number, signature, line⟩, (mem_iff _).mpr ⟨rfl, lineAt, foremost⟩, rfl⟩

theorem scan_files (scanner : Scanner) (read : String → Except SystemError (List UInt8))
    (paths : List String) :
    ∃ files : List (String × List UInt8), (∀ file ∈ files, read file.1 = .ok file.2) ∧
      (scan scanner read paths).1 = files.flatMap (fun file => records scanner file.1 file.2) ∧
      ((paths = files.map Prod.fst ∧ (scan scanner read paths).2 = none) ∨
        ∃ path later cause, paths = files.map Prod.fst ++ path :: later ∧
          read path = .error cause ∧
          (scan scanner read paths).2 = some (.fileRead path cause.message)) := by
  induction paths with
  | nil => exact ⟨[], by simp, rfl, Or.inl ⟨rfl, rfl⟩⟩
  | cons path paths inductionHypothesis =>
      rw [scan]
      cases found : read path with
      | error cause =>
          -- this file ends the scan, and those behind it are not read
          exact ⟨[], by simp, rfl, Or.inr ⟨path, paths, cause, rfl, found, rfl⟩⟩
      | ok content =>
          obtain ⟨files, readable, reported, ending⟩ := inductionHypothesis
          refine ⟨(path, content) :: files, ?_, ?_, ?_⟩
          · exact List.forall_mem_cons.mpr ⟨found, readable⟩
          · rw [List.flatMap_cons, ← reported]
          · rcases ending with ⟨rfl, complete⟩ | ⟨unread, later, cause, rfl, failed, told⟩
            · exact Or.inl ⟨rfl, complete⟩
            · exact Or.inr ⟨unread, later, cause, rfl, failed, told⟩

end FileScan

namespace Console

variable {σ : Type}

/--
A scan prints the records of its files, one for each line with a signature.  The first
file that cannot be read ends it, after the records of the files before that one.
-/
theorem scan_reports_lines (place : Place σ) (options : ScanOptions) {settings : Settings}
    (loaded : loadSettings place.surroundings options.settings = .ok settings) :
    let read := place.surroundings.files.readBytes
    let patterns := Scanner.patterns settings.scan options.patterns
    let outcome := scan place options
    ∃ files : List (String × List UInt8), ∃ recordsOf : String × List UInt8 → List ScanRecord,
      (∀ file ∈ files, read file.1 = .ok file.2 ∧
        FileScan.Reports patterns file.1 file.2 (recordsOf file)) ∧
      outcome.stdout =
        String.join ((files.flatMap recordsOf).map fun record => record.display ++ "\n") ∧
      ((options.files = files.map Prod.fst ∧
          outcome.code = .ok (if files.flatMap recordsOf = [] then 0 else 1)) ∨
        ∃ path later cause, options.files = files.map Prod.fst ++ path :: later ∧
          read path = .error cause ∧ outcome.code = .error (.fileRead path cause.message)) := by
  intro read patterns outcome
  let scanner := Scanner.configured settings.scan options.patterns
  obtain ⟨files, readable, reported, ending⟩ := FileScan.scan_files scanner read options.files
  refine ⟨files, fun file => FileScan.records scanner file.1 file.2, ?_, ?_, ?_⟩
  · intro file membership
    exact ⟨readable file membership, FileScan.records_reports _ _ _ _⟩
  · rw [← reported]
    simp only [outcome, scan, loaded]
    split <;> rfl
  · rw [← reported]
    simp only [outcome, scan, loaded]
    rcases ending with ⟨whole, complete⟩ | ⟨path, later, cause, whole, failed, told⟩
    · exact Or.inl ⟨whole, by rw [complete]⟩
    · exact Or.inr ⟨path, later, cause, whole, failed, by rw [told]⟩

/-- A place with two files: a broken character before a match, and a match without a newline. -/
def shelf : Place Bool where
  world := Brief.world ""
  outside := false
  surroundings := ⟨⟨[
    (["broken"], .file ([0xE2, 0x82, 13, 10] ++ Utf8.encode "all FAILED\r\n") false),
    (["oops"], .file (Utf8.encode "\noops: ERROR: FAILED") false)], []⟩, []⟩
  passes := 0
  colored := false

def wanted : ScanOptions where
  files := ["/broken", "/oops", "/broken", "/missing", "/oops"]
  patterns := ["oops"]

theorem shelf_scanned :
    loadSettings shelf.surroundings wanted.settings = .ok {} ∧
      (∃ files : List (String × List UInt8), ∃ recordsOf : String × List UInt8 → List ScanRecord,
        (∀ file ∈ files, FileScan.Reports (Scanner.patterns {} ["oops"]) file.1 file.2
          (recordsOf file)) ∧
        String.join ((files.flatMap recordsOf).map fun record => record.display ++ "\n") =
          "/broken:2: [FAILED] all FAILED\n/oops:2: [FAILED] oops: ERROR: FAILED\n" ++
            "/broken:2: [FAILED] all FAILED\n") ∧
      (scan shelf wanted).code = .error (.fileRead "/missing" SystemError.noEntry.message) := by
  have loaded : loadSettings shelf.surroundings wanted.settings = .ok {} := by decide +kernel
  obtain ⟨files, recordsOf, correct, stdout, -⟩ := scan_reports_lines shelf wanted loaded
  refine ⟨loaded, ⟨files, recordsOf, fun file membership => (correct file membership).2, ?_⟩, ?_⟩
  · rw [← stdout]
    decide +kernel
  · decide +kernel

end Console

end Rendezvous
