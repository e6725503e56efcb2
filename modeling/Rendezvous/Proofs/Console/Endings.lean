import Rendezvous.Proofs.Console.Resolution
import Rendezvous.Proofs.Files.Writing
import Rendezvous.Proofs.Handshake.Passes
import Rendezvous.Proofs.Run.Verdict

/-!
How the program ends.

A command that was read ends the program with status zero or one, and with zero
exactly when it succeeds.  What success is depends on the command; an error of any
kind is none.  A run ends with the verdict unless its report cannot be written, and a
run without a scenario leaves everything as it was.
-/

set_option autoImplicit false

namespace Rendezvous

theorem RunResult.exitCode_le_one (result : RunResult) : result.exitCode ≤ 1 := by
  unfold exitCode
  split <;> decide

namespace FileScan

variable {scanner : Scanner} {path : String}

theorem recordsFrom_eq_nil_iff {number : Nat} {texts : List String} :
    recordsFrom scanner path number texts = [] ↔ ∀ line ∈ texts, scanner.match? line = none := by
  induction texts generalizing number with
  | nil => simp [recordsFrom]
  | cons text texts inductionHypothesis =>
      cases found : scanner.match? text <;> simp [recordsFrom, found, inductionHypothesis]

/-- No line contains a signature. -/
def Clean (scanner : Scanner) (content : List UInt8) : Prop :=
  ∀ line ∈ linesOf content, ∀ signature ∈ scanner.signatures, Text.contains line signature = false

theorem records_eq_nil_iff {content : List UInt8} :
    records scanner path content = [] ↔ Clean scanner content := by
  rw [records, recordsFrom_eq_nil_iff]
  simp only [Clean, Scanner.match?_eq_none_iff]

/-- A scan reports nothing when it could read every file and each of them is clean. -/
theorem scan_eq_clean_iff {read : String → Except SystemError (List UInt8)}
    {paths : List String} :
    scan scanner read paths = ([], none) ↔
      ∀ path ∈ paths, ∃ content, read path = .ok content ∧ Clean scanner content := by
  induction paths with
  | nil => simp [scan]
  | cons path paths inductionHypothesis =>
      rw [List.forall_mem_cons, ← inductionHypothesis, scan]
      cases found : read path with
      | error cause => simp
      | ok content =>
          simp only [Prod.mk.injEq, List.append_eq_nil_iff, records_eq_nil_iff, and_assoc,
            Except.ok.injEq, exists_eq_left']
          rw [Prod.ext_iff]

end FileScan

namespace Console

variable {σ : Type}

/-- How the program ends after an outcome. -/
def statusOf : Except Error Nat → ExitStatus
  | .ok code => .code code
  | .error _ => .code 1

theorem statusOf_eq_zero_iff {code : Except Error Nat} :
    statusOf code = .code 0 ↔ code = .ok 0 := by
  cases code <;> simp [statusOf]

theorem statusOf_zero_or_one {outcome : Except Error Nat}
    (small : ∀ code, outcome = .ok code → code ≤ 1) :
    statusOf outcome = .code 0 ∨ statusOf outcome = .code 1 := by
  cases outcome with
  | error cause => exact Or.inr rfl
  | ok code =>
      rcases Nat.le_one_iff_eq_zero_or_eq_one.mp (small code rfl) with rfl | rfl
      · exact Or.inl rfl
      · exact Or.inr rfl

namespace Place

/-- The place in which a command is carried out: the log file was made if one is wanted. -/
def prepared (place : Place σ) (shared : SharedOptions) : Place σ :=
  let files := match shared.logFile with
    | some wanted => (LogFile.prepare place.surroundings wanted).1
    | none => place.surroundings.files
  { place with surroundings := { place.surroundings with files } }

/-- The result of the run of a scenario. -/
def result (place : Place σ) (scenario : Scenario) : RunResult :=
  ((Run.start place.world (Run.transcriptOf scenario) place.outside).complete place.world scenario
    place.passes).1

/-- The scenario that options describe. -/
def Describes (place : Place σ) (options : RunOptions) (scenario : Scenario) : Prop :=
  ∃ settings, loadSettings place.surroundings options.settings = .ok settings ∧
    Scenario.resolve place.surroundings.locate options settings = .ok scenario

/-- What a command has to bring about. -/
def Succeeds (place : Place σ) : Command → Prop
  | .run options => ∃ scenario, place.Describes options scenario ∧
      (place.result scenario).passed = true ∧
        ∀ path, options.report = some path → ∃ files,
          Report.write path (place.result scenario) place.surroundings.files = .ok files
  | .plan options => ∃ scenario, place.Describes options scenario
  | .scan options => ∃ settings,
      loadSettings place.surroundings options.settings = .ok settings ∧
        ∀ path ∈ options.files, ∃ content, place.surroundings.files.readBytes path = .ok content ∧
          FileScan.Clean (Scanner.configured settings.scan options.patterns) content

end Place

theorem endOfCommand_eq (place : Place σ) (shared : SharedOptions) (command : Command) :
    let outcome := perform (place.prepared shared) command
    (endOfCommand place shared command).status = statusOf outcome.code ∧
      (endOfCommand place shared command).files = outcome.files := by
  unfold endOfCommand Place.prepared
  cases shared.logFile with
  | none =>
      dsimp only
      cases (perform place command).code <;> exact ⟨rfl, rfl⟩
  | some wanted =>
      dsimp only
      generalize perform _ command = outcome
      cases outcome.code <;> exact ⟨rfl, rfl⟩

section

variable {place : Place σ} {options : RunOptions} {scenario : Scenario}

/-- What a run of a scenario leaves behind depends on whether its report can be written. -/
theorem run_of_described (described : place.Describes options scenario) :
    ((run place options).code, (run place options).files) =
      match saveReport options.report (place.result scenario) place.surroundings.files with
      | .ok files => (.ok (place.result scenario).exitCode, files)
      | .error cause => (.error cause, place.surroundings.files) := by
  have loaded := loadScenario_eq_ok_iff.mpr described
  unfold run runIn
  simp only [loaded]
  cases saved : saveReport options.report (place.result scenario) place.surroundings.files <;>
    simp only [Place.result] at saved ⊢ <;> rw [saved]

theorem run_of_refused {cause : Error}
    (refused : loadScenario place.surroundings options = .error cause) :
    (run place options).code = .error cause ∧
      (run place options).files = place.surroundings.files := by
  rw [run, runIn_of_refused place refused]
  exact ⟨rfl, rfl⟩

theorem exists_saveReport_iff {path : Option String} {result : RunResult} {files : FileTree} :
    (∃ after, saveReport path result files = .ok after) ↔
      ∀ wanted, path = some wanted → ∃ after, Report.write wanted result files = .ok after := by
  cases path <;> simp [saveReport]

theorem run_code_eq_ok_iff {code : Nat} :
    (run place options).code = .ok code ↔ ∃ scenario, place.Describes options scenario ∧
      (∃ files, saveReport options.report (place.result scenario) place.surroundings.files =
        .ok files) ∧ code = (place.result scenario).exitCode := by
  constructor
  · intro ended
    cases loaded : loadScenario place.surroundings options with
    | error cause =>
        rw [(run_of_refused loaded).1] at ended
        cases ended
    | ok scenario =>
        have described : place.Describes options scenario := loadScenario_eq_ok_iff.mp loaded
        have left := congrArg Prod.fst (run_of_described described)
        cases saved : saveReport options.report (place.result scenario)
            place.surroundings.files with
        | error cause =>
            rw [saved, ended] at left
            cases left
        | ok files =>
            rw [saved, ended] at left
            exact ⟨scenario, described, ⟨files, saved⟩, Except.ok.inj left⟩
  · rintro ⟨scenario, described, ⟨files, saved⟩, same⟩
    have left := congrArg Prod.fst (run_of_described described)
    rwa [saved, ← same] at left

theorem scan_code_eq_ok_iff {options : ScanOptions} {code : Nat} :
    (scan place options).code = .ok code ↔ ∃ settings records,
      loadSettings place.surroundings options.settings = .ok settings ∧
        FileScan.scan (Scanner.configured settings.scan options.patterns)
          place.surroundings.files.readBytes options.files = (records, none) ∧
        code = if records = [] then 0 else 1 := by
  unfold scan
  constructor
  · intro ended
    cases loaded : loadSettings place.surroundings options.settings with
    | error cause => simp [loaded] at ended
    | ok settings =>
        rcases scanned : FileScan.scan (Scanner.configured settings.scan options.patterns)
          place.surroundings.files.readBytes options.files with ⟨records, _ | cause⟩ <;>
          simp only [loaded, scanned] at ended <;> cases ended
        exact ⟨settings, records, rfl, scanned, rfl⟩
  · rintro ⟨settings, records, loaded, scanned, rfl⟩
    simp only [loaded, scanned]

theorem perform_code_le_one {command : Command} {code : Nat}
    (ended : (perform place command).code = .ok code) : code ≤ 1 := by
  cases command with
  | run options =>
      obtain ⟨scenario, -, -, same⟩ := run_code_eq_ok_iff.mp ended
      rw [same]
      exact RunResult.exitCode_le_one _
  | plan options =>
      obtain ⟨rfl, -⟩ := plan_code_eq_ok_iff.mp ended
      exact Nat.zero_le 1
  | scan options =>
      obtain ⟨settings, records, -, -, rfl⟩ := scan_code_eq_ok_iff.mp ended
      split <;> decide

theorem perform_code_eq_zero_iff {command : Command} :
    (perform place command).code = .ok 0 ↔ place.Succeeds command := by
  cases command with
  | run options =>
      refine run_code_eq_ok_iff.trans (exists_congr fun scenario => and_congr_right fun _ => ?_)
      rw [exists_saveReport_iff, eq_comm, RunResult.exitCode_eq_zero_iff, and_comm]
  | plan options =>
      refine plan_code_eq_ok_iff.trans ((and_iff_right rfl).trans ?_)
      exact exists_congr fun scenario => loadScenario_eq_ok_iff
  | scan options =>
      refine scan_code_eq_ok_iff.trans (exists_congr fun settings => ?_)
      rw [← FileScan.scan_eq_clean_iff]
      constructor
      · rintro ⟨records, loaded, scanned, same⟩
        have none : records = [] := by
          by_contra some
          rw [if_neg some] at same
          cases same
        exact ⟨loaded, none ▸ scanned⟩
      · rintro ⟨loaded, scanned⟩
        exact ⟨[], loaded, scanned, rfl⟩

end

/--
A command that was read ends the program with status zero or one, and with zero
exactly when it succeeds: a run when its scenario passed and the report could be
written, if one was asked for; a plan when there is a scenario; a scan when every file
could be read and none of their lines contains a signature.  A run without a scenario
leaves the world and the files as they were.  A run of a scenario writes its report
whether it passed or not; if that cannot be done, it leaves the files as they were.
-/
theorem program_ends (place : Place σ) {words : List String} {shared : SharedOptions}
    {command : Command} (accepted : Usage.readProgram words = .ok (shared, command)) :
    let here := place.prepared shared
    let ending := program place words
    (ending.status = .code 0 ∨ ending.status = .code 1) ∧
    (ending.status = .code 0 ↔ here.Succeeds command) ∧
    ∀ options, command = .run options →
      (∀ cause, loadScenario here.surroundings options = .error cause →
        ending.status = .code 1 ∧ ending.files = here.surroundings.files ∧
          (runIn here.recorded options).2 = (here.outside, [])) ∧
      ∀ scenario path, here.Describes options scenario → options.report = some path →
        let result := here.result scenario
        (∃ files, Report.write path result here.surroundings.files = .ok files ∧
          ending.files = files ∧ ending.status = .code result.exitCode ∧
            files.readBytes path = .ok (Utf8.encode (Report.text result))) ∨
        ∃ cause, Report.write path result here.surroundings.files = .error cause ∧
          ending.files = here.surroundings.files ∧ ending.status = .code 1 := by
  intro here ending
  have ended : ending = endOfCommand place shared command := by
    simp only [ending, program, accepted]
  obtain ⟨status, files⟩ := endOfCommand_eq place shared command
  rw [← ended] at status files
  refine ⟨?_, ?_, ?_⟩
  · rw [status]
    exact statusOf_zero_or_one fun code => perform_code_le_one
  · rw [status, statusOf_eq_zero_iff, perform_code_eq_zero_iff]
  · rintro options rfl
    refine ⟨fun cause refused => ?_, fun scenario path described wanted => ?_⟩
    · obtain ⟨failed, untouched⟩ := run_of_refused refused
      refine ⟨status.trans (congrArg statusOf failed), files.trans untouched, ?_⟩
      rw [runIn_of_refused here.recorded refused]
      rfl
    · have left := run_of_described described
      rw [wanted, saveReport] at left
      cases saved : Report.write path (here.result scenario) here.surroundings.files <;>
        rw [saved] at left <;> obtain ⟨code, kept⟩ := Prod.mk.inj left
      · exact Or.inr ⟨_, saved, files.trans kept, status.trans (congrArg statusOf code)⟩
      · exact Or.inl ⟨_, saved, files.trans kept, status.trans (congrArg statusOf code),
          readBytes_of_report saved⟩

/-- A place with two programs that exit without saying anything when they are started. -/
def silent : Place Bool where
  world := Brief.world ""
  outside := false
  surroundings := ⟨⟨[(["s"], .file [] true), (["c"], .file [] true)], []⟩, []⟩
  passes := 3
  colored := false

def reported : RunOptions where
  roles := ⟨{ path := some "/s" }, { path := some "/c" }, {}⟩
  serial := true
  report := some "report.json"

/-- The lines of the report: the server has failed, and so the client was not started. -/
def silentReport : List String :=
  ["\x7b", "  \"passed\": false,", "  \"roles\": [", "    \x7b", "      \"role\": \"server\",",
    "      \"pid\": 1000,", "      \"command_line\": \"/s\",", "      \"exit\": \x7b",
    "        \"state\": \"exited\",", "        \"code\": 1", "      \x7d", "    \x7d,",
    "    \x7b", "      \"role\": \"client\",", "      \"pid\": null,",
    "      \"command_line\": null,", "      \"exit\": \x7b",
    "        \"state\": \"not-started\"", "      \x7d", "    \x7d", "  ],",
    "  \"handshake_satisfied\": false,", "  \"error_text_observed\": false,",
    "  \"error_text_tolerated\": false,", "  \"findings\": [],", "  \"findings_dropped\": 0,",
    "  \"failures\": [", "    \x7b", "      \"kind\": \"server-crash\",",
    "      \"role\": \"server\",",
    "      \"reason\": \"server exited with exit code 1 before printing 'READY'\",",
    "      \"tail\": []", "    \x7d", "  ],", "  \"teardown_failures\": [],",
    "  \"live_after_teardown\": 0,", "  \"elapsed_secs\": 0.0", "\x7d"]

/-- A run that fails is reported as well. -/
theorem silent_reported :
    let words := ["run", "--serial", "--server", "/s", "--client", "/c", "--report", "report.json"]
    Usage.readProgram words = .ok ({}, .run reported) ∧
      ∃ scenario files, silent.Describes reported scenario ∧
        (program silent words).status = .code 1 ∧ (program silent words).files = files ∧
        files.readBytes "report.json" =
          .ok (Utf8.encode (Report.text (silent.result scenario))) ∧
        Report.text (silent.result scenario) = String.join (silentReport.map (· ++ "\n")) := by
  intro words
  have accepted : Usage.readProgram words = .ok ({}, .run reported) := by decide +kernel
  have runs : (loadScenario silent.surroundings reported).toOption.map (fun scenario =>
      ((silent.result scenario).exitCode, (Report.write "report.json" (silent.result scenario)
        silent.surroundings.files).isOk, Report.text (silent.result scenario))) =
      some (1, true, String.join (silentReport.map (· ++ "\n"))) := by decide +kernel
  have unlogged : silent.prepared {} = silent := rfl
  obtain ⟨-, -, ends⟩ := program_ends silent accepted
  rw [unlogged] at ends
  obtain ⟨scenario, place, values⟩ := Option.map_eq_some_iff.mp runs
  simp only [Prod.mk.injEq] at values
  obtain ⟨failed, writable, text⟩ := values
  have described : silent.Describes reported scenario :=
    loadScenario_eq_ok_iff.mp (Except.toOption_eq_some_iff.mp place)
  rcases (ends reported rfl).2 scenario "report.json" described rfl with
    ⟨files, written, kept, status, content⟩ | ⟨cause, unwritten, -⟩
  · exact ⟨accepted, scenario, files, described, by rw [status, failed]; rfl, kept, content,
      text⟩
  · rw [unwritten] at writable
    cases writable

end Console

end Rendezvous
