import Rendezvous.Proofs.Files.Writing
import Rendezvous.Proofs.Report.Readability
import Rendezvous.Proofs.Text.Encoding
import Rendezvous.Report

/-!
What a report tells.

Every part of a result has a form of its own in the report: names tell roles, streams,
kinds and states apart, and what is absent is null.  So two runs that took the same time
have the same report only if they have the same result.
-/

set_option autoImplicit false

namespace Rendezvous

theorem Stream.name_injective : Function.Injective Stream.name := by
  intro first second same
  have back : ∀ stream : Stream, ofName? stream.name = some stream := by
    intro stream
    cases stream <;> decide
  exact Option.some.inj ((back first).symm.trans (same ▸ back second))

theorem FailureKind.name_injective : Function.Injective FailureKind.name := by
  intro first second same
  have back : ∀ kind : FailureKind, ofName? kind.name = some kind := by
    intro kind
    cases kind <;> decide
  exact Option.some.inj ((back first).symm.trans (same ▸ back second))

namespace Report

open Json (Plain Separate)

/-- A way to write values as JSON that keeps them apart. -/
structure Faithful {α : Type} (encode : α → Json) : Prop where
  plain : ∀ value, Plain (encode value)
  injective : Function.Injective encode

theorem faithful_text : Faithful Json.text :=
  ⟨Plain.text, fun _ _ => Json.text.inj⟩

theorem faithful_integer : Faithful Json.integer :=
  ⟨Plain.integer, fun _ _ => Json.integer.inj⟩

theorem faithful_ofNat : Faithful Json.ofNat :=
  ⟨fun value => .integer value, fun _ _ same => Int.ofNat.inj (Json.integer.inj same)⟩

theorem faithful_ofRole : Faithful ofRole :=
  ⟨fun role => .text role.name, fun _ _ same => Role.name_injective (Json.text.inj same)⟩

section

variable {α : Type} {encode : α → Json}

/-- What is absent is null, so nothing else may be. -/
theorem Faithful.ofOption (faithful : Faithful encode) (visible : ∀ value, encode value ≠ .null) :
    Faithful (Json.ofOption encode) where
  plain
    | none => .null
    | some value => faithful.plain value
  injective
    | none, none, _ => rfl
    | none, some second, same => absurd same.symm (visible second)
    | some first, none, same => absurd same (visible first)
    | some _, some _, same => congrArg some (faithful.injective same)

theorem Faithful.list (faithful : Faithful encode) :
    Faithful fun values : List α => .array (values.map encode) where
  plain values := by
    refine .array fun item inside => ?_
    obtain ⟨value, -, rfl⟩ := List.mem_map.mp inside
    exact faithful.plain value
  injective _ _ same := faithful.injective.list_map (Json.array.inj same)

end

theorem faithful_integer? : Faithful (Json.ofOption Json.integer) :=
  faithful_integer.ofOption nofun

theorem faithful_ofNat? : Faithful (Json.ofOption Json.ofNat) :=
  faithful_ofNat.ofOption nofun

theorem faithful_text? : Faithful (Json.ofOption Json.text) :=
  faithful_text.ofOption nofun

theorem faithful_ofRole? : Faithful (Json.ofOption ofRole) :=
  faithful_ofRole.ofOption nofun

theorem faithful_texts : Faithful fun texts : List String => .array (texts.map .text) :=
  faithful_text.list

theorem faithful_ofExit : Faithful ofExit where
  plain state := by
    cases state with
    | notStarted | running => exact .object (by simp [Plain.text])
    | exited | signaled => exact .object (by simp [Plain.text, Plain.integer])
    | stopped => exact .object (by simp [Plain.text, faithful_integer?.plain])
  injective first second same := by
    cases first <;> cases second <;> simp_all [ofExit, faithful_integer?.injective.eq_iff]

theorem faithful_ofRoleReport : Faithful ofRoleReport where
  plain report := .object (by
    simp [faithful_ofRole.plain, faithful_ofNat?.plain, faithful_text?.plain,
      faithful_ofExit.plain])
  injective first second same := by
    cases first
    cases second
    simpa [ofRoleReport, faithful_ofRole.injective.eq_iff, faithful_ofNat?.injective.eq_iff,
      faithful_text?.injective.eq_iff, faithful_ofExit.injective.eq_iff] using same

theorem faithful_ofFinding : Faithful ofFinding where
  plain finding := .object (by simp [faithful_ofRole.plain, Plain.text])
  injective first second same := by
    cases first
    cases second
    simpa [ofFinding, faithful_ofRole.injective.eq_iff, Stream.name_injective.eq_iff] using same

theorem faithful_ofFailure : Faithful ofFailure where
  plain failure := .object (by
    simp [faithful_ofRole?.plain, Plain.text, faithful_texts.plain])
  injective first second same := by
    cases first
    cases second
    simpa [ofFailure, faithful_ofRole?.injective.eq_iff, FailureKind.name_injective.eq_iff,
      faithful_texts.injective.eq_iff] using same

theorem faithful_ofTeardownFailure : Faithful ofTeardownFailure where
  plain failure := .object (by simp [faithful_ofRole.plain, faithful_ofNat?.plain, Plain.text])
  injective first second same := by
    cases first
    cases second
    simpa [ofTeardownFailure, faithful_ofRole.injective.eq_iff,
      faithful_ofNat?.injective.eq_iff] using same

theorem ofResult_injective : Function.Injective ofResult := by
  intro first second same
  cases first
  cases second
  simpa [ofResult, faithful_ofRoleReport.list.injective.eq_iff,
    faithful_ofFinding.list.injective.eq_iff, faithful_ofNat.injective.eq_iff,
    faithful_ofFailure.list.injective.eq_iff,
    faithful_ofTeardownFailure.list.injective.eq_iff] using same

/-- All of a report but the time is plain. -/
theorem exists_members (result : RunResult) :
    ∃ members, ofResult result = .object members ∧ ∀ member ∈ members,
      member = ("elapsed_secs", .number result.elapsedSeconds) ∨
        member.1 ≠ "elapsed_secs" ∧ Plain member.2 := by
  refine ⟨_, rfl, ?_⟩
  simp [Plain.boolean, faithful_ofRoleReport.list.plain, faithful_ofFinding.list.plain,
    faithful_ofNat.plain, faithful_ofFailure.list.plain, faithful_ofTeardownFailure.list.plain]

theorem text_eq_iff {first second : RunResult}
    (time : first.elapsedSeconds = second.elapsedSeconds) :
    text first = text second ↔ first = second := by
  refine ⟨fun same => ?_, congrArg text⟩
  have pretty : (ofResult first).pretty = (ofResult second).pretty := by
    have letters := congrArg String.toList same
    simp only [text, String.toList_append] at letters
    exact String.toList_inj.mp (List.append_cancel_right letters)
  obtain ⟨members, whole, known⟩ := exists_members first
  obtain ⟨others, total, sure⟩ := exists_members second
  rw [whole, total] at pretty
  refine ofResult_injective (whole.trans (Eq.trans (congrArg _ ?_) total.symm))
  refine Json.object_injective (fun member inside other within keys => ?_) pretty
  rcases known member inside with rfl | ⟨elsewhere, plain⟩
  · rcases sure other within with rfl | ⟨differs, -⟩
    · rw [time]
      exact Json.separate_self _ 1
    · exact absurd keys.symm differs
  · rcases sure other within with rfl | ⟨-, too⟩
    · exact absurd keys elsewhere
    · exact plain.separate too 1

/-- The reports of two runs that took the same time are the same only for the same result. -/
theorem report_tells_result {first second : RunResult}
    (time : first.elapsedSeconds = second.elapsedSeconds) {path other : String}
    {files more after later : FileTree} (written : write path first files = .ok after)
    (too : write other second more = .ok later) :
    after.readBytes path = later.readBytes other ↔ first = second := by
  rw [readBytes_of_report written, readBytes_of_report too]
  refine Iff.trans ⟨fun same => ?_, fun same => by rw [same]⟩ (text_eq_iff time)
  have decoded := congrArg Utf8.decode? (Except.ok.inj same)
  rw [Utf8.decode?_encode, Utf8.decode?_encode] at decoded
  exact Option.some.inj decoded

/-- A run whose server was stopped; it exited, or a signal ended it. -/
def stoppedServer (code signal : Option Int) : RunResult where
  passed := false
  roles := [⟨.server, some 42, some "server \"\n\\", .stopped code signal⟩]
  handshakeSatisfied := false
  errorTextObserved := false
  errorTextTolerated := false
  findings := []
  findingsDropped := 0
  failures := [⟨.interrupted, none, "", ["null", ""]⟩]
  teardownFailures := []
  liveAfterTeardown := 0
  elapsedSeconds := .ofNat 1

theorem stopped_servers_differ :
    ∃ after later, write "/report" (stoppedServer (some 15) none) ⟨[], []⟩ = .ok after ∧
      write "/report" (stoppedServer none (some 15)) ⟨[], []⟩ = .ok later ∧
      after.readBytes "/report" ≠ later.readBytes "/report" := by
  have time : (stoppedServer (some 15) none).elapsedSeconds =
      (stoppedServer none (some 15)).elapsedSeconds := rfl
  have written : ∀ result, write "/report" result ⟨[], []⟩ =
      .ok ⟨[(["report"], .file (Utf8.encode (text result)) false)], []⟩ := fun _ => rfl
  refine ⟨_, _, written _, written _, fun same => ?_⟩
  have results := (report_tells_result time (written _) (written _)).mp same
  exact absurd results (by decide)

end Report

end Rendezvous
