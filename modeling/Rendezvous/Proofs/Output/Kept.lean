import Mathlib.Data.List.Induction
import Rendezvous.Output.History
import Rendezvous.Transcript

/-!
What is left of the lines of a process in its history, and of the lines of all
processes in a transcript.
-/

set_option autoImplicit false

namespace Rendezvous

namespace History

/-- The limit of an empty history is one that it may be given. -/
theorem empty_limit (limit : Nat) : empty (empty limit).limit = empty limit := by
  simp [empty]

theorem foldl_push_limit (lines : List Line) (history : History) :
    (lines.foldl push history).limit = history.limit := by
  induction lines generalizing history with
  | nil => rfl
  | cons line lines inductionHypothesis =>
      refine (inductionHypothesis (history.push line)).trans ?_
      unfold push
      split <;> rfl

/-- A history that was given some lines keeps the last of them and counts the others. -/
theorem foldl_push_empty (limit : Nat) (lines : List Line) :
    lines.foldl push (empty limit) =
      ⟨Nat.max limit 1, lines.reverse.take (Nat.max limit 1), lines.length - Nat.max limit 1⟩ := by
  induction lines using List.reverseRecOn with
  | nil => simp [empty]
  | append_singleton lines line inductionHypothesis =>
      rw [List.foldl_append, inductionHypothesis]
      generalize Nat.max limit 1 = bound
      simp only [List.foldl_cons, List.foldl_nil, push, List.length_take, List.length_reverse,
        List.reverse_append, List.reverse_cons, List.reverse_nil, List.nil_append,
        List.singleton_append, List.length_append, List.length_singleton]
      by_cases room : lines.length < bound
      · have fits : min bound lines.length < bound := by omega
        have whole : lines.reverse.take bound = lines.reverse :=
          List.take_of_length_le (by simp; omega)
        have grown : (line :: lines.reverse).take bound = line :: lines.reverse :=
          List.take_of_length_le (by simp; omega)
        rw [if_pos fits, whole, grown]
        simp only [mk.injEq, true_and]
        omega
      · have full : ¬ min bound lines.length < bound := by omega
        rw [if_neg full]
        simp only [mk.injEq, true_and]
        constructor
        · cases bound with
          | zero => simp
          | succ bound => simp [List.take_take]
        · omega

theorem length_add_dropped_foldl_push (limit : Nat) (lines : List Line) :
    (lines.foldl push (empty limit)).length + (lines.foldl push (empty limit)).dropped =
      lines.length := by
  simp only [foldl_push_empty, length, List.length_take, List.length_reverse]
  omega

end History

namespace Transcript

/-- What a line says, whatever its number is. -/
structure Statement where
  role : Role
  stream : Stream
  text : String
  deriving DecidableEq, Repr

def statementOf (line : Line) : Statement :=
  ⟨line.role, line.stream, line.text⟩

theorem observeAll_append (transcript : Transcript) (first second : List Line) :
    transcript.observeAll (first ++ second) = (transcript.observeAll first).observeAll second := by
  simp [observeAll]

/-- The same scanner, the same limit, and the same quietness. -/
structure SameSetup (before after : Transcript) : Prop where
  scanner : after.scanner = before.scanner
  quiet : after.quiet = before.quiet
  limit : after.limit = before.limit

theorem SameSetup.refl (transcript : Transcript) : transcript.SameSetup transcript :=
  ⟨rfl, rfl, rfl⟩

theorem SameSetup.trans {first second third : Transcript} (former : first.SameSetup second)
    (latter : second.SameSetup third) : first.SameSetup third :=
  ⟨latter.scanner.trans former.scanner, latter.quiet.trans former.quiet,
    latter.limit.trans former.limit⟩

theorem observe_setup (transcript : Transcript) (line : Line) (relaying : Bool) :
    transcript.SameSetup (transcript.observe line relaying).1 := by
  cases relaying <;> cases found : transcript.scanner.match? line.text <;> constructor <;>
    simp [observe, found, relay, record]

@[simp]
theorem observe_scanner (transcript : Transcript) (line : Line) (relaying : Bool) :
    (transcript.observe line relaying).1.scanner = transcript.scanner :=
  (observe_setup transcript line relaying).scanner

theorem observeAll_setup (transcript : Transcript) (lines : List Line) :
    transcript.SameSetup (transcript.observeAll lines) :=
  List.foldlRecOn lines _ (motive := transcript.SameSetup) (.refl transcript)
    fun after same line _ => same.trans (observe_setup after line true)

theorem observe_relayed (transcript : Transcript) (line : Line) (relaying : Bool) :
    (transcript.observe line relaying).1.relayed =
      transcript.relayed + if relaying then 1 else 0 := by
  cases relaying <;> cases found : transcript.scanner.match? line.text <;>
    simp [observe, found, relay, record]

theorem observeAll_relayed (transcript : Transcript) (lines : List Line) :
    (transcript.observeAll lines).relayed = transcript.relayed + lines.length := by
  induction lines generalizing transcript with
  | nil => rfl
  | cons line lines inductionHypothesis =>
      refine (inductionHypothesis _).trans ?_
      rw [observe_relayed, if_pos rfl, List.length_cons, Nat.add_assoc, Nat.add_comm 1]

theorem observe_hits (transcript : Transcript) (line : Line) (relaying : Bool) (role : Role) :
    (transcript.observe line relaying).1.hits.get role =
      transcript.hits.get role +
        if line.role = role ∧ transcript.scanner.hasError line.text then 1 else 0 := by
  have relayed : ∀ transcript : Transcript, (transcript.relay line).hits = transcript.hits :=
    fun _ => rfl
  cases found : transcript.scanner.match? line.text with
  | none => cases relaying <;> simp [observe, found, relayed, Scanner.hasError]
  | some pattern =>
      have recorded : (transcript.record line pattern).hits.get role =
          transcript.hits.get role + if line.role = role then 1 else 0 := by
        by_cases same : line.role = role
        · subst same
          simp [record]
        · simp [record, same, RoleTable.get_set_other _ _ (Ne.symm same)]
      cases relaying <;> simp [observe, found, relayed, recorded, Scanner.hasError]

/-- The hits of a role are its lines that contain a signature. -/
theorem observeAll_hits (transcript : Transcript) (lines : List Line) (role : Role) :
    (transcript.observeAll lines).hits.get role =
      transcript.hits.get role +
        lines.countP fun line => line.role = role && transcript.scanner.hasError line.text := by
  induction lines generalizing transcript with
  | nil => rfl
  | cons line lines inductionHypothesis =>
      refine (inductionHypothesis _).trans ?_
      rw [observe_hits, observe_scanner, List.countP_cons, Nat.add_assoc, Nat.add_comm (ite _ _ _)]
      simp

theorem hasErrorText_iff (transcript : Transcript) (role : Role) :
    transcript.hasErrorText role = true ↔ 0 < transcript.hits.get role := by
  simp [hasErrorText]

theorem hasAnyErrorText_iff (transcript : Transcript) :
    transcript.hasAnyErrorText = true ↔ ∃ role, 0 < transcript.hits.get role := by
  simp only [hasAnyErrorText, List.any_eq_true, hasErrorText_iff]
  exact ⟨fun ⟨role, _, hit⟩ => ⟨role, hit⟩, fun ⟨role, hit⟩ => ⟨role, Role.mem_all role, hit⟩⟩

/-- A transcript without hits has seen error text when a line since then contains a signature. -/
theorem hasAnyErrorText_observeAll {transcript : Transcript}
    (fresh : ∀ role, transcript.hits.get role = 0) (lines : List Line) :
    (transcript.observeAll lines).hasAnyErrorText = true ↔
      ∃ line ∈ lines, transcript.scanner.hasError line.text = true := by
  simp only [hasAnyErrorText_iff, observeAll_hits, fresh, Nat.zero_add, List.countP_pos_iff,
    Bool.and_eq_true, decide_eq_true_eq]
  constructor
  · rintro ⟨role, line, membership, -, hit⟩
    exact ⟨line, membership, hit⟩
  · rintro ⟨line, membership, hit⟩
    exact ⟨line.role, line, membership, rfl, hit⟩

end Transcript

end Rendezvous
