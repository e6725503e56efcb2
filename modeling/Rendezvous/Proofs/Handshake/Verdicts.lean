import Rendezvous.Handshake
import Rendezvous.Proofs.Output.Kept
import Rendezvous.Proofs.Session.Pending

/-!
What the lines of one pass decide about a handshake.

The lines of all roles come one by one, and what they decide is changed on the
way.  In the end it is as if the lines of the target had been searched twice: for
the first one with an error signature and, if there is none, for the first one
with the marker.
-/

set_option autoImplicit false

namespace Rendezvous

theorem Scanner.match?_eq_none_iff {scanner : Scanner} {text : String} :
    scanner.match? text = none ↔
      ∀ signature ∈ scanner.signatures, Text.contains text signature = false := by
  simp only [match?, List.find?_eq_none, Bool.not_eq_true]

namespace Handshake

/-- The first line of the target with an error signature, and the first signature in it. -/
def error? (scanner : Scanner) (target : Target) (lines : List Line) : Option Handshake :=
  (Output.ofRole target.role lines).findSome? fun line =>
    (scanner.match? line.text).map fun pattern => .errorText pattern line.text

/-- The first line of the target with the marker. -/
def found? (target : Target) (lines : List Line) : Option Handshake :=
  ((Output.ofRole target.role lines).find? fun line => Text.contains line.text target.marker).map
    fun line => .found line.text

/-- What the lines of a pass decide: an error signature outweighs the marker. -/
def verdict? (scanner : Scanner) (target : Target) (lines : List Line) : Option Handshake :=
  (error? scanner target lines).or (found? target lines)

/-- Whether a line decides: it is one of the target, with an error signature or the marker. -/
def isDecisive (scanner : Scanner) (target : Target) (line : Line) : Bool :=
  line.role = target.role && (scanner.hasError line.text || Text.contains line.text target.marker)

/-- Only decisive lines decide, and each of them does. -/
theorem verdict?_eq_none {scanner : Scanner} {target : Target} {lines : List Line} :
    verdict? scanner target lines = none ↔
      ∀ line ∈ lines, isDecisive scanner target line = false := by
  simp only [verdict?, Option.or_eq_none_iff, error?, found?, List.findSome?_eq_none_iff,
    Option.map_eq_none_iff, List.find?_eq_none, Output.ofRole, List.mem_filter, and_imp,
    decide_eq_true_eq, isDecisive, Bool.and_eq_false_imp, Bool.or_eq_false_iff, Scanner.hasError,
    Option.isSome_eq_false_iff, Option.isNone_iff_eq_none, Bool.not_eq_true]
  constructor
  · rintro ⟨error, marker⟩ line membership same
    exact ⟨error line membership same, marker line membership same⟩
  · intro all
    exact ⟨fun line membership same => (all line membership same).1,
      fun line membership same => (all line membership same).2⟩

theorem error?_cons (scanner : Scanner) (target : Target) (line : Line) (lines : List Line) :
    error? scanner target (line :: lines) =
      if line.role = target.role then
        ((scanner.match? line.text).map fun pattern => .errorText pattern line.text).or
          (error? scanner target lines)
      else error? scanner target lines := by
  unfold error? Output.ofRole
  rw [List.filter_cons]
  split <;> rename_i own
  · rw [if_pos (of_decide_eq_true own), List.findSome?_cons]
    cases scanner.match? line.text <;> rfl
  · rw [if_neg (fun same => own (decide_eq_true same))]

theorem found?_cons (target : Target) (line : Line) (lines : List Line) :
    found? target (line :: lines) =
      if line.role = target.role && Text.contains line.text target.marker then
        some (.found line.text)
      else found? target lines := by
  unfold found? Output.ofRole
  rw [List.filter_cons]
  by_cases own : line.role = target.role
  · cases marked : Text.contains line.text target.marker <;> simp [own, marked]
  · simp [own]

/-- Where a handshake stands after a line of any role. -/
def step (scanner : Scanner) (target : Target) (state : Handshake) (line : Line) : Handshake :=
  if line.role = target.role then
    state.afterLine target.marker line.text (scanner.match? line.text)
  else state

/-- What is relayed makes no difference for a handshake. -/
theorem foldl_observe_fst (target : Target) (lines : List Line) (state : Handshake)
    (transcript : Transcript) :
    (lines.foldl (observe target) (state, transcript)).1 =
      lines.foldl (step transcript.scanner target) state := by
  induction lines generalizing state transcript with
  | nil => rfl
  | cons line lines inductionHypothesis =>
      have scanner : (observe target (state, transcript) line).2.scanner = transcript.scanner :=
        Transcript.observe_scanner _ _ _
      have next : (observe target (state, transcript) line).1 =
          step transcript.scanner target state line := by
        simp [observe, step, Transcript.observe]
      rw [List.foldl_cons, List.foldl_cons, inductionHypothesis, scanner, next]

section

variable {scanner : Scanner} {target : Target}

/-- Nothing outweighs an error signature. -/
theorem foldl_step_errorText (lines : List Line) (pattern text : String) :
    lines.foldl (step scanner target) (.errorText pattern text) = .errorText pattern text := by
  have kept : ∀ line, step scanner target (.errorText pattern text) line =
      .errorText pattern text := fun line => by
    unfold step
    split <;> rfl
  induction lines with
  | nil => rfl
  | cons line lines inductionHypothesis => rwa [List.foldl_cons, kept]

/-- An error signature outweighs a marker that stands before it. -/
theorem foldl_step_found (lines : List Line) (text : String) :
    lines.foldl (step scanner target) (.found text) =
      (error? scanner target lines).getD (.found text) := by
  induction lines with
  | nil => rfl
  | cons line lines inductionHypothesis =>
      rw [List.foldl_cons, error?_cons, step]
      split
      · cases signature : scanner.match? line.text with
        | none => exact inductionHypothesis
        | some pattern => exact foldl_step_errorText lines pattern line.text
      · exact inductionHypothesis

theorem foldl_step_waiting (lines : List Line) :
    lines.foldl (step scanner target) .waiting =
      (verdict? scanner target lines).getD .waiting := by
  induction lines with
  | nil => rfl
  | cons line lines inductionHypothesis =>
      rw [List.foldl_cons, verdict?, error?_cons, found?_cons, step]
      by_cases own : line.role = target.role
      · cases signature : scanner.match? line.text with
        | some pattern =>
            rw [if_pos own, if_pos own]
            exact foldl_step_errorText lines pattern line.text
        | none =>
            cases marked : Text.contains line.text target.marker with
            | true =>
                have next : afterLine .waiting target.marker line.text none = .found line.text := by
                  simp [afterLine, isErrorText, isWaiting, marked]
                rw [if_pos own, if_pos own, next, foldl_step_found]
                cases error : error? scanner target lines <;> simp [own]
            | false =>
                have next : afterLine .waiting target.marker line.text none = .waiting := by
                  simp [afterLine, isErrorText, isWaiting, marked]
                rw [if_pos own, if_pos own, next, inductionHypothesis, verdict?]
                simp
      · rw [if_neg own, if_neg own, inductionHypothesis, verdict?]
        simp [own]

/-- Where a handshake stands after a pass is what the lines of the pass decide. -/
theorem foldl_observe (lines : List Line) (transcript : Transcript) :
    (lines.foldl (observe target) (.waiting, transcript)).1 =
      (verdict? transcript.scanner target lines).getD .waiting := by
  rw [foldl_observe_fst, foldl_step_waiting]

example :
    verdict? ⟨["ERROR"]⟩ ⟨.server, "ready", .after .zero .zero, true⟩
      [⟨0, .client, .stdout, "ERROR"⟩, ⟨1, .server, .stdout, "ready"⟩,
        ⟨2, .server, .stderr, "an ERROR"⟩] = some (.errorText "ERROR" "an ERROR") := by
  decide

/-- Lines decide for an error signature or for the marker. -/
theorem verdict?_eq_some {lines : List Line} {state : Handshake}
    (decided : verdict? scanner target lines = some state) :
    (∃ pattern text, state = .errorText pattern text) ∨ ∃ text, state = .found text := by
  rcases Option.or_eq_some_iff.mp decided with error | ⟨-, found⟩
  · obtain ⟨line, -, signature⟩ := List.exists_of_findSome?_eq_some error
    obtain ⟨pattern, -, rfl⟩ := Option.map_eq_some_iff.mp signature
    exact Or.inl ⟨pattern, line.text, rfl⟩
  · obtain ⟨line, -, rfl⟩ := Option.map_eq_some_iff.mp found
    exact Or.inr ⟨line.text, rfl⟩

end

end Handshake

end Rendezvous
