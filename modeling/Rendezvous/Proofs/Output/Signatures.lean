import Mathlib.Data.List.Basic
import Mathlib.Data.List.Induction
import Mathlib.Data.List.Sort
import Rendezvous.Scanner

/-!
The patterns behind a scanner.

A scanner has each of its patterns once, where that pattern first stands, and no empty
one.  What it finds in a text is what the whole list of patterns finds there, so whether
there is anything to find depends on the set of these patterns alone.
-/

set_option autoImplicit false

namespace Rendezvous

namespace Scanner

/-- Some patterns, each of them once and in the order of their first places; none is empty. -/
structure Distinct (patterns signatures : List String) : Prop where
  mem_iff : ∀ text, text ∈ signatures ↔ text ∈ patterns ∧ text ≠ ""
  inOrder : signatures.Pairwise fun first second =>
    patterns.idxOf first < patterns.idxOf second

namespace Distinct

variable {patterns signatures : List String}

theorem nodup (distinct : Distinct patterns signatures) : signatures.Nodup :=
  distinct.inOrder.imp fun before same =>
    Nat.ne_of_lt before (congrArg (fun text => patterns.idxOf text) same)

/-- There is one such list. -/
theorem unique {others : List String} (distinct : Distinct patterns signatures)
    (also : Distinct patterns others) : signatures = others := by
  have together : signatures.Perm others :=
    (List.perm_ext_iff_of_nodup distinct.nodup also.nodup).mpr fun text =>
      (distinct.mem_iff text).trans (also.mem_iff text).symm
  refine together.eq_of_pairwise (fun first second _ _ before after => ?_) distinct.inOrder
    also.inOrder
  exact absurd after (Nat.lt_asymm before)

/-- A list without repetitions and without an empty text stays as it is. -/
theorem self (nodup : patterns.Nodup) (visible : "" ∉ patterns) : Distinct patterns patterns where
  mem_iff text := by
    refine ⟨fun given => ⟨given, ?_⟩, And.left⟩
    rintro rfl
    exact visible given
  inOrder := by
    refine List.pairwise_iff_getElem.mpr fun first second inside within before => ?_
    rwa [nodup.idxOf_getElem, nodup.idxOf_getElem]

/-- One more pattern at the end. -/
theorem insert (distinct : Distinct patterns signatures) (pattern : String) :
    Distinct (patterns ++ [pattern]) (Scanner.insert signatures pattern) := by
  have kept : signatures.Pairwise fun first second =>
      (patterns ++ [pattern]).idxOf first < (patterns ++ [pattern]).idxOf second := by
    refine distinct.inOrder.imp_of_mem fun {first second} here there before => ?_
    rwa [List.idxOf_append_of_mem ((distinct.mem_iff first).mp here).1,
      List.idxOf_append_of_mem ((distinct.mem_iff second).mp there).1]
  unfold Scanner.insert
  by_cases empty : pattern = ""
  · rw [if_pos (by simp [empty])]
    refine ⟨fun text => ?_, kept⟩
    rw [distinct.mem_iff, List.mem_append, List.mem_singleton, empty]
    tauto
  by_cases known : pattern ∈ signatures
  · rw [if_pos (by simp [known])]
    refine ⟨fun text => ?_, kept⟩
    have given : pattern ∈ patterns := ((distinct.mem_iff pattern).mp known).1
    rw [distinct.mem_iff, List.mem_append, List.mem_singleton]
    constructor
    · rintro ⟨old, visible⟩
      exact ⟨Or.inl old, visible⟩
    · rintro ⟨old | rfl, visible⟩
      · exact ⟨old, visible⟩
      · exact ⟨given, visible⟩
  · rw [if_neg (by simp [empty, known])]
    refine ⟨fun text => ?_, List.pairwise_append.mpr ⟨kept, List.pairwise_singleton _ _, ?_⟩⟩
    · rw [List.mem_append, List.mem_append, List.mem_singleton, distinct.mem_iff]
      constructor
      · rintro (⟨old, visible⟩ | rfl)
        · exact ⟨Or.inl old, visible⟩
        · exact ⟨Or.inr rfl, empty⟩
      · rintro ⟨old | new, visible⟩
        · exact Or.inl ⟨old, visible⟩
        · exact Or.inr new
    · -- a new pattern stands behind all that are there
      intro first here last there
      obtain rfl := List.mem_singleton.mp there
      have new : last ∉ patterns := fun given =>
        known ((distinct.mem_iff last).mpr ⟨given, empty⟩)
      have old : first ∈ patterns := ((distinct.mem_iff first).mp here).1
      rw [List.idxOf_append_of_mem old, List.idxOf_append_of_notMem new]
      exact Nat.lt_add_right _ (List.idxOf_lt_length_of_mem old)

end Distinct

theorem distinct_ofPatterns (patterns : List String) :
    Distinct patterns (ofPatterns patterns).signatures := by
  induction patterns using List.reverseRecOn with
  | nil => exact ⟨by simp [ofPatterns], .nil⟩
  | append_singleton patterns pattern inductionHypothesis =>
      rw [ofPatterns, List.foldl_append]
      exact inductionHypothesis.insert pattern

/-- A scanner can be made again of its own signatures. -/
theorem ofPatterns_signatures (patterns : List String) :
    ofPatterns (ofPatterns patterns).signatures = ofPatterns patterns := by
  have distinct := distinct_ofPatterns patterns
  have visible : "" ∉ (ofPatterns patterns).signatures := fun given =>
    ((distinct.mem_iff "").mp given).2 rfl
  have same := (distinct_ofPatterns _).unique (Distinct.self distinct.nodup visible)
  exact congrArg Scanner.mk same

/-- The first of some patterns that occurs in a line; an empty pattern is none. -/
def Foremost (patterns : List String) (line pattern : String) : Prop :=
  ∃ before after, patterns = before ++ pattern :: after ∧
    (pattern ≠ "" ∧ pattern.toList <:+: line.toList) ∧
    ∀ earlier ∈ before, ¬ (earlier ≠ "" ∧ earlier.toList <:+: line.toList)

/-- A pattern that is added again or that is empty is not found where it stands. -/
theorem find?_foldl_insert (wanted : String → Bool) (signatures patterns : List String) :
    (patterns.foldl insert signatures).find? wanted =
      (signatures.find? wanted).or
        (patterns.find? fun pattern => pattern ≠ "" && wanted pattern) := by
  induction patterns generalizing signatures with
  | nil => simp
  | cons pattern patterns inductionHypothesis =>
      rw [List.foldl_cons, inductionHypothesis, insert]
      by_cases empty : pattern = ""
      · simp [empty]
      by_cases known : pattern ∈ signatures
      · cases holds : wanted pattern with
        | false => simp [known, holds]
        | true =>
            -- what is found is among the signatures, so it does not matter what comes later
            obtain ⟨first, found⟩ : ∃ first, signatures.find? wanted = some first :=
              Option.isSome_iff_exists.mp (List.find?_isSome.mpr ⟨pattern, known, holds⟩)
            simp [known, found]
      · cases holds : wanted pattern <;>
          simp [empty, known, holds, List.find?_append]

/-- Whether a pattern is one and occurs in a line. -/
def occursIn (line pattern : String) : Bool :=
  pattern ≠ "" && Text.contains line pattern

theorem occursIn_iff {line pattern : String} :
    occursIn line pattern = true ↔ pattern ≠ "" ∧ pattern.toList <:+: line.toList := by
  simp [occursIn, Text.contains, Text.occurs_iff]

theorem find?_eq_some_iff_foremost {patterns : List String} {line pattern : String} :
    patterns.find? (occursIn line) = some pattern ↔ Foremost patterns line pattern := by
  simp only [List.find?_eq_some_iff_append, Foremost, ← occursIn_iff, Bool.not_eq_true',
    Bool.not_eq_true]
  constructor
  · rintro ⟨here, before, after, split, earlier⟩
    exact ⟨before, after, split, here, earlier⟩
  · rintro ⟨before, after, split, here, earlier⟩
    exact ⟨here, before, after, split, earlier⟩

theorem exists_foremost {patterns : List String} {line pattern : String}
    (given : pattern ∈ patterns) (here : pattern ≠ "" ∧ pattern.toList <:+: line.toList) :
    ∃ signature, Foremost patterns line signature := by
  simp only [← find?_eq_some_iff_foremost]
  apply Option.isSome_iff_exists.mp
  exact List.find?_isSome.mpr ⟨pattern, given, occursIn_iff.mpr here⟩

/-- What a scanner finds is what the patterns find that it was made of. -/
theorem match?_configured (settings : ScanSettings) (extra : List String) (line : String) :
    (configured settings extra).match? line = (patterns settings extra).find? (occursIn line) := by
  rw [match?, configured, ofPatterns, find?_foldl_insert, List.find?_nil, Option.none_or]
  rfl

theorem match?_configured_iff {settings : ScanSettings} {extra : List String}
    {line pattern : String} :
    (configured settings extra).match? line = some pattern ↔
      Foremost (patterns settings extra) line pattern := by
  rw [match?_configured]
  exact find?_eq_some_iff_foremost

theorem match?_configured_eq_none_iff {settings : ScanSettings} {extra : List String}
    {line : String} :
    (configured settings extra).match? line = none ↔
      ∀ pattern ∈ patterns settings extra, pattern ≠ "" → ¬ pattern.toList <:+: line.toList := by
  simp only [match?_configured, List.find?_eq_none, occursIn_iff, not_and]

theorem hasError_configured_iff {settings : ScanSettings} {extra : List String} {line : String} :
    (configured settings extra).hasError line = true ↔
      ∃ pattern ∈ patterns settings extra, pattern ≠ "" ∧ pattern.toList <:+: line.toList := by
  simp only [hasError, match?_configured, List.find?_isSome, occursIn_iff]

/-- What is an error for some patterns is one for more patterns and in a longer text. -/
theorem hasError_mono {settings others : ScanSettings} {extra more : List String}
    {text longer : String}
    (given : ∀ pattern ∈ patterns settings extra, pattern ≠ "" → pattern ∈ patterns others more)
    (inside : text.toList <:+: longer.toList)
    (found : (configured settings extra).hasError text = true) :
    (configured others more).hasError longer = true := by
  obtain ⟨pattern, membership, visible, here⟩ := hasError_configured_iff.mp found
  exact hasError_configured_iff.mpr
    ⟨pattern, given pattern membership visible, visible, here.trans inside⟩

/--
A scanner has the patterns of the settings and the extra ones, each once at its first
place, and finds in a text the first of all these patterns that is there.  Whether a text
is an error depends on the set of the patterns; more patterns or a longer text keep an
error one.
-/
theorem configured_finds_patterns (settings : ScanSettings) (extra : List String) :
    let given := patterns settings extra
    let scanner := configured settings extra
    (∀ signatures, Distinct given signatures ↔ signatures = scanner.signatures) ∧
      (∀ text pattern, scanner.match? text = some pattern ↔ Foremost given text pattern) ∧
      (∀ text, scanner.match? text = none ↔
        ∀ pattern ∈ given, pattern ≠ "" → ¬ pattern.toList <:+: text.toList) ∧
      (∀ text, scanner.hasError text = true ↔
        ∃ pattern ∈ given, pattern ≠ "" ∧ pattern.toList <:+: text.toList) ∧
      (∀ others more,
        (∀ pattern, pattern ≠ "" → (pattern ∈ given ↔ pattern ∈ patterns others more)) →
          ∀ text, (configured others more).hasError text = scanner.hasError text) ∧
      (∀ others more,
        (∀ pattern ∈ given, pattern ≠ "" → pattern ∈ patterns others more) →
          ∀ text, scanner.hasError text = true → (configured others more).hasError text = true) ∧
      (∀ text longer : String, text.toList <:+: longer.toList →
        scanner.hasError text = true → scanner.hasError longer = true) ∧
      ofPatterns scanner.signatures = scanner := by
  intro given scanner
  refine ⟨fun signatures => ⟨fun distinct => ?_, ?_⟩, fun _ _ => match?_configured_iff,
    fun _ => match?_configured_eq_none_iff, fun _ => hasError_configured_iff, ?_, ?_, ?_,
    ofPatterns_signatures given⟩
  · exact distinct.unique (distinct_ofPatterns given)
  · rintro rfl
    exact distinct_ofPatterns given
  · intro others more same text
    refine Bool.eq_iff_iff.mpr ⟨hasError_mono ?_ List.infix_rfl, hasError_mono ?_ List.infix_rfl⟩
    · exact fun pattern membership visible => (same pattern visible).mpr membership
    · exact fun pattern membership visible => (same pattern visible).mp membership
  · intro others more added text
    exact hasError_mono added List.infix_rfl
  · intro text longer inside
    exact hasError_mono (fun pattern membership _ => membership) inside

example : (configured { patterns := ["", "LEAK", "STUCK"], replaceDefaults := true }
    ["LEAK", "LOST"]).signatures = ["LEAK", "STUCK", "LOST"] := by decide

end Scanner

end Rendezvous
