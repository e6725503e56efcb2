import Mathlib.Algebra.GroupWithZero.Nat
import Rendezvous.Text.Utf8

/-!
Decoding and ASCII bytes.

A byte below 0x80 is never part of a longer character, so it ends whatever stands
before it, complete or not, and what follows is decoded as if nothing had been
there.  No other bytes give the same character.
-/

set_option autoImplicit false

namespace Rendezvous

namespace Utf8

/-- Not an ASCII character, apart from the null character, which stands for no code point. -/
def Wide (char : Char) : Prop :=
  ∃ value, 0x80 ≤ value ∧ char = Char.ofNat value

theorem toNat_ofNat_or (value : Nat) :
    (Char.ofNat value).toNat = value ∨ (Char.ofNat value).toNat = 0 := by
  by_cases valid : value.isValidChar
  · rw [Char.ofNat, dif_pos valid]
    exact Or.inl rfl
  · rw [Char.ofNat, dif_neg valid]
    exact Or.inr rfl

theorem toNat_ofNat_ascii {code : Nat} (ascii : code < 0x80) :
    (Char.ofNat code).toNat = code := by
  rw [Char.ofNat, dif_pos (Or.inl (by omega))]
  rfl

theorem Wide.toNat_eq_zero_or {char : Char} (wide : Wide char) :
    char.toNat = 0 ∨ 0x80 ≤ char.toNat := by
  obtain ⟨value, large, rfl⟩ := wide
  have same := toNat_ofNat_or value
  omega

theorem wide_replacement : Wide replacement :=
  ⟨0xFFFD, by decide, rfl⟩

namespace Decoder

/-- The least code point that a character can still get. -/
def least (decoder : Decoder) : Nat :=
  (decoder.value * 64 + (decoder.low - 0x80)) * 64 ^ (decoder.owed - 1)

/-- Inside a character that is not ASCII; only continuation bytes are in range. -/
structure Inside (decoder : Decoder) : Prop where
  owed : decoder.owed ≠ 0
  low : 0x80 ≤ decoder.low
  high : decoder.high ≤ 0xBF
  least : 0x80 ≤ decoder.least

/-- Between characters or inside one that is not ASCII. -/
def Fine (decoder : Decoder) : Prop :=
  decoder.owed = 0 ∨ decoder.Inside

/-- What one byte does. -/
inductive Step (decoder : Decoder) (byte : UInt8) : Decoder → Prop where
  | ascii (small : byte.toNat < 0x80) :
      Step decoder byte (decoder.finish.emit (Char.ofNat byte.toNat))
  | ends {char : Char} (large : 0x80 ≤ byte.toNat) (wide : Wide char) :
      Step decoder byte (decoder.emit char)
  | flawed (large : 0x80 ≤ byte.toNat) : Step decoder byte decoder.finish.flaw
  | begins {owed low high value : Nat} (large : 0x80 ≤ byte.toNat)
      (inside : (decoder.finish.await owed low high value).Inside) :
      Step decoder byte (decoder.finish.await owed low high value)
  | goesOn {owed low high value : Nat} (large : 0x80 ≤ byte.toNat)
      (inside : (decoder.await owed low high value).Inside) :
      Step decoder byte (decoder.await owed low high value)

variable {decoder : Decoder}

theorem begin_step (decoder : Decoder) (byte : UInt8) :
    Step decoder byte (decoder.finish.begin byte) := by
  have inside {owed low high value : Nat} (large : 0x80 ≤ byte.toNat)
      (range : owed ≠ 0 ∧ 0x80 ≤ low ∧ high ≤ 0xBF)
      (least : 0x80 ≤ (value * 64 + (low - 0x80)) * 64 ^ (owed - 1)) :
      Step decoder byte (decoder.finish.await owed low high value) :=
    .begins large ⟨range.1, range.2.1, range.2.2, least⟩
  have either {condition : Prop} [Decidable condition] {first second : Decoder}
      (yes : condition → Step decoder byte first) (no : ¬ condition → Step decoder byte second) :
      Step decoder byte (if condition then first else second) :=
    iteInduction yes no
  refine either .ascii fun small => ?_
  have large : 0x80 ≤ byte.toNat := Nat.le_of_not_lt small
  refine either (fun _ => .flawed large) fun _ => ?_
  refine either (fun _ => inside large (by decide) (by omega)) fun _ => ?_
  refine either (fun _ => inside large (by decide) (by decide)) fun _ => ?_
  refine either (fun _ => inside large (by decide) (by omega)) fun _ => ?_
  refine either (fun _ => inside large (by decide) (by omega)) fun _ => ?_
  refine either (fun _ => inside large (by decide) (by decide)) fun _ => ?_
  refine either (fun _ => inside large (by decide) (by omega)) fun _ => ?_
  exact either (fun _ => inside large (by decide) (by omega)) fun _ => .flawed large

/-- A byte in range makes the code point no less than it had to be. -/
theorem Inside.least_le (inside : decoder.Inside) {code : Nat} (above : decoder.low ≤ code)
    (below : code ≤ decoder.high) :
    0x80 ≤ (decoder.value * 64 + code % 64) * 64 ^ (decoder.owed - 1) := by
  have low := inside.low
  have high := inside.high
  have rest : decoder.low - 0x80 ≤ code % 64 := by omega
  calc
    0x80 ≤ (decoder.value * 64 + (decoder.low - 0x80)) * 64 ^ (decoder.owed - 1) := inside.least
    _ ≤ (decoder.value * 64 + code % 64) * 64 ^ (decoder.owed - 1) :=
      Nat.mul_le_mul_right _ (Nat.add_le_add_left rest _)

theorem step_step (fine : decoder.Fine) (byte : UInt8) :
    Step decoder byte (decoder.step byte) := by
  by_cases between : decoder.owed = 0
  · have done : decoder.finish = decoder := if_pos between
    rw [step, if_pos between]
    have begun := begin_step decoder byte
    rwa [done] at begun
  · have inside : decoder.Inside := fine.resolve_left between
    have broken : decoder.finish = decoder.flaw := if_neg between
    rw [step, if_neg between]
    split
    · next range =>
        obtain ⟨above, below⟩ : decoder.low ≤ byte.toNat ∧ byte.toNat ≤ decoder.high := by
          simpa using range
        have large : 0x80 ≤ byte.toNat := Nat.le_trans inside.low above
        have least := inside.least_le above below
        dsimp only
        split
        · next last =>
            rw [last] at least
            exact .ends large ⟨_, by omega, rfl⟩
        · next more =>
            refine .goesOn large ⟨by simp only [await]; omega, Nat.le_refl _, Nat.le_refl _, ?_⟩
            obtain ⟨left, owed⟩ : ∃ left, decoder.owed = left + 2 :=
              ⟨decoder.owed - 2, by omega⟩
            rw [owed] at least
            simp only [Decoder.least, await, owed]
            calc
              0x80 ≤ (decoder.value * 64 + byte.toNat % 64) * 64 ^ (left + 1) := least
              _ = ((decoder.value * 64 + byte.toNat % 64) * 64 + (0x80 - 0x80)) * 64 ^ left := by
                rw [Nat.pow_succ', ← Nat.mul_assoc]
                rfl
    · rw [← broken]
      exact begin_step decoder byte

theorem Step.fine {byte : UInt8} {after : Decoder} (step : Step decoder byte after) :
    after.Fine := by
  cases step with
  | ascii | ends | flawed => exact Or.inl rfl
  | begins _ inside | goesOn _ inside => exact Or.inr inside

theorem foldl_step_fine (fine : decoder.Fine) (bytes : List UInt8) :
    (bytes.foldl step decoder).Fine := by
  induction bytes generalizing decoder with
  | nil => exact fine
  | cons byte bytes inductionHypothesis => exact inductionHypothesis (step_step fine byte).fine

theorem start_fine : start.Fine :=
  Or.inl rfl

theorem step_ascii (fine : decoder.Fine) {byte : UInt8} (ascii : byte.toNat < 0x80) :
    decoder.step byte = decoder.finish.emit (Char.ofNat byte.toNat) := by
  have step := step_step fine byte
  generalize decoder.step byte = after at step
  cases step with
  | ascii => rfl
  | ends large | flawed large | begins large | goesOn large => omega

theorem finish_of_owed (inside : decoder.owed ≠ 0) : decoder.finish = decoder.flaw :=
  if_neg inside

theorem mem_finish {char : Char} (read : char ∈ decoder.finish.chars.toList) :
    char ∈ decoder.chars.toList ∨ Wide char := by
  unfold finish at read
  split at read
  · exact Or.inl read
  · rcases List.mem_append.mp (Array.toList_push ▸ read) with before | own
    · exact Or.inl before
    · exact Or.inr (List.mem_singleton.mp own ▸ wide_replacement)

/-- A byte gives its own character or none that is ASCII. -/
theorem Step.mem {byte : UInt8} {after : Decoder} (step : Step decoder byte after) {char : Char}
    (read : char ∈ after.chars.toList) : char ∈ decoder.chars.toList ∨ Wide char ∨
      byte.toNat < 0x80 ∧ char = Char.ofNat byte.toNat := by
  cases step with
  | ascii small =>
      rcases List.mem_append.mp (Array.toList_push ▸ read) with before | own
      · exact (mem_finish before).imp_right Or.inl
      · exact Or.inr (Or.inr ⟨small, List.mem_singleton.mp own⟩)
  | ends large wide =>
      rcases List.mem_append.mp (Array.toList_push ▸ read) with before | own
      · exact Or.inl before
      · exact Or.inr (Or.inl (List.mem_singleton.mp own ▸ wide))
  | flawed =>
      rcases List.mem_append.mp (Array.toList_push ▸ read) with before | own
      · exact (mem_finish before).imp_right Or.inl
      · exact Or.inr (Or.inl (List.mem_singleton.mp own ▸ wide_replacement))
  | begins => exact (mem_finish read).imp_right Or.inl
  | goesOn => exact Or.inl read

theorem mem_foldl_step (fine : decoder.Fine) {bytes : List UInt8} {char : Char}
    (read : char ∈ (bytes.foldl step decoder).chars.toList) :
    char ∈ decoder.chars.toList ∨ Wide char ∨
      ∃ byte ∈ bytes, byte.toNat < 0x80 ∧ char = Char.ofNat byte.toNat := by
  induction bytes generalizing decoder with
  | nil => exact Or.inl read
  | cons byte bytes inductionHypothesis =>
      have step := step_step fine byte
      rcases inductionHypothesis step.fine read with before | wide | ⟨other, later, own⟩
      · rcases step.mem before with earlier | wide | own
        · exact Or.inl earlier
        · exact Or.inr (Or.inl wide)
        · exact Or.inr (Or.inr ⟨byte, List.mem_cons_self, own⟩)
      · exact Or.inr (Or.inl wide)
      · exact Or.inr (Or.inr ⟨other, List.mem_cons_of_mem byte later, own⟩)

/-- When the bytes end with one that is not ASCII, so do the characters. -/
theorem Step.exists_last {byte : UInt8} {after : Decoder} (step : Step decoder byte after)
    (large : 0x80 ≤ byte.toNat) :
    ∃ chars char, after.finish.chars.toList = chars ++ [char] ∧ Wide char := by
  cases step with
  | ascii small => omega
  | ends _ wide => exact ⟨_, _, Array.toList_push, wide⟩
  | flawed => exact ⟨_, _, Array.toList_push, wide_replacement⟩
  | begins _ inside | goesOn _ inside =>
      rw [finish_of_owed inside.owed]
      exact ⟨_, _, Array.toList_push, wide_replacement⟩

/-- A decoder that has read some characters before but otherwise stands where another one does. -/
structure Behind (before : List Char) (decoder other : Decoder) : Prop where
  chars : decoder.chars.toList = before ++ other.chars.toList
  owed : decoder.owed = other.owed
  low : other.owed ≠ 0 → decoder.low = other.low
  high : other.owed ≠ 0 → decoder.high = other.high
  value : other.owed ≠ 0 → decoder.value = other.value

namespace Behind

variable {before : List Char} {other : Decoder}

theorem ite {condition : Prop} [Decidable condition] {elseDecoder elseOther : Decoder}
    (yes : Behind before decoder other) (no : Behind before elseDecoder elseOther) :
    Behind before (if condition then decoder else elseDecoder)
      (if condition then other else elseOther) := by
  split
  · exact yes
  · exact no

variable (behind : Behind before decoder other)

include behind

theorem emit (char : Char) : Behind before (decoder.emit char) (other.emit char) :=
  ⟨by simp [Decoder.emit, behind.chars], rfl, fun owed => absurd rfl owed,
    fun owed => absurd rfl owed, fun owed => absurd rfl owed⟩

theorem flaw : Behind before decoder.flaw other.flaw := by
  obtain ⟨chars, owed, low, high, value⟩ := behind.emit replacement
  exact ⟨chars, owed, low, high, value⟩

theorem await (owed low high value : Nat) :
    Behind before (decoder.await owed low high value) (other.await owed low high value) :=
  ⟨behind.chars, rfl, fun _ => rfl, fun _ => rfl, fun _ => rfl⟩

theorem begin (byte : UInt8) : Behind before (decoder.begin byte) (other.begin byte) := by
  apply ite (behind.emit _)
  apply ite behind.flaw
  repeat apply ite (behind.await _ _ _ _)
  exact behind.flaw

theorem step (byte : UInt8) : Behind before (decoder.step byte) (other.step byte) := by
  unfold Decoder.step
  rw [behind.owed]
  by_cases between : other.owed = 0
  · rw [if_pos between, if_pos between]
    exact behind.begin byte
  · rw [if_neg between, if_neg between, behind.low between, behind.high between,
      behind.value between]
    dsimp only
    split
    · split
      · exact behind.emit _
      · exact behind.await _ _ _ _
    · exact behind.flaw.begin byte

theorem finish : Behind before decoder.finish other.finish := by
  unfold Decoder.finish
  rw [behind.owed]
  split
  · exact behind
  · exact behind.flaw

theorem foldl (bytes : List UInt8) :
    Behind before (bytes.foldl Decoder.step decoder) (bytes.foldl Decoder.step other) := by
  induction bytes generalizing decoder other with
  | nil => exact behind
  | cons byte bytes inductionHypothesis => exact inductionHypothesis (behind.step byte)

end Behind

end Decoder

/-- The characters of some bytes. -/
def charsOf (bytes : List UInt8) : List Char :=
  (Decoder.run bytes).chars.toList

theorem decodeLossy_eq (bytes : List UInt8) : decodeLossy bytes = String.ofList (charsOf bytes) :=
  rfl

theorem toList_decodeLossy (bytes : List UInt8) : (decodeLossy bytes).toList = charsOf bytes :=
  String.toList_ofList

/-- An ASCII byte stands for itself and separates what is before it from what is behind it. -/
theorem charsOf_append_ascii (first second : List UInt8) {byte : UInt8}
    (ascii : byte.toNat < 0x80) :
    charsOf (first ++ byte :: second) =
      charsOf first ++ Char.ofNat byte.toNat :: charsOf second := by
  have fine := Decoder.foldl_step_fine Decoder.start_fine first
  have behind : Decoder.Behind (charsOf first ++ [Char.ofNat byte.toNat])
      ((Decoder.run first).emit (Char.ofNat byte.toNat)) Decoder.start :=
    ⟨by simp [Decoder.emit, Decoder.start, charsOf], rfl, nofun, nofun, nofun⟩
  have chars := (behind.foldl second).finish.chars
  rw [charsOf, Decoder.run, List.foldl_append, List.foldl_cons, Decoder.step_ascii fine ascii]
  rw [List.append_assoc, List.singleton_append] at chars
  exact chars

theorem charsOf_nil : charsOf [] = [] :=
  rfl

theorem charsOf_append_singleton (bytes : List UInt8) {byte : UInt8} (ascii : byte.toNat < 0x80) :
    charsOf (bytes ++ [byte]) = charsOf bytes ++ [Char.ofNat byte.toNat] :=
  charsOf_append_ascii bytes [] ascii

theorem exists_wide_last (bytes : List UInt8) {byte : UInt8} (large : 0x80 ≤ byte.toNat) :
    ∃ chars char, charsOf (bytes ++ [byte]) = chars ++ [char] ∧ Wide char := by
  have fine := Decoder.foldl_step_fine Decoder.start_fine bytes
  have last := (Decoder.step_step fine byte).exists_last large
  rwa [charsOf, Decoder.run, List.foldl_append, List.foldl_cons, List.foldl_nil]

theorem charsOf_eq_nil_iff {bytes : List UInt8} : charsOf bytes = [] ↔ bytes = [] := by
  refine ⟨fun none => ?_, fun none => none ▸ charsOf_nil⟩
  rcases List.eq_nil_or_concat bytes with empty | ⟨earlier, last, rfl⟩
  · exact empty
  rw [List.concat_eq_append] at none
  rcases Nat.lt_or_ge last.toNat 0x80 with ascii | large
  · rw [charsOf_append_singleton earlier ascii] at none
    simp at none
  · obtain ⟨chars, char, read, -⟩ := exists_wide_last earlier large
    rw [read] at none
    simp at none

/-- An ASCII character comes from its byte. -/
theorem mem_of_mem_charsOf {bytes : List UInt8} {byte : UInt8} (visible : 0 < byte.toNat)
    (ascii : byte.toNat < 0x80) (read : Char.ofNat byte.toNat ∈ charsOf bytes) :
    byte ∈ bytes := by
  have code := toNat_ofNat_ascii ascii
  have narrow : ¬ Wide (Char.ofNat byte.toNat) := by
    intro wide
    have range := wide.toNat_eq_zero_or
    omega
  have run := (Decoder.mem_finish read).resolve_right narrow
  rcases Decoder.mem_foldl_step Decoder.start_fine run with before | wide | ⟨other, membership, own⟩
  · cases before
  · exact absurd wide narrow
  · have same := congrArg Char.toNat own.2
    rw [code, toNat_ofNat_ascii own.1] at same
    exact UInt8.toNat_inj.mp same ▸ membership

end Utf8

end Rendezvous
