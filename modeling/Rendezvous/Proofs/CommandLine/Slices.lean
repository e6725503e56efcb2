import Mathlib.Algebra.GroupWithZero.Nat
import Mathlib.Data.List.TakeWhile
import Rendezvous.ArgSlice
import Rendezvous.Proofs.CommandLine.Quoting
import Rendezvous.Proofs.Text.Cutting

/-!
Slices of the trailing arguments: how they are written and what they select.

A slice is written as two numbers around the first colon, with white space around each
of them.  A number is made of ASCII digits, with a plus sign before them or not.  What a
slice selects is told by its ends as unbounded numbers; to compute them in 64 bits, and
to give up when they do not fit, comes to the same.
-/

set_option autoImplicit false

namespace Rendezvous

universe u

namespace Text

/-- A text is some part of it with white space before and after. -/
def Surrounds (text part : List Char) : Prop :=
  ∃ before after, (∀ char ∈ before, isBlank char = true) ∧
    (∀ char ∈ after, isBlank char = true) ∧ text = before ++ part ++ after

theorem surrounds_trim (text : List Char) : Surrounds text (trim text) := by
  let rest := trimStart text
  refine ⟨text.takeWhile isBlank, (rest.reverse.takeWhile isBlank).reverse, ?_, ?_, ?_⟩
  · intro char membership
    exact List.mem_takeWhile_imp membership
  · intro char membership
    exact List.mem_takeWhile_imp (List.mem_reverse.mp membership)
  · have back : trim text ++ (rest.reverse.takeWhile isBlank).reverse = rest := by
      rw [trim, trimStart, ← List.reverse_append, List.takeWhile_append_dropWhile,
        List.reverse_reverse]
    rw [List.append_assoc, back]
    exact List.takeWhile_append_dropWhile.symm

theorem trimStart_append {blanks : List Char} (blank : ∀ char ∈ blanks, isBlank char = true)
    {rest : List Char} (begins : ∀ char, rest.head? = some char → isBlank char = false) :
    trimStart (blanks ++ rest) = rest := by
  rw [trimStart, List.dropWhile_append_of_pos blank]
  cases rest with
  | nil => rfl
  | cons char rest => rw [List.dropWhile_cons_of_neg (by simp [begins char rfl])]

/-- White space around a text without blanks is all that is trimmed. -/
theorem trim_of_surrounds {text part : List Char} (surrounds : Surrounds text part)
    (nonempty : part ≠ []) (plain : ∀ char ∈ part, isBlank char = false) :
    trim text = part := by
  obtain ⟨before, after, early, late, rfl⟩ := surrounds
  have front : trimStart (before ++ part ++ after) = part ++ after := by
    rw [List.append_assoc]
    apply trimStart_append early
    intro char first
    rw [List.head?_append, List.head?_eq_some_head nonempty, Option.some_or] at first
    cases first
    exact plain _ (List.head_mem nonempty)
  have back : trimStart (part ++ after).reverse = part.reverse := by
    rw [List.reverse_append]
    apply trimStart_append
    · intro char membership
      exact late char (List.mem_reverse.mp membership)
    · intro char first
      exact plain char (List.mem_reverse.mp (List.mem_of_head? first))
  rw [trim, front, back, List.reverse_reverse]

end Text

namespace Decimal

/-- One ASCII digit or more, with this value. -/
structure Digits (digits : List Char) (value : Nat) : Prop where
  nonempty : digits ≠ []
  ascii : ∀ char ∈ digits, char.isDigit = true
  value : Nat.ofDigitChars 10 digits 0 = value

/-- Digits, with a plus sign before them or not. -/
def Number (text : List Char) (value : Nat) : Prop :=
  ∃ digits, (text = digits ∨ text = '+' :: digits) ∧ Digits digits value

theorem isDigit_eq (char : Char) : isDigit char = char.isDigit := by
  simp [isDigit, Char.isDigit, Char.le_def, UInt32.le_iff_toNat_le]

theorem readDigits?_eq_some_iff {text : List Char} {value : Nat} :
    readDigits? text = some value ↔ Digits text value := by
  unfold readDigits?
  simp only [List.all_eq_true, isDigit_eq, Option.ite_none_right_eq_some, Option.some.injEq]
  constructor
  · rintro ⟨⟨nonempty, ascii⟩, same⟩
    exact ⟨nonempty, ascii, same⟩
  · rintro ⟨nonempty, ascii, same⟩
    exact ⟨⟨nonempty, ascii⟩, same⟩

theorem Digits.head_ne_plus {digits rest : List Char} {value : Nat}
    (written : Digits digits value) : digits ≠ '+' :: rest := by
  rintro rfl
  have digit := written.ascii '+' List.mem_cons_self
  exact absurd digit (by decide)

theorem readNat?_eq_some_iff {bound : Nat} {text : List Char} {value : Nat} :
    readNat? bound text = some value ↔ Number text value ∧ value < bound := by
  unfold readNat?
  simp only [Option.filter_eq_some_iff, readDigits?_eq_some_iff, decide_eq_true_eq]
  apply and_congr_left
  intro _
  constructor
  · intro written
    split at written
    · next rest => exact ⟨rest, Or.inr rfl, written⟩
    · exact ⟨text, Or.inl rfl, written⟩
  · rintro ⟨digits, rfl | rfl, written⟩
    · split
      · next rest => exact absurd rfl written.head_ne_plus
      · exact written
    · exact written

theorem Number.nonempty {text : List Char} {value : Nat} (number : Number text value) :
    text ≠ [] := by
  obtain ⟨digits, rfl | rfl, written⟩ := number
  · exact written.nonempty
  · exact List.cons_ne_nil _ _

theorem isBlank_of_isDigit {char : Char} (digit : char.isDigit = true) :
    Text.isBlank char = false := by
  apply Text.isBlank_eq_false_of_isAlphanum
  rw [Char.isAlphanum, digit, Bool.or_true]

theorem Number.plain {text : List Char} {value : Nat} (number : Number text value) :
    ∀ char ∈ text, Text.isBlank char = false := by
  intro char membership
  obtain ⟨digits, rfl | rfl, written⟩ := number
  · exact isBlank_of_isDigit (written.ascii char membership)
  · rcases List.mem_cons.mp membership with rfl | later
    · decide
    · exact isBlank_of_isDigit (written.ascii char later)

theorem digits_toDigits (value : Nat) : Digits (Nat.toDigits 10 value) value where
  nonempty := Nat.toDigits_ne_nil
  ascii _ membership := Nat.isDigit_of_mem_toDigits (by decide) (by decide) membership
  value := Nat.ofDigitChars_toDigits (by decide) (by decide)

end Decimal

namespace ArgSlice

/-- A text that is a number once white space is trimmed from it. -/
def Field (text : List Char) (value : Nat) : Prop :=
  ∃ number, Text.Surrounds text number ∧ Decimal.Number number value

/-- Two fields around the first colon of a text. -/
def Spells (text : String) (start count : Nat) : Prop :=
  ∃ before after, text.toList = before ++ ':' :: after ∧ ':' ∉ before ∧
    Field before start ∧ Field after count

theorem readField?_eq_some_iff {text : List Char} {number : UInt64} :
    readField? text = some number ↔ Field text number.toNat := by
  unfold readField?
  simp only [Option.map_eq_some_iff, Decimal.readNat?_eq_some_iff]
  constructor
  · rintro ⟨value, ⟨written, small⟩, rfl⟩
    rw [Field, UInt64.toNat_ofNat_of_lt' small]
    exact ⟨_, Text.surrounds_trim text, written⟩
  · rintro ⟨part, surrounds, written⟩
    refine ⟨number.toNat, ⟨?_, number.toNat_lt⟩, UInt64.ofNat_toNat⟩
    rw [Text.trim_of_surrounds surrounds written.nonempty written.plain]
    exact written

theorem read_eq_ok_iff {text : String} {slice : ArgSlice} :
    read text = .ok slice ↔ Spells text slice.start.toNat slice.count.toNat := by
  constructor
  · intro done
    unfold read at done
    split at done
    · cases done
    · next before after cut =>
        split at done
        · cases done
        · cases done
        · next start count first second =>
            cases done
            obtain ⟨whole, absent⟩ := Text.cutAt?_eq_some cut
            exact ⟨before, after, whole, absent, readField?_eq_some_iff.mp first,
              readField?_eq_some_iff.mp second⟩
  · rintro ⟨before, after, whole, absent, first, second⟩
    have cut := Text.cutAt?_append_cons absent after
    rw [← whole] at cut
    simp only [read, cut, readField?_eq_some_iff.mpr first, readField?_eq_some_iff.mpr second]

theorem exists_read_iff {text : String} :
    (∃ slice, read text = .ok slice) ↔
      ∃ start count, start < 2 ^ 64 ∧ count < 2 ^ 64 ∧ Spells text start count := by
  simp only [read_eq_ok_iff]
  constructor
  · rintro ⟨slice, spells⟩
    exact ⟨_, _, slice.start.toNat_lt, slice.count.toNat_lt, spells⟩
  · rintro ⟨start, count, startFits, countFits, spells⟩
    refine ⟨⟨.ofNat start, .ofNat count⟩, ?_⟩
    rw [UInt64.toNat_ofNat_of_lt' startFits, UInt64.toNat_ofNat_of_lt' countFits]
    exact spells

theorem field_toDigits (value : Nat) : Field (Nat.toDigits 10 value) value :=
  ⟨_, ⟨[], [], List.forall_mem_nil _, List.forall_mem_nil _, (List.append_nil _).symm⟩,
    _, Or.inl rfl, Decimal.digits_toDigits value⟩

theorem read_display (slice : ArgSlice) : read slice.display = .ok slice := by
  apply read_eq_ok_iff.mpr
  refine ⟨Nat.toDigits 10 slice.start.toNat, Nat.toDigits 10 slice.count.toNat, ?_, ?_,
    field_toDigits _, field_toDigits _⟩
  · simp [display, toString, Nat.toList_repr]
  · intro colon
    have digit := (Decimal.digits_toDigits slice.start.toNat).ascii ':' colon
    exact absurd digit (by decide)

section

variable {α : Type u}

/-- What is selected is what stands between so many arguments and the rest. -/
theorem select?_eq_some_iff {slice : ArgSlice} {tail part : List α} :
    slice.select? tail = some part ↔
      ∃ before after, tail = before ++ part ++ after ∧ before.length = slice.start.toNat ∧
        part.length = slice.count.toNat := by
  unfold select? stop
  constructor
  · intro selected
    split at selected
    · next inside =>
        cases selected
        refine ⟨tail.take slice.start.toNat,
          (tail.drop slice.start.toNat).drop slice.count.toNat, ?_, ?_, ?_⟩
        · rw [List.append_assoc, List.take_append_drop, List.take_append_drop]
        · rw [List.length_take]
          omega
        · rw [List.length_take, List.length_drop]
          omega
    · cases selected
  · rintro ⟨before, after, rfl, starts, counts⟩
    have inside : slice.start.toNat + slice.count.toNat ≤ (before ++ part ++ after).length := by
      simp only [List.length_append]
      omega
    rw [if_pos inside, ← starts, ← counts, List.append_assoc, List.drop_left, List.take_left]

theorem select?_isSome_iff {slice : ArgSlice} {tail : List α} :
    (slice.select? tail).isSome = true ↔
      slice.start.toNat + slice.count.toNat ≤ tail.length := by
  unfold select? stop
  split <;> simp_all

/-- The end of the slice in 64 bits, if it fits them. -/
def wordStop? (slice : ArgSlice) : Option UInt64 :=
  if slice.start + slice.count < slice.start then none else some (slice.start + slice.count)

/-- The arguments from one position to another, if there are so many. -/
def between? (tail : List α) (start stop : UInt64) : Option (List α) :=
  if start ≤ stop ∧ stop.toNat ≤ tail.length then some (tail.extract start.toNat stop.toNat)
  else none

theorem wordStop?_eq (slice : ArgSlice) :
    slice.wordStop? = if slice.stop < 2 ^ 64 then some (.ofNat slice.stop) else none := by
  have first := slice.start.toNat_lt
  have second := slice.count.toNat_lt
  have wraps : slice.start + slice.count < slice.start ↔ ¬ slice.stop < 2 ^ 64 := by
    rw [UInt64.lt_iff_toNat_lt, UInt64.toNat_add, stop]
    omega
  have same : slice.start + slice.count = .ofNat slice.stop := by simp [stop]
  unfold wordStop?
  by_cases fits : slice.stop < 2 ^ 64
  · rw [if_neg (not_not.mpr fits ∘ wraps.mp), if_pos fits, same]
  · rw [if_pos (wraps.mpr fits), if_neg fits]

/-- In 64 bits, where so many arguments can be counted, the same are selected. -/
theorem select?_eq_bind {slice : ArgSlice} {tail : List α} (counted : tail.length < 2 ^ 64) :
    slice.select? tail = slice.wordStop?.bind (between? tail slice.start) := by
  rw [wordStop?_eq, select?]
  by_cases fits : slice.stop < 2 ^ 64
  · have stop := UInt64.toNat_ofNat_of_lt' fits
    have order : slice.start ≤ .ofNat slice.stop := by
      rw [UInt64.le_iff_toNat_le, stop]
      exact Nat.le_add_right _ _
    rw [if_pos fits, Option.bind_some, between?, stop]
    simp only [order, true_and, List.extract_eq_take_drop]
    rw [ArgSlice.stop, Nat.add_sub_cancel_left]
  · rw [if_neg fits, if_neg (by omega)]
    rfl

theorem select?_all {tail : List α} (counted : tail.length < 2 ^ 64) :
    (all tail.length).select? tail = some tail := by
  apply select?_eq_some_iff.mpr
  exact ⟨[], [], by simp, rfl, (UInt64.toNat_ofNat_of_lt' counted).symm⟩

end

/--
A text is read as a slice exactly if it is two numbers below 2^64 around its first colon,
white space around each of them aside, and as no other slice than the one of these numbers;
the text of a slice is read as that slice.  A slice selects arguments exactly if it ends
within them, its ends being unbounded numbers: then so many of them from its start on.  If
the arguments are as many as 64 bits can count, a slice whose end does not fit 64 bits
selects nothing, and the slice of all of them selects them all.
-/
theorem reads_numbers_selects_part (α : Type u) :
    (∀ text, (∃ slice, read text = .ok slice) ↔
      ∃ start count, start < 2 ^ 64 ∧ count < 2 ^ 64 ∧ Spells text start count) ∧
    (∀ text slice, read text = .ok slice ↔
      Spells text slice.start.toNat slice.count.toNat) ∧
    (∀ slice : ArgSlice, read slice.display = .ok slice) ∧
    ∀ tail : List α,
      (∀ slice : ArgSlice, (slice.select? tail).isSome = true ↔
        slice.start.toNat + slice.count.toNat ≤ tail.length) ∧
      (∀ (slice : ArgSlice) (part : List α), slice.select? tail = some part ↔
        ∃ before after, tail = before ++ part ++ after ∧ before.length = slice.start.toNat ∧
          part.length = slice.count.toNat) ∧
      (tail.length < 2 ^ 64 →
        (∀ slice : ArgSlice,
          slice.select? tail = slice.wordStop?.bind (between? tail slice.start)) ∧
        (all tail.length).select? tail = some tail) := by
  refine ⟨fun text => exists_read_iff, fun text slice => read_eq_ok_iff, read_display, ?_⟩
  intro tail
  refine ⟨fun slice => select?_isSome_iff, fun slice part => select?_eq_some_iff, ?_⟩
  intro counted
  exact ⟨fun slice => select?_eq_bind counted, select?_all counted⟩

/-- A slice whose end would wrap around to a position inside selects nothing. -/
theorem wrapping_selects_nothing :
    let slice : ArgSlice := ⟨.ofNat (2 ^ 64 - 1), 2⟩
    let tail := ["one", "two", "three"]
    tail.length < 2 ^ 64 ∧ (slice.start + slice.count).toNat ≤ tail.length ∧
      slice.wordStop? = none ∧ slice.select? tail = none ∧
      (all tail.length).select? tail = some tail := by
  intro slice tail
  obtain ⟨-, -, -, each⟩ := reads_numbers_selects_part String
  obtain ⟨-, -, inWords⟩ := each tail
  have counted : tail.length < 2 ^ 64 := by decide
  obtain ⟨same, whole⟩ := inWords counted
  have outside : slice.wordStop? = none := by decide
  refine ⟨counted, by decide, outside, ?_, whole⟩
  rw [same, outside]
  rfl

end ArgSlice

end Rendezvous
