import Mathlib
import Rendezvous.Json

/-!
The text of a JSON value tells the value.

The first character tells the kind of a value, and nothing that can follow a value
continues its text.  So two texts that go on differently may be compared piece by piece,
and equal texts come from equal values.  Numbers with a fraction are left out here: their
text is that of null if they are not finite.
-/

set_option autoImplicit false

namespace Rendezvous

namespace Json

/-- The characters that are escaped. -/
def escaped : List Char :=
  '"' :: '\\' :: (List.range 0x20).map Char.ofNat

theorem escape_of_not_mem {char : Char} (plain : char ∉ escaped) : escape char = [char] := by
  simp only [escaped, List.mem_cons, not_or, List.mem_map, List.mem_range, not_exists, not_and]
    at plain
  obtain ⟨quote, backslash, control⟩ := plain
  have visible : ¬ char.toNat < 0x20 := fun low => control char.toNat low (Char.ofNat_toNat char)
  have other : ∀ code : Char, code.toNat < 0x20 → char ≠ code := by
    rintro code low rfl
    exact visible low
  rw [escape, if_neg quote, if_neg backslash, if_neg (other '\x08' (by decide)),
    if_neg (other '\t' (by decide)), if_neg (other '\n' (by decide)),
    if_neg (other '\x0c' (by decide)), if_neg (other '\r' (by decide)), if_neg visible]

/-- No escape begins another one. -/
theorem escaped_apart {first second : Char} (special : first ∈ escaped) (also : second ∈ escaped)
    (begins : escape first <+: escape second) : first = second := by
  have all : (escaped.all fun first => escaped.all fun second =>
      !(escape first).isPrefixOf (escape second) || first == second) = true := by
    decide +kernel
  have pair := List.all_eq_true.mp (List.all_eq_true.mp all first special) second also
  simpa [List.isPrefixOf_iff_prefix.mpr begins] using pair

theorem exists_escape {char : Char} (special : char ∈ escaped) :
    ∃ more, escape char = '\\' :: more := by
  have all : (escaped.all fun char => (escape char).head? == some '\\') = true := by
    decide +kernel
  have begins := List.all_eq_true.mp all char special
  exact List.head?_eq_some_iff.mp (beq_iff_eq.mp begins)

theorem escape_cancel {first second : Char} {rest more : List Char}
    (same : escape first ++ rest = escape second ++ more) : first = second ∧ rest = more := by
  have chars : first = second := by
    by_cases special : first ∈ escaped <;> by_cases other : second ∈ escaped
    · have inside : escape first <+: escape second ++ more := ⟨rest, same⟩
      rcases List.prefix_or_prefix_of_prefix inside (List.prefix_append _ _) with before | before
      · exact escaped_apart special other before
      · exact (escaped_apart other special before).symm
    · obtain ⟨code, begins⟩ := exists_escape special
      rw [begins, escape_of_not_mem other] at same
      obtain rfl : '\\' = second := (List.cons.inj same).1
      exact absurd (by decide : '\\' ∈ escaped) other
    · obtain ⟨code, begins⟩ := exists_escape other
      rw [begins, escape_of_not_mem special] at same
      obtain rfl : first = '\\' := (List.cons.inj same).1
      exact absurd (by decide : '\\' ∈ escaped) special
    · rw [escape_of_not_mem special, escape_of_not_mem other] at same
      exact (List.cons.inj same).1
  subst chars
  exact ⟨rfl, List.append_cancel_left same⟩

/-- A quote inside a string is escaped, so no character begins with the end of a string. -/
theorem escape_ne_quote (char : Char) (rest more : List Char) :
    escape char ++ rest ≠ '"' :: more := by
  intro same
  by_cases special : char ∈ escaped
  · obtain ⟨code, begins⟩ := exists_escape special
    rw [begins] at same
    exact absurd (List.cons.inj same).1 (by decide)
  · rw [escape_of_not_mem special] at same
    obtain rfl : char = '"' := (List.cons.inj same).1
    exact special (by decide)

theorem flatMap_escape_cancel {first second rest more : List Char}
    (same : first.flatMap escape ++ '"' :: rest = second.flatMap escape ++ '"' :: more) :
    first = second ∧ rest = more := by
  induction first generalizing second with
  | nil =>
      cases second with
      | nil => exact ⟨rfl, (List.cons.inj same).2⟩
      | cons char second =>
          rw [List.flatMap_cons, List.append_assoc] at same
          exact absurd same.symm (escape_ne_quote char _ _)
  | cons char first inductionHypothesis =>
      cases second with
      | nil =>
          rw [List.flatMap_cons, List.append_assoc] at same
          exact absurd same (escape_ne_quote char _ _)
      | cons other second =>
          rw [List.flatMap_cons, List.flatMap_cons, List.append_assoc, List.append_assoc] at same
          obtain ⟨rfl, tail⟩ := escape_cancel same
          obtain ⟨rfl, rests⟩ := inductionHypothesis tail
          exact ⟨rfl, rests⟩

theorem toList_quote (text : String) :
    (quote text).toList = '"' :: (text.toList.flatMap escape ++ ['"']) := by
  rw [quote, String.toList_ofList, List.cons_append]

theorem quote_cancel {first second : String} {rest more : List Char}
    (same : (quote first).toList ++ rest = (quote second).toList ++ more) :
    first = second ∧ rest = more := by
  rw [toList_quote, toList_quote, List.cons_append, List.cons_append, List.append_assoc,
    List.append_assoc] at same
  obtain ⟨chars, rests⟩ := flatMap_escape_cancel (List.cons.inj same).2
  exact ⟨String.toList_inj.mp chars, rests⟩

/-- What an integer is written with. -/
def isNumeral (char : Char) : Bool :=
  char = '-' || char.isDigit

theorem isNumeral_of_mem_toString {value : Int} {char : Char}
    (membership : char ∈ (toString value).toList) : isNumeral char = true := by
  have digits : ∀ number : Nat, char ∈ number.repr.toList → isNumeral char = true := by
    intro number inside
    rw [Nat.toList_repr] at inside
    rw [isNumeral, Nat.isDigit_of_mem_toDigits (by decide) (by decide) inside, Bool.or_true]
  rw [Int.toString_eq_repr, Int.repr_eq_if] at membership
  split at membership
  · exact digits _ membership
  · rw [String.toList_append] at membership
    rcases List.mem_append.mp membership with sign | number
    · obtain rfl : char = '-' := by simpa using sign
      rfl
    · exact digits _ number

theorem exists_toString (value : Int) :
    ∃ char more, (toString value).toList = char :: more ∧ isNumeral char = true := by
  cases letters : (toString value).toList with
  | nil =>
      have read := Int.toInt?_repr value
      rw [← Int.toString_eq_repr, String.toList_eq_nil_iff.mp letters] at read
      exact absurd read (by cbv; exact nofun)
  | cons char more =>
      have inside : char ∈ (toString value).toList := letters ▸ List.mem_cons_self
      exact ⟨char, more, rfl, isNumeral_of_mem_toString inside⟩

/-- What can follow a value in a document: nothing, the next value, or a new line. -/
def Follows (rest : List Char) : Prop :=
  ∀ char, rest.head? = some char → char = ',' ∨ char = '\n'

theorem takeWhile_isNumeral {value : Int} {rest : List Char} (follows : Follows rest) :
    ((toString value).toList ++ rest).takeWhile isNumeral = (toString value).toList := by
  have ends : rest.takeWhile isNumeral = [] := by
    cases rest with
    | nil => rfl
    | cons char rest => rcases follows char rfl with rfl | rfl <;> rfl
  rw [List.takeWhile_append_of_pos fun char inside => isNumeral_of_mem_toString inside, ends,
    List.append_nil]

theorem toString_cancel {first second : Int} {rest more : List Char} (follows : Follows rest)
    (also : Follows more)
    (same : (toString first).toList ++ rest = (toString second).toList ++ more) :
    first = second ∧ rest = more := by
  have texts := congrArg (List.takeWhile isNumeral) same
  rw [takeWhile_isNumeral follows, takeWhile_isNumeral also] at texts
  rw [texts] at same
  refine ⟨?_, List.append_cancel_left same⟩
  exact Int.repr_injective (String.toList_inj.mp texts)

/-- A value without a number that may have a fraction. -/
inductive Plain : Json → Prop where
  | null : Plain .null
  | boolean (value : Bool) : Plain (.boolean value)
  | integer (value : Int) : Plain (.integer value)
  | text (value : String) : Plain (.text value)
  | array {items : List Json} (all : ∀ item ∈ items, Plain item) : Plain (.array items)
  | object {members : List (String × Json)} (all : ∀ member ∈ members, Plain member.2) :
      Plain (.object members)

/-- A character that stands for all with which a value of this kind can begin. -/
def kind : Json → Char
  | .null => 'n'
  | .boolean _ => 't'
  | .integer _ | .number _ => '0'
  | .text _ => '"'
  | .array _ => '['
  | .object _ => '\x7b'

/-- The kind of a value that begins with a character. -/
def kindOf (char : Char) : Char :=
  if isNumeral char then '0' else if char = 'f' then 't' else char

theorem toList_lineBreak (depth : Nat) :
    (lineBreak depth).toList = '\n' :: List.replicate (2 * depth) ' ' := by
  simp [lineBreak]

/-- The entries of a container, one on each line. -/
def container {α : Type} (opening closing : Char) (depth : Nat) (entry : α → List Char) :
    List α → List Char
  | [] => [opening, closing]
  | item :: items =>
      opening :: ((lineBreak (depth + 1)).toList ++ (entry item ++
        (items.flatMap (fun item => ',' :: ((lineBreak (depth + 1)).toList ++ entry item)) ++
          ((lineBreak depth).toList ++ [closing]))))

/-- A member of an object. -/
def memberText (depth : Nat) (member : String × Json) : List Char :=
  (quote member.1).toList ++ ':' :: ' ' :: (render depth member.2).toList

theorem toList_renderItems (depth : Nat) (items : List Json) :
    (renderItems depth items).toList = items.flatMap fun item =>
      ',' :: ((lineBreak depth).toList ++ (render depth item).toList) := by
  induction items with
  | nil => rw [renderItems]; rfl
  | cons item items inductionHypothesis =>
      simp [renderItems, inductionHypothesis]

theorem toList_renderMembers (depth : Nat) (members : List (String × Json)) :
    (renderMembers depth members).toList = members.flatMap fun member =>
      ',' :: ((lineBreak depth).toList ++ memberText depth member) := by
  induction members with
  | nil => rw [renderMembers]; rfl
  | cons member members inductionHypothesis =>
      simp [renderMembers, inductionHypothesis, memberText]

theorem toList_array (depth : Nat) (items : List Json) :
    (render depth (.array items)).toList =
      container '[' ']' depth (fun item => (render (depth + 1) item).toList) items := by
  cases items with
  | nil => rw [render]; rfl
  | cons item items => simp [render, container, toList_renderItems]

theorem toList_object (depth : Nat) (members : List (String × Json)) :
    (render depth (.object members)).toList =
      container '\x7b' '\x7d' depth (memberText (depth + 1)) members := by
  cases members with
  | nil => rw [render]; rfl
  | cons member members =>
      simp [render, container, toList_renderMembers, memberText]

theorem container_begins {α : Type} (opening closing : Char) (depth : Nat)
    (entry : α → List Char) (items : List α) :
    ∃ more, container opening closing depth entry items = opening :: more := by
  cases items <;> exact ⟨_, rfl⟩

/-- The first character of a text tells the kind of the value. -/
theorem Plain.exists_first {value : Json} (plain : Plain value) (depth : Nat) :
    ∃ char more, (render depth value).toList = char :: more ∧ kindOf char = value.kind := by
  cases plain with
  | null => exact ⟨_, _, by rw [render]; rfl, rfl⟩
  | boolean value => cases value <;> exact ⟨_, _, by rw [render]; rfl, rfl⟩
  | integer value =>
      obtain ⟨char, more, letters, numeral⟩ := exists_toString value
      exact ⟨char, more, by rw [render, letters], if_pos numeral⟩
  | text value => exact ⟨_, _, by rw [render, toList_quote], rfl⟩
  | @array items all =>
      obtain ⟨more, begins⟩ := container_begins '[' ']' depth _ items
      exact ⟨_, _, (toList_array depth items).trans begins, rfl⟩
  | @object members all =>
      obtain ⟨more, begins⟩ := container_begins '\x7b' '\x7d' depth _ members
      exact ⟨_, _, (toList_object depth members).trans begins, rfl⟩

theorem Plain.kind_eq {value other : Json} (plain : Plain value) (also : Plain other)
    {depth : Nat} {rest more : List Char}
    (same : (render depth value).toList ++ rest = (render depth other).toList ++ more) :
    value.kind = other.kind := by
  obtain ⟨first, later, begins, own⟩ := plain.exists_first depth
  obtain ⟨second, further, starts, theirs⟩ := also.exists_first depth
  rw [begins, starts] at same
  obtain rfl : first = second := (List.cons.inj same).1
  exact own.symm.trans theirs

/-- Whether two entries have the same text only if they are the same, whatever follows them. -/
def Separate {α : Type} (entry : α → List Char) (item other : α) : Prop :=
  ∀ rest more, Follows rest → Follows more →
    entry item ++ rest = entry other ++ more → item = other ∧ rest = more

section

variable {α : Type} {entry : α → List Char} (lead : List Char)

theorem follows_entries (items : List α) (rest : List Char) :
    Follows (items.flatMap (fun item => ',' :: (lead ++ entry item)) ++ '\n' :: rest) := by
  intro char first
  cases items with
  | nil => exact Or.inr (Option.some.inj first).symm
  | cons item items => exact Or.inl (Option.some.inj first).symm

theorem entries_cancel {items others : List α} {rest more : List Char}
    (separate : ∀ item ∈ items, ∀ other ∈ others, Separate entry item other)
    (same : items.flatMap (fun item => ',' :: (lead ++ entry item)) ++ '\n' :: rest =
      others.flatMap (fun item => ',' :: (lead ++ entry item)) ++ '\n' :: more) :
    items = others ∧ rest = more := by
  induction items generalizing others with
  | nil =>
      cases others with
      | nil => exact ⟨rfl, (List.cons.inj same).2⟩
      | cons other others => exact absurd (List.cons.inj same).1 (by decide)
  | cons item items inductionHypothesis =>
      cases others with
      | nil => exact absurd (List.cons.inj same).1 (by decide)
      | cons other others =>
          simp only [List.flatMap_cons, List.cons_append, List.append_assoc] at same
          have entries := List.append_cancel_left (List.cons.inj same).2
          obtain ⟨rfl, tails⟩ := separate item List.mem_cons_self other List.mem_cons_self _ _
            (follows_entries lead items rest) (follows_entries lead others more) entries
          obtain ⟨rfl, rests⟩ := inductionHypothesis
            (fun item inside other within => separate item (List.mem_cons_of_mem _ inside) other
              (List.mem_cons_of_mem _ within)) tails
          exact ⟨rfl, rests⟩

theorem container_cancel {opening closing : Char} {depth : Nat} {items others : List α}
    {rest more : List Char} (visible : closing ≠ '\n')
    (separate : ∀ item ∈ items, ∀ other ∈ others, Separate entry item other)
    (same : container opening closing depth entry items ++ rest =
      container opening closing depth entry others ++ more) :
    items = others ∧ rest = more := by
  cases items with
  | nil =>
      cases others with
      | nil => exact ⟨rfl, (List.cons.inj (List.cons.inj same).2).2⟩
      | cons other others =>
          rw [container, container, toList_lineBreak] at same
          exact absurd (List.cons.inj (List.cons.inj same).2).1 visible
  | cons item items =>
      cases others with
      | nil =>
          rw [container, container, toList_lineBreak] at same
          exact absurd (List.cons.inj (List.cons.inj same).2).1.symm visible
      | cons other others =>
          simp only [container, toList_lineBreak, List.cons_append, List.append_assoc] at same
          have entries := List.append_cancel_left (List.cons.inj (List.cons.inj same).2).2
          obtain ⟨rfl, tails⟩ := separate item List.mem_cons_self other List.mem_cons_self _ _
            (follows_entries ('\n' :: _) items _)
            (follows_entries ('\n' :: _) others _) entries
          obtain ⟨rfl, ends⟩ := entries_cancel ('\n' :: _)
            (fun item inside other within => separate item (List.mem_cons_of_mem _ inside) other
              (List.mem_cons_of_mem _ within)) tails
          exact ⟨rfl, (List.cons.inj (List.append_cancel_left ends)).2⟩

end

theorem separate_self (value : Json) (depth : Nat) :
    Separate (fun value => (render depth value).toList) value value :=
  fun _ _ _ _ same => ⟨rfl, List.append_cancel_left same⟩

theorem separate_member {depth : Nat} {member other : String × Json}
    (values : member.1 = other.1 →
      Separate (fun value => (render depth value).toList) member.2 other.2) :
    Separate (memberText depth) member other := by
  intro rest more follows follow same
  simp only [memberText, List.append_assoc, List.cons_append] at same
  obtain ⟨keys, tails⟩ := quote_cancel same
  obtain ⟨found, rests⟩ :=
    values keys rest more follows follow (List.cons.inj (List.cons.inj tails).2).2
  exact ⟨Prod.ext keys found, rests⟩

/-- The text of a plain value tells where it ends and what it is the text of. -/
theorem Plain.separate {value other : Json} (plain : Plain value) (also : Plain other)
    (depth : Nat) : Separate (fun value => (render depth value).toList) value other := by
  intro rest more follows follow same
  induction plain generalizing other depth rest more with
  | null =>
      have kinds := Plain.null.kind_eq also same
      cases also with
      | null => exact ⟨rfl, List.append_cancel_left same⟩
      | boolean | integer | text | array | object => simp [kind] at kinds
  | boolean value =>
      have kinds := (Plain.boolean value).kind_eq also same
      cases also with
      | boolean other =>
          cases value <;> cases other
          · exact ⟨rfl, List.append_cancel_left same⟩
          · simp [render] at same
          · simp [render] at same
          · exact ⟨rfl, List.append_cancel_left same⟩
      | null | integer | text | array | object => simp [kind] at kinds
  | integer value =>
      have kinds := (Plain.integer value).kind_eq also same
      cases also with
      | integer other =>
          simp only [render] at same
          obtain ⟨rfl, rests⟩ := toString_cancel follows follow same
          exact ⟨rfl, rests⟩
      | null | boolean | text | array | object => simp [kind] at kinds
  | text value =>
      have kinds := (Plain.text value).kind_eq also same
      cases also with
      | text other =>
          simp only [render] at same
          obtain ⟨rfl, rests⟩ := quote_cancel same
          exact ⟨rfl, rests⟩
      | null | boolean | integer | array | object => simp [kind] at kinds
  | @array items all inductionHypothesis =>
      have kinds := (Plain.array all).kind_eq also same
      cases also with
      | @array others too =>
          simp only [toList_array] at same
          obtain ⟨rfl, rests⟩ := container_cancel (by decide)
            (fun item inside other within => inductionHypothesis item inside (too other within) _)
            same
          exact ⟨rfl, rests⟩
      | null | boolean | integer | text | object => simp [kind] at kinds
  | @object members all inductionHypothesis =>
      have kinds := (Plain.object all).kind_eq also same
      cases also with
      | @object others too =>
          simp only [toList_object] at same
          obtain ⟨rfl, rests⟩ := container_cancel (by decide)
            (fun member inside other within => separate_member fun _ =>
              inductionHypothesis member inside (too other within) _)
            same
          exact ⟨rfl, rests⟩
      | null | boolean | integer | text | array => simp [kind] at kinds

/-- Objects with the same text are the same if values under the same key are told apart. -/
theorem object_injective {members others : List (String × Json)}
    (separate : ∀ member ∈ members, ∀ other ∈ others, member.1 = other.1 →
      Separate (fun value => (render 1 value).toList) member.2 other.2)
    (same : (Json.object members).pretty = (Json.object others).pretty) : members = others := by
  have letters := congrArg (fun text => text.toList ++ []) same
  simp only [pretty, toList_object] at letters
  exact (container_cancel (by decide) (fun member inside other within =>
    separate_member (separate member inside other within)) letters).1

end Json

end Rendezvous
