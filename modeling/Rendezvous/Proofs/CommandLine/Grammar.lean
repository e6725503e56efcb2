import Mathlib.Data.List.Basic
import Rendezvous.Proofs.Scenario.Decisions

/-!
The grammar of flags.

`Words.Reads` says which words a text consists of, piece by piece, and
`Words.Unclosed` which texts end inside a quote.  The splitter follows both, and
every text is one or the other, so it gives the words of exactly the first kind
and the open quote of exactly the second.
-/

set_option autoImplicit false

namespace Rendezvous

namespace Words

/-- What a backslash makes ordinary between double quotes. -/
def escapable : List Char := ['"', '\\', '$', '\x60']

/-- Text between double quotes, and what it means. -/
inductive Quoted : List Char → List Char → Prop where
  | nil : Quoted [] []
  | escaped {char : Char} {text meaning : List Char} (special : char ∈ escapable)
      (quoted : Quoted text meaning) : Quoted ('\\' :: char :: text) (char :: meaning)
  | backslash {char : Char} {text meaning : List Char} (literal : char ∉ escapable)
      (quoted : Quoted (char :: text) meaning) : Quoted ('\\' :: char :: text) ('\\' :: meaning)
  | ordinary {char : Char} {text meaning : List Char} (noQuote : char ≠ '"')
      (noEscape : char ≠ '\\') (quoted : Quoted text meaning) :
      Quoted (char :: text) (char :: meaning)

/-- A piece of a word, what it means, and the text behind it. -/
inductive Piece : List Char → List Char → List Char → Prop where
  | ordinary {char : Char} {rest : List Char} (noSingle : char ≠ '\'') (noDouble : char ≠ '"')
      (noEscape : char ≠ '\\') (visible : Text.isBlank char = false) : Piece [char] [char] rest
  | escaped (char : Char) {rest : List Char} : Piece ['\\', char] [char] rest
  | lastEscape : Piece ['\\'] ['\\'] []
  | single {inside rest : List Char} (plain : '\'' ∉ inside) :
      Piece ('\'' :: (inside ++ ['\''])) inside rest
  | double {text meaning rest : List Char} (quoted : Quoted text meaning) :
      Piece ('"' :: (text ++ ['"'])) meaning rest

/-- One piece or more, what they mean together, and the text behind them. -/
inductive Word : List Char → List Char → List Char → Prop where
  | last {text meaning rest : List Char} (piece : Piece text meaning rest) :
      Word text meaning rest
  | more {first second meaning others rest : List Char}
      (piece : Piece first meaning (second ++ rest)) (word : Word second others rest) :
      Word (first ++ second) (meaning ++ others) rest

/-- White space only. -/
def Blank (gap : List Char) : Prop :=
  ∀ char ∈ gap, Text.isBlank char = true

/-- No word goes on into the text: it is empty or begins with white space. -/
def Apart (rest : List Char) : Prop :=
  ∀ char ∈ rest.head?, Text.isBlank char = true

/-- The words of a text, with white space between them and perhaps around them. -/
inductive Reads : List Char → List String → Prop where
  | none {gap : List Char} (blank : Blank gap) : Reads gap []
  | word {gap text meaning rest : List Char} {words : List String} (blank : Blank gap)
      (word : Word text meaning rest) (apart : Apart rest) (others : Reads rest words) :
      Reads (gap ++ (text ++ rest)) (String.ofList meaning :: words)

/-- White space and pieces in front of the rest of a text. -/
inductive Passed : List Char → List Char → Prop where
  | nil {rest : List Char} : Passed [] rest
  | blank {char : Char} {text rest : List Char} (blank : Text.isBlank char = true)
      (passed : Passed text rest) : Passed (char :: text) rest
  | piece {first second meaning rest : List Char} (piece : Piece first meaning (second ++ rest))
      (passed : Passed second rest) : Passed (first ++ second) rest

/-- The text behind a quote that is not closed in it. -/
inductive Dangling : Char → List Char → Prop where
  | single {inside : List Char} (plain : '\'' ∉ inside) : Dangling '\'' inside
  | double {text meaning : List Char} (quoted : Quoted text meaning) : Dangling '"' text
  | lastEscape {text meaning : List Char} (quoted : Quoted text meaning) :
      Dangling '"' (text ++ ['\\'])

/-- The text ends inside a quote. -/
def Unclosed (quote : Char) (text : List Char) : Prop :=
  ∃ before inside, text = before ++ quote :: inside ∧ Passed before (quote :: inside) ∧
    Dangling quote inside

theorem isDoubleEscape_iff {char : Char} :
    Splitter.isDoubleEscape char = true ↔ char ∈ escapable := by
  simp [Splitter.isDoubleEscape, escapable, or_assoc]

theorem not_blank_of_mark {char : Char} (blank : Text.isBlank char = true) :
    char ≠ '\'' ∧ char ≠ '"' ∧ char ≠ '\\' := by
  refine ⟨?_, ?_, ?_⟩ <;> rintro rfl <;> exact absurd blank (by decide)

namespace Splitter

/-- What comes of the rest of a text. -/
def outcome (splitter : Splitter) (rest : List Char) : Except Char (List String) :=
  (rest.foldl step splitter).finish

theorem outcome_append (splitter : Splitter) (first second : List Char) :
    splitter.outcome (first ++ second) = (first.foldl step splitter).outcome second := by
  rw [outcome, outcome, List.foldl_append]

variable {words : Array String}

theorem foldl_step_single {inside : List Char} (plain : '\'' ∉ inside) (word : Array Char) :
    inside.foldl step ⟨.single, some word, words⟩ =
      ⟨.single, some (word ++ inside.toArray), words⟩ := by
  induction inside generalizing word with
  | nil => simp
  | cons char inside inductionHypothesis =>
      rw [List.mem_cons, not_or] at plain
      have taken : step ⟨.single, some word, words⟩ char =
          ⟨.single, some (word.push char), words⟩ := by
        simp [step, add, Ne.symm plain.1]
      rw [List.foldl_cons, taken, inductionHypothesis plain.2]
      simp

theorem foldl_step_quoted {text meaning : List Char} (quoted : Quoted text meaning)
    (word : Array Char) :
    text.foldl step ⟨.double, some word, words⟩ =
      ⟨.double, some (word ++ meaning.toArray), words⟩ := by
  induction quoted generalizing word with
  | nil => simp
  | @escaped char text meaning special _ inductionHypothesis =>
      have taken : step (step ⟨.double, some word, words⟩ '\\') char =
          ⟨.double, some (word.push char), words⟩ := by
        simp [step, opened, add, isDoubleEscape_iff.mpr special]
      rw [List.foldl_cons, List.foldl_cons, taken, inductionHypothesis]
      simp
  | @backslash char text meaning literal _ inductionHypothesis =>
      have quote : char ≠ '"' := by
        rintro rfl
        exact literal (by decide)
      have escape : char ≠ '\\' := by
        rintro rfl
        exact literal (by decide)
      -- the backslash is taken together with the character behind it
      have taken : step (step ⟨.double, some word, words⟩ '\\') char =
          step ⟨.double, some (word.push '\\'), words⟩ char := by
        simp [step, opened, add, isDoubleEscape_iff, literal, quote, escape]
      rw [List.foldl_cons, List.foldl_cons, taken, ← List.foldl_cons, inductionHypothesis]
      simp
  | @ordinary char text meaning noQuote noEscape _ inductionHypothesis =>
      have taken : step ⟨.double, some word, words⟩ char =
          ⟨.double, some (word.push char), words⟩ := by
        simp [step, add, noQuote, noEscape]
      rw [List.foldl_cons, taken, inductionHypothesis]
      simp

/-- Behind a single quote everything but another one is taken as it stands. -/
theorem foldl_step_openSingle {inside : List Char} (plain : '\'' ∉ inside)
    (word : Option (Array Char)) :
    ('\'' :: inside).foldl step ⟨.plain, word, words⟩ =
      ⟨.single, some (word.getD #[] ++ inside.toArray), words⟩ :=
  foldl_step_single plain (word.getD #[])

/-- Behind a double quote quoted text is taken by its meaning. -/
theorem foldl_step_openDouble {text meaning : List Char} (quoted : Quoted text meaning)
    (word : Option (Array Char)) :
    ('"' :: text).foldl step ⟨.plain, word, words⟩ =
      ⟨.double, some (word.getD #[] ++ meaning.toArray), words⟩ :=
  foldl_step_quoted quoted (word.getD #[])

/-- A piece puts its meaning into the open word, which it opens if there is none. -/
theorem outcome_piece {text meaning rest : List Char} (piece : Piece text meaning rest)
    (word : Option (Array Char)) :
    outcome ⟨.plain, word, words⟩ (text ++ rest) =
      outcome ⟨.plain, some (word.getD #[] ++ meaning.toArray), words⟩ rest := by
  cases piece with
  | ordinary noSingle noDouble noEscape visible =>
      rw [outcome_append]
      simp [step, add, noSingle, noDouble, noEscape, visible]
  | escaped char =>
      rw [outcome_append]
      simp [step, opened, add]
  | lastEscape => simp [outcome, step, opened, add, finish]
  | single plain =>
      rw [outcome_append, ← List.cons_append, List.foldl_append, foldl_step_openSingle plain]
      rfl
  | double quoted =>
      rw [outcome_append, ← List.cons_append, List.foldl_append, foldl_step_openDouble quoted]
      rfl

theorem outcome_word {text meaning rest : List Char} (read : Word text meaning rest)
    (word : Option (Array Char)) :
    outcome ⟨.plain, word, words⟩ (text ++ rest) =
      outcome ⟨.plain, some (word.getD #[] ++ meaning.toArray), words⟩ rest := by
  induction read generalizing word with
  | last piece => exact outcome_piece piece word
  | more piece _ inductionHypothesis =>
      rw [List.append_assoc, outcome_piece piece, inductionHypothesis]
      simp

theorem step_blank {char : Char} (blank : Text.isBlank char = true) (word : Option (Array Char)) :
    step ⟨.plain, word, words⟩ char = close ⟨.plain, word, words⟩ := by
  obtain ⟨single, double, escape⟩ := not_blank_of_mark blank
  simp [step, single, double, escape, blank]

theorem outcome_blank {gap : List Char} (blank : Blank gap) (rest : List Char) :
    outcome ⟨.plain, none, words⟩ (gap ++ rest) = outcome ⟨.plain, none, words⟩ rest := by
  induction gap with
  | nil => rfl
  | cons char gap inductionHypothesis =>
      obtain ⟨first, others⟩ := List.forall_mem_cons.mp blank
      rw [← inductionHypothesis others, outcome, List.cons_append, List.foldl_cons,
        step_blank first]
      rfl

/-- A word is complete when no word goes on behind it. -/
theorem outcome_apart {rest : List Char} (apart : Apart rest) (word : Array Char) :
    outcome ⟨.plain, some word, words⟩ rest =
      outcome ⟨.plain, none, words.push (String.ofList word.toList)⟩ rest := by
  cases rest with
  | nil => rfl
  | cons char rest =>
      have blank := apart char rfl
      rw [outcome, outcome, List.foldl_cons, List.foldl_cons, step_blank blank, step_blank blank]
      rfl

/-- The splitter finds the words of a text. -/
theorem outcome_reads {text : List Char} {read : List String} (reads : Reads text read) :
    outcome ⟨.plain, none, words⟩ text = .ok (words.toList ++ read) := by
  induction reads generalizing words with
  | @none gap blank =>
      rw [← List.append_nil gap, outcome_blank blank, List.append_nil]
      rfl
  | word blank read apart _ inductionHypothesis =>
      rw [outcome_blank blank, outcome_word read, outcome_apart apart, inductionHypothesis]
      simp

/-- White space and pieces leave the splitter outside all quotes. -/
theorem outcome_passed {before rest : List Char} (passed : Passed before rest)
    (word : Option (Array Char)) :
    ∃ later found, outcome ⟨.plain, word, words⟩ (before ++ rest) =
      outcome ⟨.plain, later, found⟩ rest := by
  induction passed generalizing word words with
  | nil => exact ⟨word, words, rfl⟩
  | @blank char text rest blank _ inductionHypothesis =>
      have closed : step ⟨.plain, word, words⟩ char =
          ⟨.plain, none, (close ⟨.plain, word, words⟩).words⟩ := by
        rw [step_blank blank]
        cases word <;> rfl
      rw [List.cons_append, outcome, List.foldl_cons, closed]
      exact inductionHypothesis none
  | piece piece _ inductionHypothesis =>
      rw [List.append_assoc, outcome_piece piece]
      exact inductionHypothesis _

/-- The splitter reports a quote that is not closed. -/
theorem outcome_dangling {quote : Char} {inside : List Char} (dangling : Dangling quote inside)
    (word : Option (Array Char)) :
    outcome ⟨.plain, word, words⟩ (quote :: inside) = .error quote := by
  cases dangling with
  | single plain =>
      rw [outcome, foldl_step_openSingle plain]
      rfl
  | double quoted =>
      rw [outcome, foldl_step_openDouble quoted]
      rfl
  | lastEscape quoted =>
      rw [outcome, ← List.cons_append, List.foldl_append, foldl_step_openDouble quoted]
      rfl

theorem outcome_unclosed {quote : Char} {text : List Char} (unclosed : Unclosed quote text) :
    outcome ⟨.plain, none, words⟩ text = .error quote := by
  obtain ⟨before, inside, rfl, passed, dangling⟩ := unclosed
  obtain ⟨later, found, same⟩ := outcome_passed passed none
  rw [same, outcome_dangling dangling]

end Splitter

/-- Behind a double quote text is quoted up to the next double quote or to the end. -/
theorem exists_quoted : (text : List Char) → ∃ inside meaning rest, text = inside ++ rest ∧
    Quoted inside meaning ∧ (rest = [] ∨ rest = ['\\'] ∨ ∃ later, rest = '"' :: later)
  | [] => ⟨[], [], [], rfl, .nil, .inl rfl⟩
  | char :: text => by
      by_cases quote : char = '"'
      · subst quote
        exact ⟨[], [], '"' :: text, rfl, .nil, .inr (.inr ⟨text, rfl⟩)⟩
      by_cases escape : char = '\\'
      · subst escape
        cases text with
        | nil => exact ⟨[], [], ['\\'], rfl, .nil, .inr (.inl rfl)⟩
        | cons next text =>
            by_cases special : next ∈ escapable
            · obtain ⟨inside, meaning, rest, rfl, quoted, ends⟩ := exists_quoted text
              exact ⟨_, _, rest, rfl, .escaped special quoted, ends⟩
            · obtain ⟨inside, meaning, rest, same, quoted, ends⟩ := exists_quoted (next :: text)
              cases inside with
              | nil =>
                  -- what stands behind a literal backslash does not end the quoted text
                  rw [List.nil_append] at same
                  subst same
                  rcases ends with none | last | ⟨later, next⟩
                  · cases none
                  · cases last
                    exact absurd (by decide) special
                  · cases next
                    exact absurd (by decide) special
              | cons first inside =>
                  obtain ⟨rfl, rfl⟩ := List.cons.inj same
                  exact ⟨_, _, rest, rfl, .backslash special quoted, ends⟩
      · obtain ⟨inside, meaning, rest, rfl, quoted, ends⟩ := exists_quoted text
        exact ⟨_, _, rest, rfl, .ordinary quote escape quoted, ends⟩

/-- A text that does not begin with white space begins with a piece or with an open quote. -/
theorem piece_or_dangling {char : Char} (visible : Text.isBlank char = false)
    (text : List Char) :
    (∃ first meaning rest, char :: text = first ++ rest ∧ first ≠ [] ∧
      Piece first meaning rest) ∨ Dangling char text := by
  by_cases single : char = '\''
  · subst single
    by_cases closed : '\'' ∈ text
    · obtain ⟨inside, rest, rfl, plain⟩ := List.eq_append_cons_of_mem closed
      exact .inl ⟨_, _, rest, by simp, List.cons_ne_nil _ _, .single plain⟩
    · exact .inr (.single closed)
  by_cases double : char = '"'
  · subst double
    obtain ⟨inside, meaning, rest, rfl, quoted, rfl | rfl | ⟨later, rfl⟩⟩ := exists_quoted text
    · rw [List.append_nil]
      exact .inr (.double quoted)
    · exact .inr (.lastEscape quoted)
    · exact .inl ⟨_, _, later, by simp, List.cons_ne_nil _ _, .double quoted⟩
  by_cases escape : char = '\\'
  · subst escape
    cases text with
    | nil => exact .inl ⟨_, _, [], rfl, List.cons_ne_nil _ _, .lastEscape⟩
    | cons next text => exact .inl ⟨_, _, text, rfl, List.cons_ne_nil _ _, .escaped next⟩
  · exact .inl ⟨_, _, text, rfl, List.cons_ne_nil _ _, .ordinary single double escape visible⟩

theorem Reads.cons_blank {char : Char} {text : List Char} {words : List String}
    (reads : Reads text words) (first : Text.isBlank char = true) :
    Reads (char :: text) words := by
  cases reads with
  | none blank => exact .none (List.forall_mem_cons.mpr ⟨first, blank⟩)
  | word blank word apart others =>
      rw [← List.cons_append]
      exact .word (List.forall_mem_cons.mpr ⟨first, blank⟩) word apart others

theorem Reads.cons_word {text meaning rest : List Char} {words : List String}
    (reads : Reads rest words) (word : Word text meaning rest) (apart : Apart rest) :
    Reads (text ++ rest) (String.ofList meaning :: words) := by
  rw [← List.nil_append (text ++ rest)]
  exact .word (List.forall_mem_nil _) word apart reads

/-- A piece in front of a text is a word of its own or the beginning of the first word. -/
theorem Reads.append_piece {first meaning rest : List Char} {words : List String}
    (reads : Reads rest words) (piece : Piece first meaning rest) :
    ∃ read, Reads (first ++ rest) read := by
  have alone : Apart rest → ∃ read, Reads (first ++ rest) read := fun apart =>
    ⟨_, reads.cons_word (.last piece) apart⟩
  cases reads with
  | @none gap blank =>
      refine alone fun char head => blank char (List.mem_of_mem_head? head)
  | @word gap text other rest words blank word apart others =>
      cases gap with
      | nil =>
          rw [List.nil_append, ← List.append_assoc]
          exact ⟨_, others.cons_word (.more piece word) apart⟩
      | cons char gap =>
          exact alone fun head same => Option.some.inj same ▸ blank char List.mem_cons_self

/-- Every text can be read as words, or it ends inside a quote. -/
theorem reads_or_unclosed : (text : List Char) →
    (∃ words, Reads text words) ∨ ∃ quote, Unclosed quote text
  | [] => .inl ⟨[], .none (List.forall_mem_nil _)⟩
  | char :: text => by
      cases blank : Text.isBlank char with
      | true =>
          rcases reads_or_unclosed text with ⟨words, reads⟩ |
            ⟨quote, before, inside, rfl, passed, dangling⟩
          · exact .inl ⟨words, reads.cons_blank blank⟩
          · exact .inr ⟨quote, char :: before, inside, rfl, .blank blank passed, dangling⟩
      | false =>
          rcases piece_or_dangling blank text with ⟨first, meaning, rest, same, some, piece⟩ |
            dangling
          · have shorter : rest.length < text.length + 1 := by
              have lengths := congrArg List.length same
              have positive := List.length_pos_iff.mpr some
              rw [List.length_cons, List.length_append] at lengths
              omega
            rw [same]
            rcases reads_or_unclosed rest with ⟨words, reads⟩ |
              ⟨quote, before, inside, rfl, passed, dangling⟩
            · exact .inl (reads.append_piece piece)
            · exact .inr ⟨quote, first ++ before, inside, by simp, .piece piece passed, dangling⟩
          · exact .inr ⟨char, [], text, rfl, .nil, dangling⟩
  termination_by text => text.length

theorem split_of_reads {text : String} {words : List String} (reads : Reads text.toList words) :
    split text = .ok words :=
  Splitter.outcome_reads reads

theorem split_of_unclosed {text : String} {quote : Char} (unclosed : Unclosed quote text.toList) :
    split text = .error quote :=
  Splitter.outcome_unclosed unclosed

theorem split_eq_ok_iff_reads {text : String} {words : List String} :
    split text = .ok words ↔ Reads text.toList words := by
  refine ⟨fun read => ?_, split_of_reads⟩
  rcases reads_or_unclosed text.toList with ⟨others, reads⟩ | ⟨quote, unclosed⟩
  · have same := (split_of_reads reads).symm.trans read
    exact Except.ok.inj same ▸ reads
  · have impossible := (split_of_unclosed unclosed).symm.trans read
    cases impossible

theorem split_eq_error_iff {text : String} {quote : Char} :
    split text = .error quote ↔ Unclosed quote text.toList := by
  refine ⟨fun failed => ?_, split_of_unclosed⟩
  rcases reads_or_unclosed text.toList with ⟨words, reads⟩ | ⟨other, unclosed⟩
  · have impossible := (split_of_reads reads).symm.trans failed
    cases impossible
  · have same := (split_of_unclosed unclosed).symm.trans failed
    exact Except.error.inj same ▸ unclosed

end Words

/--
Flags are split by their grammar: the result is the list of the words that the
flags consist of, each with what it means, and if they end inside a quote, an
error that names this quote and all of the flags.  There is no other error.
-/
theorem Scenario.splitFlags_by_grammar (flags : String) :
    (∀ words, splitFlags flags = .ok words ↔ Words.Reads flags.toList words) ∧
    ∀ cause, splitFlags flags = .error cause ↔
      ∃ quote, cause = .unmatchedQuote quote flags ∧ Words.Unclosed quote flags.toList := by
  constructor
  · intro words
    rw [splitFlags_eq_ok_iff, Words.split_eq_ok_iff_reads]
  · intro cause
    simp only [← Words.split_eq_error_iff]
    rw [splitFlags]
    cases Words.split flags <;> simp [Except.mapError, eq_comm]

end Rendezvous
