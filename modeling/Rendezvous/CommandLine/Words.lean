import Rendezvous.Text.Blank

/-!
Splitting a string of flags into words.

Words are separated by white space.  A backslash makes the next character
ordinary, single quotes make everything between them ordinary, and between
double quotes a backslash only has a meaning before a double quote, a
backslash, a dollar sign or a backquote.
-/

set_option autoImplicit false

namespace Rendezvous

namespace Words

/-- Where the splitter stands between two characters. -/
inductive Mode where
  | plain
  /-- Outside quotes, after a backslash. -/
  | escaped
  | single
  | double
  /-- Between double quotes, after a backslash. -/
  | doubleEscaped
  deriving DecidableEq, Repr

/-- The splitter between two characters: the words that are complete and the one that is open. -/
structure Splitter where
  mode : Mode
  word : Option (Array Char)
  words : Array String
  deriving DecidableEq, Repr

namespace Splitter

def start : Splitter := ⟨.plain, none, #[]⟩

def opened (splitter : Splitter) (mode : Mode) : Splitter :=
  { splitter with mode, word := some (splitter.word.getD #[]) }

def add (splitter : Splitter) (char : Char) (mode : Mode) : Splitter :=
  { splitter with mode, word := some ((splitter.word.getD #[]).push char) }

/-- End the word, if one is open. -/
def close (splitter : Splitter) : Splitter :=
  match splitter.word with
  | none => splitter
  | some word =>
      { splitter with word := none, words := splitter.words.push (String.ofList word.toList) }

def isDoubleEscape (char : Char) : Bool :=
  char = '"' || char = '\\' || char = '$' || char = '\x60'

def step (splitter : Splitter) (char : Char) : Splitter :=
  match splitter.mode with
  | .plain =>
      if char = '\'' then splitter.opened .single
      else if char = '"' then splitter.opened .double
      else if char = '\\' then splitter.opened .escaped
      else if Text.isBlank char then splitter.close
      else splitter.add char .plain
  | .escaped => splitter.add char .plain
  | .single => if char = '\'' then splitter.opened .plain else splitter.add char .single
  | .double =>
      if char = '"' then splitter.opened .plain
      else if char = '\\' then splitter.opened .doubleEscaped
      else splitter.add char .double
  | .doubleEscaped =>
      if isDoubleEscape char then splitter.add char .double
      else (splitter.add '\\' .double).add char .double

/-- The words at the end of the text, or the quote that is still open. -/
def finish (splitter : Splitter) : Except Char (List String) :=
  match splitter.mode with
  | .plain => .ok splitter.close.words.toList
  | .escaped => .ok (splitter.add '\\' .plain).close.words.toList
  | .single => .error '\''
  | .double | .doubleEscaped => .error '"'

end Splitter

/-- The words of a text, or the quote that is not closed. -/
def split (text : String) : Except Char (List String) :=
  (text.toList.foldl Splitter.step Splitter.start).finish

end Words

end Rendezvous
