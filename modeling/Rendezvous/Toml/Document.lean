import Rendezvous.Toml.Scalar

/-!
TOML documents.

A document is a sequence of lines: blank lines and comments, keys with values,
and headers of tables.  `read` builds its tables line by line; a key belongs to
the table of the last header.
-/

set_option autoImplicit false

namespace Rendezvous

namespace Toml

/-- A key with its value: the path of a dotted key, its last part and the value. -/
structure Assignment where
  path : List String
  key : String
  value : Value

def isCommentChar (char : Char) : Bool := isPrintable char || char = '\x7F'

/-- The text behind a comment, if it begins with one. -/
def skipComment : List Char → List Char
  | '#' :: rest => rest.dropWhile isCommentChar
  | text => text

/-- The text behind blanks, comments and newlines. -/
def skipBlankLines (fuel : Nat) (text : List Char) : List Char :=
  let text := skipComment (text.dropWhile isSpace)
  match fuel, newline? text with
  | fuel + 1, some rest => skipBlankLines fuel rest
  | _, _ => text

/-- The text behind the end of a line; the end of the document is one too. -/
def endOfLine? (text : List Char) : Option (List Char) :=
  match skipComment (text.dropWhile isSpace) with
  | [] => some []
  | rest => newline? rest

/-- One part of a key: bare, or in quotes. -/
def keyPart? (text : List Char) : Option (String × List Char) :=
  match text with
  | '"' :: rest => basicString? text.length [] rest
  | '\'' :: rest => literalString? rest
  | _ =>
      let bare := text.takeWhile isBareKey
      if bare = [] then none else some (String.ofList bare, text.drop bare.length)

/-- A key: parts with dots between them, and the text behind it. -/
def key? (fuel : Nat) (text : List Char) : Option (List String × List Char) :=
  match fuel with
  | 0 => none
  | fuel + 1 => do
      let (part, rest) ← keyPart? (text.dropWhile isSpace)
      match rest.dropWhile isSpace with
      | '.' :: rest =>
          let (parts, rest) ← key? fuel rest
          return (part :: parts, rest)
      | rest => return ([part], rest)

def inlineTable? (assignments : List Assignment) : Option Value :=
  let build (entries : Entries) (assignment : Assignment) :=
    entries.defineDotted assignment.path assignment.key assignment.value
  match assignments.foldlM build [] with
  | .ok entries => some (.table (entriesToTable entries))
  | .error _ => none

mutual

def value? (fuel : Nat) (text : List Char) : Option (Value × List Char) :=
  match fuel, text with
  | 0, _ => none
  | fuel + 1, '[' :: rest => do
      let (items, rest) ← items? fuel [] rest
      return (.array items, rest)
  | fuel + 1, '{' :: rest => do
      let (assignments, rest) ← match rest.dropWhile isSpace with
        | '}' :: rest => some ([], rest)
        | rest => assignments? fuel [] rest
      return (← inlineTable? assignments, rest)
  | _, _ =>
      match string? text with
      | some (string, rest) => some (.text string, rest)
      | none => scalar? text

/-- The rest of an array: values with commas between them, and perhaps one at the end. -/
def items? (fuel : Nat) (read : List Value) (text : List Char) :
    Option (List Value × List Char) :=
  match fuel, skipBlankLines text.length text with
  | 0, _ => none
  | _, ']' :: rest => some (read.reverse, rest)
  | fuel + 1, text => do
      let (value, rest) ← value? fuel text
      match skipBlankLines rest.length rest with
      | ',' :: rest => items? fuel (value :: read) rest
      | ']' :: rest => return ((value :: read).reverse, rest)
      | _ => none

/-- A key with its value, and the text behind it. -/
def assignment? (fuel : Nat) (text : List Char) : Option (Assignment × List Char) :=
  match fuel with
  | 0 => none
  | fuel + 1 => do
      let (parts, rest) ← key? text.length text
      match rest with
      | '=' :: rest =>
          let (value, rest) ← value? fuel (rest.dropWhile isSpace)
          return (⟨parts.dropLast, parts.getLastD "", value⟩, rest)
      | _ => none

/-- The rest of an inline table: assignments with commas between them. -/
def assignments? (fuel : Nat) (read : List Assignment) (text : List Char) :
    Option (List Assignment × List Char) :=
  match fuel with
  | 0 => none
  | fuel + 1 => do
      let (assignment, rest) ← assignment? fuel text
      match rest.dropWhile isSpace with
      | ',' :: rest => assignments? fuel (assignment :: read) rest
      | '}' :: rest => return ((assignment :: read).reverse, rest)
      | _ => none

end

/-- A header, in one pair of brackets or, for an array of tables, in two. -/
structure Header where
  parts : List String
  isArray : Bool

/-- A header and the text behind it, after its first bracket. -/
def header? (text : List Char) : Option (Header × List Char) :=
  match text with
  | '[' :: text => do
      let (parts, rest) ← key? text.length text
      match rest with
      | ']' :: ']' :: rest => return (⟨parts, true⟩, rest)
      | _ => none
  | _ => do
      let (parts, rest) ← key? text.length text
      match rest with
      | ']' :: rest => return (⟨parts, false⟩, rest)
      | _ => none

/-- A document while it is being read: its tables and the path of the last header. -/
structure Reader where
  entries : Entries
  current : List String

namespace Reader

def start : Reader := ⟨[], []⟩

def enter (reader : Reader) (header : Header) : Except ReadError Reader := do
  let key := header.parts.getLastD ""
  let change := if header.isArray then Entries.addTable key else Entries.openTable key
  let entries ← reader.entries.alter .path change header.parts.dropLast
  return ⟨entries, header.parts⟩

def assign (reader : Reader) (assignment : Assignment) : Except ReadError Reader := do
  let change (entries : Entries) :=
    entries.defineDotted assignment.path assignment.key assignment.value
  let entries ← reader.entries.alter .path change reader.current
  return { reader with entries }

end Reader

def lineOf (document rest : List Char) : Nat :=
  (document.take (document.length - rest.length)).count '\n' + 1

/-- Read one line that is not the end of the document: what it says and the text behind it. -/
def readLine (document : List Char) (reader : Reader) (text : List Char) :
    Except ReadError (Reader × List Char) :=
  let finish {α : Type} (rest : Option α) : Except ReadError α :=
    match rest with
    | some rest => .ok rest
    | none => .error (.malformed (lineOf document text))
  match endOfLine? text, text.dropWhile isSpace with
  | some rest, _ => .ok (reader, rest)
  | none, '[' :: body => do
      let (header, rest) ← finish (header? body)
      let rest ← finish (endOfLine? rest)
      return (← reader.enter header, rest)
  | none, body => do
      let (assignment, rest) ← finish (assignment? (2 * body.length + 2) body)
      let rest ← finish (endOfLine? rest)
      return (← reader.assign assignment, rest)

/-- Read the lines of a document; every line is at least one character long. -/
def readLines (document : List Char) :
    Nat → Reader → List Char → Except ReadError Reader
  | _, reader, [] => .ok reader
  | 0, _, text => .error (.malformed (lineOf document text))
  | fuel + 1, reader, text => do
      let (reader, rest) ← readLine document reader text
      readLines document fuel reader rest

/-- The text without a byte order mark. -/
def dropMark : List Char → List Char
  | '\uFEFF' :: rest => rest
  | text => text

def read (text : String) : Except ReadError Table := do
  let document := dropMark text.toList
  let reader ← readLines document (document.length + 1) Reader.start document
  return entriesToTable reader.entries

end Toml

end Rendezvous
