import Rendezvous.Decimal.Notation

/-!
JSON values and their indented text.

Every member and every element stands on a line of its own, two blanks further
in than its container.  Numbers that JSON has no form for are written as null.
-/

set_option autoImplicit false

namespace Rendezvous

/-- A JSON value; the members of an object keep their order. -/
inductive Json where
  | null
  | boolean (value : Bool)
  | integer (value : Int)
  | number (value : Binary64)
  | text (value : String)
  | array (items : List Json)
  | object (members : List (String × Json))
  deriving Repr, Inhabited

namespace Json

def ofOption {α : Type} (encode : α → Json) : Option α → Json
  | some value => encode value
  | none => .null

def ofNat (value : Nat) : Json := .integer value

def hexDigit (value : Nat) : Char := (Nat.digitChar (value % 16))

def escapeByNumber (char : Char) : List Char :=
  ['\\', 'u', '0', '0', hexDigit (char.toNat / 16), hexDigit char.toNat]

/-- A character of a string; quotes, backslashes and control characters are escaped. -/
def escape (char : Char) : List Char :=
  if char = '"' then ['\\', '"']
  else if char = '\\' then ['\\', '\\']
  else if char = '\x08' then ['\\', 'b']
  else if char = '\t' then ['\\', 't']
  else if char = '\n' then ['\\', 'n']
  else if char = '\x0c' then ['\\', 'f']
  else if char = '\r' then ['\\', 'r']
  else if char.toNat < 0x20 then escapeByNumber char
  else [char]

def quote (text : String) : String :=
  String.ofList ('"' :: text.toList.flatMap escape ++ ['"'])

/-- The end of a line and the indentation of the next one. -/
def lineBreak (depth : Nat) : String :=
  "\n" ++ String.ofList (List.replicate (2 * depth) ' ')

mutual

/-- The text of a value inside so many containers. -/
def render (depth : Nat) : Json → String
  | .null => "null"
  | .boolean value => if value then "true" else "false"
  | .integer value => toString value
  | .number value => value.toJson?.getD "null"
  | .text value => quote value
  | .array [] => "[]"
  | .array (item :: items) =>
      "[" ++ lineBreak (depth + 1) ++ render (depth + 1) item ++ renderItems (depth + 1) items ++
        lineBreak depth ++ "]"
  | .object [] => "\x7b\x7d"
  | .object ((key, value) :: members) =>
      "\x7b" ++ lineBreak (depth + 1) ++ quote key ++ ": " ++ render (depth + 1) value ++
        renderMembers (depth + 1) members ++ lineBreak depth ++ "\x7d"

/-- The elements of an array after the first. -/
def renderItems (depth : Nat) : List Json → String
  | [] => ""
  | item :: items => "," ++ lineBreak depth ++ render depth item ++ renderItems depth items

/-- The members of an object after the first. -/
def renderMembers (depth : Nat) : List (String × Json) → String
  | [] => ""
  | (key, value) :: members =>
      "," ++ lineBreak depth ++ quote key ++ ": " ++ render depth value ++
        renderMembers depth members

end

def pretty (value : Json) : String := render 0 value

end Json

end Rendezvous
