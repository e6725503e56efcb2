import Rendezvous.Binary64

/-!
TOML documents as values.

`Value` is what a document means.  `Node` is a document while it is being read:
it also remembers how each table came into being, which decides what may still
be added to it.
-/

set_option autoImplicit false

namespace Rendezvous

namespace Toml

/-- A TOML value. -/
inductive Value where
  | text (value : String)
  | integer (value : Int)
  | float (value : Binary64)
  | boolean (value : Bool)
  /-- A date, a time or both, in canonical form. -/
  | moment (value : String)
  | array (items : List Value)
  | table (entries : List (String × Value))
  deriving Repr, Inhabited

/-- The keys of a table with their values, each key once. -/
abbrev Table := List (String × Value)

/-- Why a document cannot be read. -/
inductive ReadError where
  /-- The text is not TOML from this line on. -/
  | malformed (line : Nat)
  /-- A key or table is defined twice, or where it cannot be. -/
  | redefined (key : String)
  deriving DecidableEq, Repr

namespace ReadError

def message : ReadError → String
  | .malformed line => s!"TOML parse error at line {line}"
  | .redefined key => s!"TOML parse error: duplicate key '{key}'"

end ReadError

/-- How a table came into being. -/
inductive Origin where
  /-- By a header of its own. -/
  | header
  /-- As part of the path of another header. -/
  | path
  /-- As part of a dotted key. -/
  | dotted
  deriving DecidableEq, Repr

/-- A part of a document while it is being read. -/
inductive Node where
  /-- A value, which is complete; inline tables and arrays are values. -/
  | value (value : Value)
  | table (origin : Origin) (entries : List (String × Node))
  /-- An array of tables, latest first. -/
  | tables (items : List (List (String × Node)))

/-- The entries of a table while it is being read, in order. -/
abbrev Entries := List (String × Node)

namespace Entries

def node? (entries : Entries) (key : String) : Option Node :=
  entries.lookup key

/-- Give a key a node, in its old place if it has one. -/
def put (entries : Entries) (key : String) (node : Node) : Entries :=
  if entries.any (·.1 = key) then
    entries.map fun entry => if entry.1 = key then (key, node) else entry
  else entries ++ [(key, node)]

/--
Change the table at the end of a path.  Tables that are missing on the way are
made with the given origin.  A dotted key does not lead through a table with a
header; a path that leads into an array of tables leads into its last table.
-/
def alter (origin : Origin) (change : Entries → Except ReadError Entries) :
    List String → Entries → Except ReadError Entries
  | [], entries => change entries
  | key :: path, entries => do
      match entries.node? key with
      | none =>
          let inner ← alter origin change path []
          return entries.put key (.table origin inner)
      | some (.value _) => throw (.redefined key)
      | some (.table found inner) =>
          if origin = .dotted && found = .header then throw (.redefined key)
          let inner ← alter origin change path inner
          return entries.put key (.table found inner)
      | some (.tables []) => throw (.redefined key)
      | some (.tables (last :: others)) =>
          let last ← alter origin change path last
          return entries.put key (.tables (last :: others))

/-- The origin of the table at the end of a path, if there is a table. -/
def originAt? : List String → Entries → Option Origin
  | [], _ => some .header
  | key :: path, entries =>
      match entries.node? key with
      | some (.table origin inner) => if path = [] then some origin else originAt? path inner
      | some (.tables (last :: _)) => originAt? path last
      | _ => none

/-- Give a new key of a table its value. -/
def define (key : String) (value : Value) (entries : Entries) : Except ReadError Entries :=
  if (entries.node? key).isSome then .error (.redefined key)
  else .ok (entries.put key (.value value))

/--
Give a dotted key its value.  The tables of the key are made on the way or were
made by dotted keys; the last of them was made by a dotted key in any case.
-/
def defineDotted (path : List String) (key : String) (value : Value) (entries : Entries) :
    Except ReadError Entries := do
  let changed ← entries.alter .dotted (define key value) path
  if path ≠ [] && changed.originAt? path ≠ some .dotted then throw (.redefined key)
  return changed

/-- Open the table of a header: it is new, or so far only part of other headers' paths. -/
def openTable (key : String) (entries : Entries) : Except ReadError Entries :=
  match entries.node? key with
  | none => .ok (entries.put key (.table .header []))
  | some (.table .path inner) => .ok (entries.put key (.table .header inner))
  | some _ => .error (.redefined key)

def addTable (key : String) (entries : Entries) : Except ReadError Entries :=
  match entries.node? key with
  | none => .ok (entries.put key (.tables [[]]))
  | some (.tables items) => .ok (entries.put key (.tables ([] :: items)))
  | some _ => .error (.redefined key)

end Entries

mutual

/-- The value that a node means once the document is complete. -/
def Node.toValue : Node → Value
  | .value value => value
  | .table _ entries => .table (entriesToTable entries)
  | .tables items => .array (itemsToValues items).reverse

def entriesToTable : List (String × Node) → Table
  | [] => []
  | (key, node) :: rest => (key, node.toValue) :: entriesToTable rest

/-- The tables of an array of tables. -/
def itemsToValues : List (List (String × Node)) → List Value
  | [] => []
  | entries :: rest => .table (entriesToTable entries) :: itemsToValues rest

end

end Toml

end Rendezvous
