import Rendezvous.Text.Search

/-!
Command lines with options.

A grammar names the options of a command and says what each does to a value
that is built up.  Words are read one after another.  An option that takes a
value is settled only when the next option is met or the words are at an end,
so a later word that fits nowhere is reported first.
-/

set_option autoImplicit false

namespace Rendezvous

namespace Usage

/-- Why the words of a command line cannot be used. -/
inductive UsageError where
  | helpWanted
  | versionWanted
  /-- There is not a single word. -/
  | nothingGiven
  | missingCommand
  | unknownCommand
  /-- A word that has to be there is missing. -/
  | missingRequired
  | unknownArgument
  /-- A value is missing, or empty where it cannot be. -/
  | invalidValue
  /-- An option is repeated, or two options exclude each other. -/
  | conflict
  /-- A value does not have the form it must have. -/
  | malformedValue
  | unwantedValue
  deriving DecidableEq, Repr

/-- What an option does to the value that is built up. -/
inductive Effect (σ : Type) where
  | flag (apply : σ → σ)
  /-- Takes a value; `dashes` says whether any word will do, also one that looks like an option. -/
  | single (dashes : Bool) (store : String → σ → Except UsageError σ)
  /-- Takes a value each time it is given. -/
  | repeated (store : String → σ → Except UsageError σ)
  | stop (outcome : UsageError)

/-- An option. -/
structure Opt (σ : Type) where
  long : String
  short : Option Char := none
  effect : Effect σ

/-- Words that belong to no option. -/
structure Positional (σ : Type) where
  /-- Whether they are allowed behind a double dash only. -/
  trailingOnly : Bool
  store : String → σ → Except UsageError σ

/-- The words that a command takes. -/
structure Grammar (σ : Type) where
  options : List (Opt σ)
  positional : Option (Positional σ) := none
  /-- What a word is that fits nowhere. -/
  stray : UsageError := .unknownArgument
  /-- A condition on the value that is complete. -/
  check : σ → Except UsageError Unit := fun _ => .ok ()

variable {σ : Type}

/-- Something that was met and is not settled. -/
inductive Pending (σ : Type) where
  | option (option : Opt σ) (values : List String)
  | words (store : String → σ → Except UsageError σ) (values : List String)

/-- The reader between two words. -/
structure Reader (σ : Type) where
  value : σ
  /-- The options that can be given once and were. -/
  given : List String := []
  pending : Option (Pending σ) := none
  /-- Whether a double dash was met. -/
  trailing : Bool := false

namespace Reader

def once (reader : Reader σ) (option : Opt σ) : Except UsageError (Reader σ) :=
  if reader.given.contains option.long then .error .conflict
  else .ok { reader with given := option.long :: reader.given }

def settle (reader : Reader σ) (option : Opt σ) (values : List String) :
    Except UsageError (Reader σ) :=
  match option.effect, values with
  | .flag apply, _ => do
      let reader ← reader.once option
      return { reader with value := apply reader.value }
  | .stop outcome, _ => .error outcome
  | .single _ _, [] | .repeated _, [] => .error .invalidValue
  | .single _ store, value :: _ => do
      let reader ← reader.once option
      return { reader with value := ← store value reader.value }
  | .repeated store, value :: _ => do
      return { reader with value := ← store value reader.value }

/-- Settle what is pending. -/
def resolve (reader : Reader σ) : Except UsageError (Reader σ) :=
  let rest := { reader with pending := none }
  match reader.pending with
  | none => .ok rest
  | some (.option option values) => rest.settle option values
  | some (.words store values) => do
      let value ← values.foldlM (fun value word => store word value) rest.value
      return { rest with value }

def awaiting? (reader : Reader σ) : Option (Opt σ) :=
  match reader.pending with
  | some (.option option []) => some option
  | _ => none

/-- Whether the next word is a value, whatever it looks like. -/
def takesAny (reader : Reader σ) : Bool :=
  match reader.awaiting? with
  | some { effect := .single true _, .. } => true
  | _ => false

/-- An option was met, perhaps with a value attached. -/
def meet (reader : Reader σ) (option : Opt σ) (attached : Option String) :
    Except UsageError (Reader σ) :=
  match option.effect, attached with
  | .flag _, some _ | .stop _, some _ => .error .unwantedValue
  | .flag _, none | .stop _, none => do (← reader.resolve).settle option []
  | _, some value => do (← reader.resolve).settle option [value]
  | _, none => do return { ← reader.resolve with pending := some (.option option []) }

/-- The name and the attached value of a long option. -/
def splitLong (text : List Char) : String × Option String :=
  match Text.cutAt? '=' text with
  | some (name, value) => (String.ofList name, some (String.ofList value))
  | none => (String.ofList text, none)

/-- Read a long option, without its dashes. -/
def readLong (grammar : Grammar σ) (reader : Reader σ) (text : List Char) :
    Except UsageError (Reader σ) :=
  let (name, attached) := splitLong text
  match grammar.options.find? fun option => option.long = name with
  | none => .error .unknownArgument
  | some option => reader.meet option attached

/-- Read short options that share one dash; one that takes a value takes the rest. -/
def readShorts (grammar : Grammar σ) (reader : Reader σ) :
    List Char → Except UsageError (Reader σ)
  | [] => .ok reader
  | char :: rest =>
      match grammar.options.find? fun option => option.short = some char with
      | none => .error .unknownArgument
      | some option =>
          match option.effect with
          | .flag _ | .stop _ => do readShorts grammar (← reader.meet option none) rest
          | _ =>
              let value := match rest with
                | '=' :: value => value
                | _ => rest
              reader.meet option (if rest = [] then none else some (String.ofList value))

/-- Read a word that belongs to no option. -/
def readPositional (grammar : Grammar σ) (reader : Reader σ) (word : String) :
    Except UsageError (Reader σ) :=
  match grammar.positional, reader.pending with
  | none, _ => .error grammar.stray
  | some positional, pending =>
      if positional.trailingOnly && !reader.trailing then .error grammar.stray
      else match pending with
        | some (.words store values) =>
            .ok { reader with pending := some (.words store (values ++ [word])) }
        | _ => do
            let reader ← reader.resolve
            return { reader with pending := some (.words positional.store [word]) }

/-- Read a word as the value of the option that waits for one, or as a word of its own. -/
def readPlain (grammar : Grammar σ) (reader : Reader σ) (word : String) :
    Except UsageError (Reader σ) :=
  match reader.awaiting? with
  | some option => .ok { reader with pending := some (.option option [word]) }
  | none => reader.readPositional grammar word

def step (grammar : Grammar σ) (reader : Reader σ) (word : String) :
    Except UsageError (Reader σ) :=
  if reader.trailing then reader.readPositional grammar word
  else if reader.takesAny then reader.readPlain grammar word
  else match word.toList with
    | ['-', '-'] => .ok { reader with trailing := true }
    | '-' :: '-' :: name => reader.readLong grammar name
    | '-' :: char :: rest => reader.readShorts grammar (char :: rest)
    | _ => reader.readPlain grammar word

/-- The complete value at the end of the words. -/
def finish (grammar : Grammar σ) (reader : Reader σ) : Except UsageError σ := do
  let reader ← reader.resolve
  grammar.check reader.value
  return reader.value

end Reader

namespace Grammar

def read (grammar : Grammar σ) (start : σ) (words : List String) : Except UsageError σ := do
  let reader ← words.foldlM (Reader.step grammar) { value := start }
  reader.finish grammar

end Grammar

end Usage

end Rendezvous
