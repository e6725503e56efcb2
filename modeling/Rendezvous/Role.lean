/-!
The processes of a scenario and tables with one entry for each of them.

A scenario has a server, a client and possibly a helper that runs beside the
client.  `Role.all` lists them in the order in which they are started.
-/

set_option autoImplicit false

namespace Rendezvous

universe u v

/-- One of the processes of a scenario. -/
inductive Role where
  | server
  | client
  | clientHelper
  deriving DecidableEq, Repr, Inhabited

namespace Role

/-- Every role, in start order. -/
def all : List Role :=
  [.server, .client, .clientHelper]

/-- The name that tags relayed output and stands in messages. -/
def name : Role → String
  | .server => "server"
  | .client => "client"
  | .clientHelper => "client-helper"

def ofName? (text : String) : Option Role :=
  all.find? (·.name = text)

instance : ToString Role := ⟨name⟩

theorem mem_all (role : Role) : role ∈ all := by
  cases role <;> decide

theorem name_injective {first second : Role} (same : first.name = second.name) :
    first = second := by
  cases first <;> cases second <;> first | rfl | exact absurd same (by decide)

end Role

structure RoleTable (α : Type u) where
  server : α
  client : α
  clientHelper : α
  deriving DecidableEq, Repr

namespace RoleTable

variable {α : Type u}

def replicate (entry : α) : RoleTable α :=
  ⟨entry, entry, entry⟩

instance [Inhabited α] : Inhabited (RoleTable α) := ⟨replicate default⟩

def get (table : RoleTable α) : Role → α
  | .server => table.server
  | .client => table.client
  | .clientHelper => table.clientHelper

def set (table : RoleTable α) : Role → α → RoleTable α
  | .server, entry => { table with server := entry }
  | .client, entry => { table with client := entry }
  | .clientHelper, entry => { table with clientHelper := entry }

/-- Evaluate an action for every role in start order; the first that fails ends the walk. -/
def build {m : Type u → Type v} [Monad m] (entryOf : Role → m α) : m (RoleTable α) := do
  let server ← entryOf .server
  let client ← entryOf .client
  let clientHelper ← entryOf .clientHelper
  return ⟨server, client, clientHelper⟩

/-- The entries with their roles, in start order. -/
def toList (table : RoleTable α) : List (Role × α) :=
  Role.all.map fun role => (role, table.get role)

@[simp]
theorem get_set_same (table : RoleTable α) (role : Role) (entry : α) :
    (table.set role entry).get role = entry := by
  cases role <;> rfl

theorem get_set_other (table : RoleTable α) {role other : Role} (entry : α)
    (different : other ≠ role) : (table.set role entry).get other = table.get other := by
  cases role <;> cases other <;> first | rfl | exact absurd rfl different

@[simp]
theorem get_replicate (entry : α) (role : Role) : (replicate entry).get role = entry := by
  cases role <;> rfl

end RoleTable

end Rendezvous
