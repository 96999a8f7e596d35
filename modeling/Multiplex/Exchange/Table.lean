import Multiplex.Exchange.Basic

/-!
# The correlation table

The table files entries under keys until the reply with that key arrives. It holds one entry per
key, never displaces an entry whose caller still waits, and accepts nothing once it has been
sealed, which empties it.

Whether a caller still waits is not known to the table; operations that depend on it take a test
for abandoned tickets.
-/

namespace Multiplex

/-- Entries filed under keys, and whether the table refuses new ones. -/
structure Table where
  slots : List (String × Ticket)
  isSealed : Bool

namespace Table

/-- The table of a new link. -/
def empty : Table :=
  ⟨[], false⟩

instance : Inhabited Table := ⟨empty⟩

/-- The number of entries. -/
def size (table : Table) : Nat :=
  table.slots.length

/-- The entry filed under a key. -/
def find? (table : Table) (key : String) : Option Ticket :=
  table.slots.lookup key

/-- The table without the entry under a key. -/
def erase (table : Table) (key : String) : Table :=
  { table with slots := table.slots.filter fun slot => slot.1 != key }

/-- Files an entry under a key in place of any other. -/
def file (table : Table) (key : String) (ticket : Ticket) : Table :=
  { table with slots := (key, ticket) :: table.slots.filter fun slot => slot.1 != key }

/-- The answer to an attempt to file an entry. -/
inductive Insertion where
  /-- The entry is filed; an abandoned one may have made room for it. -/
  | accepted (table : Table) (displaced : Option Ticket)
  /-- A live entry holds the key; the one that was to be filed is handed back. -/
  | duplicate (entry : Ticket)
  /-- The table is sealed; the entry that was to be filed is handed back. -/
  | refused (entry : Ticket)

/-- Files an entry under a key, unless the table is sealed or a live entry holds the key. -/
def insert (table : Table) (isAbandoned : Ticket → Bool) (key : String) (ticket : Ticket) :
    Insertion :=
  if table.isSealed then .refused ticket
  else
    match table.find? key with
    | none => .accepted (table.file key ticket) none
    | some holder =>
      if isAbandoned holder then .accepted (table.file key ticket) (some holder)
      else .duplicate ticket

/-- Removes the entry under a key and hands it out. -/
def take (table : Table) (key : String) : Option Ticket × Table :=
  (table.find? key, table.erase key)

/-- Removes the entry under a key and hands it out, but only if it is abandoned. -/
def takeAbandoned (table : Table) (isAbandoned : Ticket → Bool) (key : String) :
    Option Ticket × Table :=
  match table.find? key with
  | some holder => if isAbandoned holder then table.take key else (none, table)
  | none => (none, table)

/-- Removes every entry and refuses new ones from now on. -/
def drain (table : Table) : List (String × Ticket) × Table :=
  (table.slots, ⟨[], true⟩)

end Table

end Multiplex
