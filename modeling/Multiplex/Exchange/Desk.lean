import Multiplex.Exchange.Table

/-!
# A desk of named handles

One table with entries and waiting callers that are held under names. Each step moves, consumes or
drops what is held under a name; a name that holds nothing is reported.
-/

namespace Multiplex

/-- A table, and the entries and waiters held under names beside it. -/
structure Desk (M : Type) where
  table : Table := .empty
  exchanges : Exchanges M := []
  entries : List (String × Ticket) := []
  waiters : List (String × Ticket) := []

/-- One step at a desk. -/
inductive Desk.Step (M : Type) where
  | create (name : String)
  | insert (name key : String)
  | take (key into : String)
  | takeAbandoned (key into : String)
  | drain (into : String)
  | resolve (name : String) (message : M)
  | fail (name : String) (error : LinkError)
  | isAbandoned (name : String)
  | dropEntry (name : String)
  | dropWaiter (name : String)
  | poll (name : String)

/-- What a step at a desk answers. -/
inductive Desk.Answer (M : Type) where
  | done
  | noSuchHandle
  /-- A live entry holds the key; the error is what the refused caller should see. -/
  | duplicate (because : LinkError)
  /-- The table is sealed. -/
  | refused (because : LinkError)
  | notFound
  | found (abandoned : Bool)
  /-- The keys of the drained entries in byte order, and whether each was abandoned. -/
  | drained (slots : List (String × Bool))
  | returned (message : M)
  | delivered (reached : Bool)
  | flag (value : Bool)
  | pending
  | ready (result : Except LinkError M)

namespace Desk

variable {M : Type}

/-- The byte order of keys. -/
def keyLe (a b : String × Ticket) : Bool :=
  a.1 ≤ b.1

/-- Holds an entry under a name and drops the entry held there before. -/
def holdEntry (desk : Desk M) (name : String) (ticket : Ticket) : Desk M :=
  let exchanges :=
    match desk.entries.lookup name with
    | some old => desk.exchanges.drop old
    | none => desk.exchanges
  { desk with
    exchanges
    entries := (name, ticket) :: desk.entries.filter fun held => held.1 != name }

/-- Holds a waiter under a name and drops the waiter held there before. -/
def holdWaiter (desk : Desk M) (name : String) (ticket : Ticket) : Desk M :=
  let exchanges :=
    match desk.waiters.lookup name with
    | some old => desk.exchanges.leave old
    | none => desk.exchanges
  { desk with
    exchanges
    waiters := (name, ticket) :: desk.waiters.filter fun held => held.1 != name }

/-- The desk with no entry under a name. -/
def forgetEntry (desk : Desk M) (name : String) : Desk M :=
  { desk with entries := desk.entries.filter fun held => held.1 != name }

/-- The desk with no waiter under a name. -/
def forgetWaiter (desk : Desk M) (name : String) : Desk M :=
  { desk with waiters := desk.waiters.filter fun held => held.1 != name }

/-- Puts an entry back in the place of the one held under a name. -/
def putBack (name : String) (ticket : Ticket) : List (String × Ticket) → List (String × Ticket)
  | [] => []
  | held :: rest =>
    if name = held.1 then (name, ticket) :: rest else held :: putBack name ticket rest

/-- Hands out what a removal found, as an entry held under a name. -/
def handOut (desk : Desk M) (into : String) : Option Ticket × Table → Answer M × Desk M
  | (none, _) => (.notFound, desk)
  | (some ticket, table) =>
    (.found (desk.exchanges.isAbandoned ticket), { desk with table }.holdEntry into ticket)

/-- One step and its answer. -/
def step (desk : Desk M) : Step M → Answer M × Desk M
  | .create name =>
    let ticket := desk.exchanges.length
    let desk := { desk with exchanges := desk.exchanges ++ [Exchange.fresh] }
    (.done, (desk.holdEntry name ticket).holdWaiter name ticket)
  | .insert name key =>
    match desk.entries.lookup name with
    | none => (.noSuchHandle, desk)
    | some ticket =>
      match desk.table.insert desk.exchanges.isAbandoned key ticket with
      | .duplicate entry =>
        (.duplicate (.duplicateKey key), { desk with entries := putBack name entry desk.entries })
      | .refused entry =>
        (.refused .closed, { desk with entries := putBack name entry desk.entries })
      | .accepted table displaced =>
        let exchanges :=
          match displaced with
          | some old => desk.exchanges.drop old
          | none => desk.exchanges
        (.done, { desk with table, exchanges }.forgetEntry name)
  | .take key into => desk.handOut into (desk.table.take key)
  | .takeAbandoned key into =>
    desk.handOut into (desk.table.takeAbandoned desk.exchanges.isAbandoned key)
  | .drain into =>
    let (slots, table) := desk.table.drain
    let slots := slots.mergeSort keyLe
    let answer := slots.map fun slot => (slot.1, desk.exchanges.isAbandoned slot.2)
    (.drained answer,
      slots.foldl (fun desk slot => desk.holdEntry (into ++ slot.1) slot.2) { desk with table })
  | .resolve name message =>
    match desk.entries.lookup name with
    | none => (.noSuchHandle, desk)
    | some ticket =>
      let (exchanges, returned) := desk.exchanges.resolve ticket message
      let desk := { desk with exchanges }.forgetEntry name
      match returned with
      | none => (.done, desk)
      | some message => (.returned message, desk)
  | .fail name error =>
    match desk.entries.lookup name with
    | none => (.noSuchHandle, desk)
    | some ticket =>
      let (exchanges, reached) := desk.exchanges.fail ticket error
      (.delivered reached, { desk with exchanges }.forgetEntry name)
  | .isAbandoned name =>
    match desk.entries.lookup name with
    | none => (.noSuchHandle, desk)
    | some ticket => (.flag (desk.exchanges.isAbandoned ticket), desk)
  | .dropEntry name =>
    match desk.entries.lookup name with
    | none => (.flag false, desk)
    | some ticket =>
      (.flag true, { desk with exchanges := desk.exchanges.drop ticket }.forgetEntry name)
  | .dropWaiter name =>
    match desk.waiters.lookup name with
    | none => (.flag false, desk)
    | some ticket =>
      (.flag true, { desk with exchanges := desk.exchanges.leave ticket }.forgetWaiter name)
  | .poll name =>
    match desk.waiters.lookup name with
    | none => (.noSuchHandle, desk)
    | some ticket =>
      match desk.exchanges.poll ticket with
      | none => (.pending, desk)
      | some result =>
        (.ready result, { desk with exchanges := desk.exchanges.leave ticket }.forgetWaiter name)

/-- Runs steps one after another, and gives every answer with the desk after it. -/
def run (desk : Desk M) : List (Step M) → List (Answer M × Desk M)
  | [] => []
  | s :: rest =>
    let answered := desk.step s
    answered :: answered.2.run rest

end Desk

end Multiplex
