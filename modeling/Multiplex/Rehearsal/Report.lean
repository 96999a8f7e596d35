import Multiplex.Link.Operation

/-!
# Reports on a rehearsal

A rehearsal plays operations on a link one after another, and gives names to the calls that they
make. After each of them a report says what could be seen of it: the answer, the bytes written, the
calls that returned, the link's phase and counters, and its log.
-/

namespace Multiplex.Rehearsal

/-- A step of a rehearsal. -/
inductive Step (M : Type) where
  | plain (operation : Operation M)
  /-- An operation that makes a call, unless it is refused. The call gets a name, which it may share
  with earlier ones. -/
  | call (name : String) (operation : Operation M)
  /-- The latest call of a name is cancelled. -/
  | abort (name : String)

/-- The calls made so far by name and number, latest first. -/
abbrev Names := List (String × Nat)

/-- The name of a call. -/
def Names.name (names : Names) (call : Nat) : String :=
  match names.find? fun entry => entry.2 = call with
  | some (name, _) => name
  | none => ""

/-- The operation of a step. With no call of the name there is nothing to cancel. -/
def Step.operation {M : Type} (names : Names) : Step M → Operation M
  | .plain operation | .call _ operation => operation
  | .abort name =>
    match names.lookup name with
    | some number => .abort number
    | none => .pause

/-- The names after a step that led from one moment of a link to another. -/
def Step.names {M : Type} (names : Names) (before after : Link M) : Step M → Names
  | .call name _ => if before.made < after.made then (name, before.made) :: names else names
  | .plain _ | .abort _ => names

/-- What can be seen of a link through its handle. -/
structure View where
  phase : Phase
  pending : Nat
  stats : Stats

/-- What an operation and the settling after it led to. -/
structure Report (M : Type) where
  answer : Operation.Reply M
  /-- The bytes written. -/
  written : Bytes
  shutdownAsked : Bool
  /-- The calls that returned, in the order in which they did. -/
  returned : List (String × Result M)
  view : Option View
  /-- The lines logged, in byte order. -/
  log : List String

variable {M : Type}

/-- The frames of some messages; a message that has no frame adds nothing. -/
def frames (header : Header) (messages : List Message) : Bytes :=
  messages.flatMap fun message =>
    match message.pack with
    | .error _ => []
    | .ok payload =>
      match header.announce payload.length with
      | .error _ => []
      | .ok bytes => bytes ++ payload

/-- What happened between two moments of one link, earliest first. -/
def newEvents (before after : Link M) : List (Event M) :=
  (after.history.take (after.history.length - before.history.length)).reverse

/-- What can be seen of a link after some events, during which bytes were written. -/
def report (names : Names) (answer : Operation.Reply M) (events : List (Event M))
    (written : Bytes) (link : Link M) : Report M where
  answer := answer
  written := written
  shutdownAsked := link.transport.shutdownAsked
  returned := (events.filterMap Event.returned?).map fun (call, result) =>
    (names.name call, result)
  view := if link.handle then some ⟨link.phase, link.pending, link.stats⟩ else none
  log := (events.filterMap Event.line?).mergeSort (· ≤ ·)

/-- Plays steps one after another and reports on each. -/
def playAll (setup : Setup M) (names : Names) (link : Link M) : List (Step M) → List (Report M)
  | [] => []
  | step :: rest =>
    let (answer, settled) := link.perform setup.wiring (step.operation names)
    let names := step.names names link settled
    let written := settled.transport.wire.drop link.transport.wire.length
    report names answer (newEvents link settled) written settled
      :: playAll setup names settled rest

/-- Starts a link and plays steps on it. The first report is that of the start. -/
def run (setup : Setup M) (steps : List (Step M)) : List (Report M) :=
  let link := Link.start setup.wiring
  report [] .started link.history.reverse link.transport.wire link :: playAll setup [] link steps

end Multiplex.Rehearsal
