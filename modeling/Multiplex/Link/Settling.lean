import Multiplex.Link.Calling
import Multiplex.Link.Reading
import Multiplex.Link.Writing

/-!
# Settling

The reader, the writer, the calls and the supervisor of a link take steps until none of them can
move. Every step uses up work, which is bounded by `work`: unread bytes, requests on their way and
the phases still ahead of each part. So settling ends, and `work` steps are enough for it.
-/

namespace Multiplex.Link

variable {M : Type}

/-- The steps left for a writer, apart from those of its queue. -/
def Writer.work (asked : Bool) : Writer → Nat
  | .idle => 3
  | .writing _ rest => rest.length + 5
  | .flushing _ => 4
  | .closing => if asked then 1 else 2
  | .ended _ => 0

/-- The steps left for a reader, apart from those for what the transport holds. -/
def Reader.work : Reader → Nat
  | .running buffer _ => buffer.length + 1
  | .ended _ => 0

/-- The steps left for a call and for the request it may still hand over. -/
def Call.work (call : Call) : Nat :=
  match call.task with
  | .send request false _ => request.frame.length + 5
  | _ => 1

/-- The steps left in a phase. -/
def Phase.work : Phase → Nat
  | .active => 2
  | .draining => 1
  | .closed => 0

/-- The weights of a list's members added up. -/
def total {α : Type} (weight : α → Nat) (items : List α) : Nat :=
  items.foldr (fun item rest => weight item + rest) 0

/-- A bound on the steps that a link can take before it settles. -/
def work (link : Link M) : Nat :=
  total Inbound.weight link.transport.inbound + Reader.work link.reader
    + Writer.work link.transport.shutdownAsked link.writer
    + total (fun request => request.frame.length + 3) link.queue + total Call.work link.calls
    + Phase.work link.phase

/-- One step of the link: of the reader if it can move, else of the writer, else of a call, else of
the supervisor. -/
def step? (wiring : Wiring M) (link : Link M) : Option (Link M) :=
  match readStep? wiring link with
  | some link => some link
  | none =>
    match writerStep? wiring link with
    | some link => some link
    | none =>
      match callStep? wiring link with
      | some link => some link
      | none => link.superviseStep?

/-- Takes at most `fuel` steps. -/
def stepMany (wiring : Wiring M) : (fuel : Nat) → Link M → Link M
  | 0, link => link
  | fuel + 1, link =>
    match step? wiring link with
    | none => link
    | some link => stepMany wiring fuel link

/-- Takes steps until nothing can move. -/
def settle (wiring : Wiring M) (link : Link M) : Link M :=
  stepMany wiring link.work link

end Multiplex.Link
