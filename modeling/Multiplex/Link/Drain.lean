import Multiplex.Link.State

/-!
# Draining

A link leaves its active phase once. In that step its tasks are asked to stop, the table is sealed,
and every entry in it fails with a closed link. Any later reason to drain is only noted.
-/

namespace Multiplex.Link

variable {M : Type}

/-- Fails the callers of drained entries. -/
def failDrained (link : Link M) : List (String × Ticket) → Link M
  | [] => link
  | (key, ticket) :: rest =>
    let reached := !link.isAbandoned ticket
    let link := link.failTicket ticket .closed
    (if reached then link else link.note (.orphaned key)).failDrained rest

/-- Leaves the active phase, if the link is still in it. -/
def drain (link : Link M) (reason : DrainReason) : Link M :=
  if link.phase = .active then
    let (slots, table) := link.table.drain
    let link := { link with phase := .draining, stopAsked := true, table }.note (.draining reason)
    let link := if slots.isEmpty then link else link.note (.failing slots.length)
    let stats := { link.stats with drained := link.stats.drained + slots.length }
    { link with stats }.failDrained slots
  else link.note .drainRepeated

/-- Drains the link when nobody holds it any more: neither the user nor any call. Unmatched
messages that nobody took are lost with it. -/
def release (link : Link M) : Link M :=
  if !link.handle && link.calls.isEmpty then
    let link := link.drain .clientDropped
    if link.receiver = .held then { link with receiver := .gone, unmatched := [] } else link
  else link

/-- The link without a call. -/
def removeCall (link : Link M) (call : Call) : Link M :=
  { link with
    calls := link.calls.filter fun other => other.number ≠ call.number
    told := link.told.filter fun ticket => call.ticket? ≠ some ticket }

/-- A call returns. -/
def finish (link : Link M) (call : Call) (result : Result M) : Link M :=
  ((link.removeCall call).note (.returned call.number call.ticket? result)).release

/-- Once both loops have ended the link is closed, whatever made them end. -/
def superviseStep? (link : Link M) : Option (Link M) :=
  match link.phase, link.writer, link.reader with
  | .closed, _, _ => none
  | _, .ended how, .ended crash =>
    let (link, fault) :=
      match how with
      | .done => (link, none)
      | .fault error => (link, some (LinkError.io "shutting down transport" error))
      | .crashed text =>
        (link.note (.writerCrashed text),
          some (LinkError.io "writer loop aborted" (.described .other (Event.crashText text))))
    let link :=
      match crash with
      | some text => link.note (.readerCrashed text)
      | none => link
    let link := link.drain .loopsExited
    some ({ link with phase := .closed, shutdownFault := fault }.note .closed)
  | _, _, _ => none

end Multiplex.Link
