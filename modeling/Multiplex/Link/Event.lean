import Multiplex.Exchange.Basic

/-!
# The history of a link

What happens on a link is recorded as events. Most of them have a line in the link's log; the
others are kept for what can be said about a whole run.
-/

namespace Multiplex

/-- A framed request on its way to the transport. -/
structure Request where
  ticket : Ticket
  key : String
  /-- The length header and the payload. -/
  frame : Bytes
  deriving DecidableEq, Repr

/-- What moves a link out of its active phase. -/
inductive DrainReason where
  | userClose
  | clientDropped
  | peerClosed
  | readFailure (error : LinkError)
  | writeFailure (error : LinkError)
  | loopsExited
  deriving DecidableEq, Repr

/-- The link drains because its user wanted it to. -/
def DrainReason.isOrderly : DrainReason → Bool
  | .userClose | .clientDropped => true
  | _ => false

/-- Why an inbound message reached no caller. -/
inductive UnmatchedReason where
  /-- No entry is filed under its key. -/
  | noPendingRequest
  /-- The entry's caller had stopped waiting. -/
  | callerGone
  /-- It has no key. -/
  | noKey (error : LinkError)
  deriving DecidableEq, Repr

/-- Why an unmatched message was not kept. -/
inductive UnmatchedLoss where
  | queueFull
  | receiverDropped
  deriving DecidableEq, Repr

/-- What a call on a link returns. -/
inductive Result (M : Type) where
  | replied (message : M)
  | failed (error : LinkError)
  /-- The link has been closed in order. -/
  | closed
  /-- The link is closed, in order or not. -/
  | observed
  deriving DecidableEq

/-- Something that happened on a link. -/
inductive Event (M : Type) where
  | started
  /-- A trace number was issued. -/
  | issued (stan : String)
  /-- A message, which has its trace number, was made a request. -/
  | prepared (message : M) (request : Request)
  /-- A request took its place in the writer's queue. -/
  | queued (ticket : Ticket)
  | registered (ticket : Ticket) (key : String)
  | unregistered (ticket : Ticket) (key : String) (error : LinkError)
  /-- A request was left out because its caller had stopped waiting. -/
  | skipped (ticket : Ticket) (key : String)
  | sent (ticket : Ticket) (key : String) (length : Nat)
  | writeFailed (ticket : Ticket) (key : String) (error : IoError)
  | interrupted (ticket : Ticket) (key : String)
  | rejected (count : Nat)
  /-- A frame was read completely. -/
  | received (payload : Bytes)
  | delivered (ticket : Ticket) (key : String)
  | unmatched (key : Option String) (reason : UnmatchedReason)
  | unmatchedLost (loss : UnmatchedLoss)
  | peerFinished
  | readerFailed (error : LinkError)
  | readerExited
  | writerExited
  | readerCrashed (text : String)
  | writerCrashed (text : String)
  | drainRepeated
  | draining (reason : DrainReason)
  | failing (count : Nat)
  | orphaned (key : String)
  | withdrawn (key : String)
  | timedOut (ticket : Ticket) (key : String) (millis : Nat)
  | closed
  /-- A call returned; a request that was never built has no ticket. -/
  | returned (call : Nat) (ticket : Option Ticket) (result : Result M)
  deriving DecidableEq

namespace Event

variable {M : Type}

/-- The wording of a crashed task, whose number is not told. -/
def crashText (text : String) : String :=
  "task N panicked with message " ++ Text.quoted text

/-- The line of an event in the log. -/
def line? : Event M → Option String
  | started => some "DEBUG Connection loops started"
  | issued _ | prepared _ _ | queued _ | registered _ _ | received _ | returned _ _ _ => none
  | unregistered _ key error =>
    some ("WARN Request not registered error=" ++ error.message ++ " key=" ++ key)
  | skipped _ key => some ("DEBUG Skipping request abandoned before write key=" ++ key)
  | sent _ key length =>
    some ("DEBUG Sent request frame bytes=" ++ toString length ++ " key=" ++ key)
  | writeFailed _ key error =>
    some ("WARN Failed to write request frame error=" ++ error.message ++ " key=" ++ key)
  | interrupted _ key => some ("DEBUG Write interrupted by shutdown key=" ++ key)
  | rejected count =>
    some ("DEBUG Rejected queued requests on shutdown rejected=" ++ toString count)
  | delivered _ key => some ("DEBUG Delivered reply key=" ++ key)
  | unmatched key _ => some ("WARN Received unmatched message key=" ++ key.getD "<none>")
  | unmatchedLost .queueFull => some "WARN Dropped unmatched message cause=queue full"
  | unmatchedLost .receiverDropped => some "WARN Dropped unmatched message cause=receiver dropped"
  | peerFinished => some "DEBUG Connection closed by peer"
  | readerFailed error => some ("ERROR Reader loop terminating error=" ++ error.message)
  | readerExited => some "DEBUG Reader loop exiting"
  | writerExited => some "DEBUG Writer loop exiting"
  | readerCrashed text => some ("ERROR Reader loop aborted error=" ++ crashText text)
  | writerCrashed text => some ("ERROR Writer loop aborted error=" ++ crashText text)
  | drainRepeated => some "DEBUG Drain already in progress"
  | draining reason =>
    if reason.isOrderly then some "INFO Connection draining"
    else some "WARN Connection draining after failure"
  | failing count => some ("INFO Failing outstanding requests pending=" ++ toString count)
  | orphaned key => some ("DEBUG Drained request had no waiting caller key=" ++ key)
  | withdrawn key => some ("DEBUG Removed timed out request key=" ++ key)
  | timedOut _ key millis =>
    some ("WARN Request timed out key=" ++ key ++ " timeout_ms=" ++ toString millis)
  | closed => some "INFO Connection closed"

/-- The call that returned by this event, and what it returned. -/
def returned? : Event M → Option (Nat × Result M)
  | returned call _ result => some (call, result)
  | _ => none

end Event

end Multiplex
