import Multiplex.Config
import Multiplex.Exchange.Table
import Multiplex.Framing.Header
import Multiplex.Link.Event
import Multiplex.Link.Transport
import Multiplex.Stan

/-!
# The state of a link

A link multiplexes requests over one transport. Its writer takes requests from a queue, files each
under its key and writes its frame. Its reader cuts the inbound stream into frames and hands each
message to the caller whose request has the same key. When either ends, or the user wants it, the
link drains: it fails whatever is pending, both loops end, and the link is closed.

`Link` is the whole state at one moment; the modules beside this one say how it moves.
-/

namespace Multiplex

/-- What a link is built from: any codec, any framing, any way to find the key of a message, and
its settings. -/
structure Wiring (M : Type) where
  codec : Codec M
  framing : Framing
  /-- The key of a message, which a reply has in common with its request. -/
  key : M → Except LinkError String
  config : Config

/-- A choice among the layouts and policies of this library. -/
structure Setup (M : Type) where
  codec : Codec M
  header : Header
  policy : Policy
  config : Config

/-- What a link of this choice is built from. -/
def Setup.wiring {M : Type} (setup : Setup M) : Wiring M where
  codec := setup.codec
  framing := setup.header.framing
  key := setup.policy.key setup.codec
  config := setup.config

/-- The phases of a link, in the order in which it passes through them. -/
inductive Phase where
  | active
  | draining
  | closed
  deriving DecidableEq, Repr

/-- How the writer ended. -/
inductive WriterEnd where
  | done
  | fault (error : IoError)
  | crashed (text : String)
  deriving DecidableEq, Repr

/-- Where the writer stands. -/
inductive Writer where
  /-- It waits for a request. -/
  | idle
  /-- The bytes `rest` of a registered request's frame are still to be accepted. -/
  | writing (request : Request) (rest : Bytes)
  /-- The frame is written and has to be flushed. -/
  | flushing (request : Request)
  /-- It shuts the write side down. -/
  | closing
  | ended (how : WriterEnd)
  deriving DecidableEq, Repr

/-- The writer's task is over. -/
def Writer.isEnded : Writer → Bool
  | .ended _ => true
  | _ => false

/-- Which part of a frame the reader is reading. -/
inductive Part where
  | boundary
  /-- The first bytes of a length header. -/
  | header (got : Bytes)
  /-- A payload of `length` bytes, of which `missing` are still to come; the others are kept last
  byte first. -/
  | payload (length missing : Nat) (got : Bytes)
  deriving DecidableEq, Repr

/-- Where the reader stands. -/
inductive Reader where
  /-- It reads a frame; `buffer` holds bytes taken from the transport ahead of their use. -/
  | running (buffer : Bytes) (part : Part)
  /-- It is over, by a crash if there is a text. -/
  | ended (crash : Option String)
  deriving DecidableEq, Repr

/-- The reader's task is over. -/
def Reader.isEnded : Reader → Bool
  | .ended _ => true
  | _ => false

/-- The counters of a link. -/
structure Stats where
  requestsSent : Nat := 0
  repliesMatched : Nat := 0
  unmatched : Nat := 0
  writeFailures : Nat := 0
  drained : Nat := 0
  bytesSent : Nat := 0
  bytesReceived : Nat := 0
  deriving DecidableEq, Repr

/-- An inbound message that reached no caller. -/
structure UnmatchedMessage (M : Type) where
  key : Option String
  reason : UnmatchedReason
  message : M

/-- Who holds the receiving end of the unmatched messages. -/
inductive Receiver where
  /-- The link itself, until somebody takes it. -/
  | held
  | taken
  | gone
  deriving DecidableEq, Repr

/-- A deadline: how long it was, and the time at which it passes. -/
structure Timer where
  millis : Nat
  due : Nat
  deriving DecidableEq, Repr

/-- What a call waits for. -/
inductive Task where
  /-- The outcome of a request, which is `handed` once it is in the writer's queue. -/
  | send (request : Request) (handed : Bool) (timer : Option Timer)
  /-- The end of the link, and how it ended. -/
  | close
  /-- The end of the link. -/
  | watch
  deriving DecidableEq, Repr

/-- A call that has not returned; it holds the link open. -/
structure Call where
  /-- Its number among the calls made on the link. -/
  number : Nat
  task : Task
  deriving DecidableEq, Repr

namespace Call

/-- The call waits for a place in the writer's queue. -/
def inLine (call : Call) : Bool :=
  match call.task with
  | .send _ handed _ => !handed
  | _ => false

/-- The ticket of the call's request. -/
def ticket? (call : Call) : Option Ticket :=
  match call.task with
  | .send request _ _ => some request.ticket
  | .close | .watch => none

/-- The time at which the call's deadline passes. -/
def due? (call : Call) : Option Nat :=
  match call.task with
  | .send _ _ timer => timer.map Timer.due
  | .close | .watch => none

end Call

/-- A link at one moment. -/
structure Link (M : Type) where
  phase : Phase := .active
  /-- The loops, and whoever is in line for the writer's queue, have been asked to stop. -/
  stopAsked : Bool := false
  table : Table := .empty
  exchanges : Exchanges M := []
  /-- Requests handed to the writer, oldest first. -/
  queue : List Request := []
  /-- The writer still takes requests. -/
  queueOpen : Bool := true
  writer : Writer := .idle
  reader : Reader := .running [] .boundary
  transport : Transport := {}
  /-- Unmatched messages that were kept, oldest first, and who may receive them. -/
  unmatched : List (UnmatchedMessage M) := []
  receiver : Receiver := .held
  stats : Stats := {}
  stan : Stan := .fresh
  /-- The time, in milliseconds. -/
  clock : Nat := 0
  /-- How many calls have been made; the next one gets this number. -/
  made : Nat := 0
  /-- The calls that have not returned, in the order in which they were made. -/
  calls : List Call := []
  /-- The tickets whose callers have been told an outcome and have not returned yet, in the order in
  which they were told. -/
  told : List Ticket := []
  /-- The user still holds a handle of its own. -/
  handle : Bool := true
  /-- What shutting the transport down ended with, once the link is closed. -/
  shutdownFault : Option LinkError := none
  /-- What happened so far, latest first. -/
  history : List (Event M) := [.started]

namespace Link

variable {M : Type}

/-- A link just after its start. -/
def fresh : Link M := {}

/-- The link with one more event in its history. -/
def note (link : Link M) (event : Event M) : Link M :=
  { link with history := event :: link.history }

/-- The number of entries in the table. -/
def pending (link : Link M) : Nat :=
  link.table.size

/-- The caller of a ticket has stopped waiting. -/
def isAbandoned (link : Link M) (ticket : Ticket) : Bool :=
  link.exchanges.isAbandoned ticket

/-- The link once the entry of a ticket has been consumed, which leaves `exchanges`. A caller who
still waits is told. -/
def tell (link : Link M) (ticket : Ticket) (exchanges : Exchanges M) : Link M :=
  { link with
    exchanges
    told := if link.isAbandoned ticket then link.told else link.told ++ [ticket] }

/-- Delivers an error on a ticket. -/
def failTicket (link : Link M) (ticket : Ticket) (error : LinkError) : Link M :=
  link.tell ticket (link.exchanges.fail ticket error).1

/-- Drops the entry of a ticket. -/
def dropTicket (link : Link M) (ticket : Ticket) : Link M :=
  link.tell ticket (link.exchanges.drop ticket)

/-- The caller of a ticket stops waiting. -/
def leaveTicket (link : Link M) (ticket : Ticket) : Link M :=
  { link with exchanges := link.exchanges.leave ticket }

/-- Removes the entry under a key and fails its caller. -/
def failKey (link : Link M) (key : String) (error : LinkError) : Link M :=
  match link.table.take key with
  | (none, _) => link
  | (some ticket, table) => { link with table }.failTicket ticket error

end Link

end Multiplex
