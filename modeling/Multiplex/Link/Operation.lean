import Multiplex.Link.Settling

/-!
# Operations on a link

What a user does with a link, and what happens to its transport and to the clock. An operation is
played at once; then the link settles before the next one. A run is a list of operations played one
after another on a link that has just started (`Link.after`).
-/

namespace Multiplex

/-- Changes to the behaviour of a transport; what is not mentioned stays as it is. -/
structure TransportChange where
  /-- How many more bytes are accepted, without a limit if there is none, and what comes then. -/
  write : Option (Option Nat × WriteStop) := none
  flush : Option Answer := none
  shutdown : Option Answer := none

/-- The transport after a change of its behaviour. -/
def TransportChange.apply (change : TransportChange) (transport : Transport) : Transport :=
  let transport :=
    match change.write with
    | some (room, stop) => { transport with room, stop }
    | none => transport
  { transport with
    flush := change.flush.getD transport.flush
    shutdown := change.shutdown.getD transport.shutdown }

/-- One operation. -/
inductive Operation (M : Type) where
  | pause
  /-- A call sends a message, with a deadline of its own or that of the settings. -/
  | send (message : M) (timeout : Option Nat)
  /-- A call closes the link. -/
  | close
  /-- A call waits for the end of the link. -/
  | watch
  /-- The call of a number is cancelled. -/
  | abort (call : Nat)
  /-- The user gives up its own handle. -/
  | dropHandle
  /-- Something arrives on the transport. -/
  | arrive (item : Inbound)
  | transport (change : TransportChange)
  /-- Time passes, in milliseconds. -/
  | advance (millis : Nat)
  | takeUnmatched
  | dropUnmatched
  /-- Receives unmatched messages, at most as many as the limit if there is one. -/
  | receiveUnmatched (limit : Option Nat)

namespace Operation

/-- Why no further unmatched message was received. -/
inductive ReceiveEnd where
  | limit
  | empty
  | disconnected
  deriving DecidableEq, Repr

/-- What an operation answers at once. -/
inductive Reply (M : Type) where
  | nothing
  /-- The link has started. -/
  | started
  /-- The user no longer holds a handle. -/
  | noHandle
  | noReceiver
  | flag (value : Bool)
  | received (items : List (UnmatchedMessage M)) (why : ReceiveEnd)

end Operation

namespace Link

variable {M : Type}

/-- The link after something has arrived on its transport. An empty chunk is nothing. -/
def arrive (link : Link M) (item : Inbound) : Link M :=
  match item with
  | .chunk [] => link
  | item => { link with transport := link.transport.arrive item }

/-- The link after its transport has changed. A running reader looks at the transport then, which
crashes it if the transport was poisoned. -/
def changeTransport (link : Link M) (change : TransportChange) : Link M :=
  let crashes := link.transport.poisoned && !link.reader.isEnded
  { link with
    transport := change.apply link.transport
    reader := if crashes then .ended (some poisonText) else link.reader }

/-- Takes unmatched messages out of the queue until the limit, or none is left. -/
def receiveUnmatched (link : Link M) (limit : Option Nat) : Operation.Reply M × Link M :=
  let count := min (limit.getD link.unmatched.length) link.unmatched.length
  let why :=
    if limit = some count then .limit
    else if link.reader.isEnded then .disconnected
    else .empty
  (.received (link.unmatched.take count) why,
    { link with unmatched := link.unmatched.drop count })

/-- Plays an operation that needs the user's handle. -/
def withHandle (link : Link M) (play : Link M → Operation.Reply M × Link M) :
    Operation.Reply M × Link M :=
  if link.handle then play link else (.noHandle, link)

/-- Plays an operation, before anything settles. -/
def play (wiring : Wiring M) (link : Link M) : Operation M → Operation.Reply M × Link M
  | .pause => (.nothing, link)
  | .send message timeout =>
    withHandle link fun link =>
      (.nothing, link.send wiring message (timeout <|> wiring.config.requestTimeout))
  | .close => withHandle link fun link => (.nothing, link.close)
  | .watch => withHandle link fun link => (.nothing, link.watch)
  | .abort call => (.nothing, link.abort call)
  | .dropHandle => (.nothing, if link.handle then link.dropHandle else link)
  | .arrive item => (.nothing, link.arrive item)
  | .transport change => (.nothing, link.changeTransport change)
  | .advance millis => (.nothing, { link with clock := link.clock + millis })
  | .takeUnmatched =>
    withHandle link fun link =>
      if 0 < wiring.config.unmatchedQueueDepth && link.receiver = .held then
        (.flag true, { link with receiver := .taken })
      else (.flag false, link)
  | .dropUnmatched =>
    if link.receiver = .taken then (.flag true, { link with receiver := .gone, unmatched := [] })
    else (.flag false, link)
  | .receiveUnmatched limit =>
    if link.receiver = .taken then link.receiveUnmatched limit else (.noReceiver, link)

/-- Plays an operation and lets the link settle. -/
def perform (wiring : Wiring M) (link : Link M) (operation : Operation M) :
    Operation.Reply M × Link M :=
  let (reply, played) := play wiring link operation
  (reply, played.settle wiring)

/-- A link that has started and settled. -/
def start (wiring : Wiring M) : Link M :=
  (fresh : Link M).settle wiring

/-- The link after some operations since its start. -/
def after (wiring : Wiring M) (operations : List (Operation M)) : Link M :=
  operations.foldl (fun link operation => (perform wiring link operation).2) (start wiring)

end Link

end Multiplex
