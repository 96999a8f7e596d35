import Multiplex.Link.Drain

/-!
# The calling side

A request is prepared at once or not at all: it gets a trace number if it has none, its key is
derived, and it is packed and framed. Then its call waits for a place in the writer's queue, hands
the request over, and waits for the outcome. A deadline covers all of the waiting, and an outcome
that is there when it passes comes first.
-/

namespace Multiplex.Link

variable {M : Type}

/-- The message with a trace number in the configured field, if that was empty, and the counter
after it. -/
def assignStan (wiring : Wiring M) (stan : Stan) (message : M) : Except LinkError M × Stan :=
  let id := wiring.config.stanField
  match wiring.codec.text message id with
  | .error fault =>
    (.error (.uncorrelated ("getting STAN (field " ++ toString id.toNat ++ ")") (some fault)), stan)
  | .ok text =>
    if text ≠ "" then (.ok message, stan)
    else
      let stan := stan.next
      match wiring.codec.set message id stan.text with
      | .ok message => (.ok message, stan)
      | .error fault =>
        (.error (.uncorrelated
          ("setting STAN (field " ++ toString id.toNat ++ ") to " ++ stan.text) (some fault)), stan)

/-- The frame of a message: the length header, then the payload, which both size limits allow. -/
def frameOf (wiring : Wiring M) (message : M) : Except LinkError Bytes :=
  match wiring.codec.pack message with
  | .error fault => .error (.unencodable fault)
  | .ok payload =>
    if wiring.config.maxFrameSize < payload.length then
      .error (.unencodable
        (.lengthOutOfRange payload.length wiring.config.maxFrameSize "max_frame_size"))
    else
      match wiring.framing.encode payload.length with
      | .error fault => .error (.unencodable fault)
      | .ok header => .ok (header ++ payload)

/-- The key and the frame of a message that has its trace number. -/
def keyedFrame (wiring : Wiring M) (message : M) : Except LinkError (String × Bytes) :=
  match wiring.key message with
  | .error error => .error error
  | .ok key =>
    match frameOf wiring message with
    | .error error => .error error
    | .ok frame => .ok (key, frame)

/-- Builds the request of a message and opens its exchange. A trace number that was issued on the
way stays issued if a later step fails. -/
def prepare (wiring : Wiring M) (link : Link M) (message : M) :
    Except LinkError Request × Link M :=
  if link.phase ≠ .active then (.error .closed, link)
  else
    let (assigned, stan) := assignStan wiring link.stan message
    let link :=
      if stan.last = link.stan.last then link else { link with stan }.note (.issued stan.text)
    match assigned with
    | .error error => (.error error, link)
    | .ok message =>
      match keyedFrame wiring message with
      | .error error => (.error error, link)
      | .ok (key, frame) =>
        let request : Request := ⟨link.exchanges.length, key, frame⟩
        (.ok request,
          { link with exchanges := link.exchanges ++ [Exchange.fresh] }.note
            (.prepared message request))

/-- Adds a call that waits. -/
def addCall (link : Link M) (task : Task) : Link M :=
  { link with calls := link.calls ++ [⟨link.made, task⟩], made := link.made + 1 }

/-- Makes a call that sends a message, with a deadline if there is one. -/
def send (wiring : Wiring M) (link : Link M) (message : M) (timeout : Option Nat) : Link M :=
  match prepare wiring link message with
  | (.error error, link) =>
    { link with made := link.made + 1 }.note (.returned link.made none (.failed error))
  | (.ok request, link) =>
    link.addCall (.send request false (timeout.map fun millis => ⟨millis, link.clock + millis⟩))

/-- Makes a call that closes the link and waits for its end. -/
def close (link : Link M) : Link M :=
  (link.drain .userClose).addCall .close

/-- Makes a call that waits for the end of the link. -/
def watch (link : Link M) : Link M :=
  link.addCall .watch

/-- The caller of a request stops waiting; a request not yet handed over is gone with it. -/
def leave (link : Link M) (request : Request) (handed : Bool) : Link M :=
  let link := link.leaveTicket request.ticket
  if handed then link else link.dropTicket request.ticket

/-- A request's deadline has passed: its caller leaves, and takes along an abandoned entry under
its key. -/
def expire (link : Link M) (request : Request) (handed : Bool) (timer : Timer) :
    Link M × Result M :=
  let link := link.leave request handed
  let link :=
    match link.table.takeAbandoned link.isAbandoned request.key with
    | (some ticket, table) =>
      ({ link with table }.note (.withdrawn request.key)).dropTicket ticket
    | (none, _) => link
  (link.note (.timedOut request.ticket request.key timer.millis),
    .failed (.timedOut request.key timer.millis))

/-- What a call has come to after it ran: it goes on, or it returns. -/
inductive Turn (M : Type) where
  | goOn (call : Call)
  | returns (result : Result M)

/-- The deadline of a request that has no outcome: nothing, unless it has passed. -/
def expireIfDue (link : Link M) (request : Request) (handed : Bool) (timer : Option Timer) :
    Option (Link M × Turn M) :=
  match timer with
  | none => none
  | some timer =>
    if timer.due ≤ link.clock then
      let (link, result) := link.expire request handed timer
      some (link, .returns result)
    else none

/-- A call runs until it has to wait; none if it cannot move at all. A request is handed over if
the queue has room and no earlier call is in line for it (`first`). -/
def turn? (wiring : Wiring M) (link : Link M) (first : Bool) (call : Call) :
    Option (Link M × Turn M) :=
  match call.task with
  | .send request false timer =>
    if link.stopAsked || !link.queueOpen then
      some (link.leave request false, .returns (.failed .closed))
    else if first && link.queue.length < max wiring.config.writeQueueDepth 1 then
      let link := { link with queue := link.queue ++ [request] }.note (.queued request.ticket)
      match link.expireIfDue request true timer with
      | some done => some done
      | none => some (link, .goOn { call with task := .send request true timer })
    else link.expireIfDue request false timer
  | .send request true timer =>
    match link.exchanges.poll request.ticket with
    | some (.ok message) => some (link.leaveTicket request.ticket, .returns (.replied message))
    | some (.error error) => some (link.leaveTicket request.ticket, .returns (.failed error))
    | none => link.expireIfDue request true timer
  | .close =>
    match link.phase, link.shutdownFault with
    | .closed, none => some (link, .returns .closed)
    | .closed, some fault => some (link, .returns (.failed fault))
    | _, _ => none
  | .watch => if link.phase = .closed then some (link, .returns .observed) else none

/-- The number of the call that is first in line for the writer's queue. -/
def next? (link : Link M) : Option Nat :=
  (link.calls.find? Call.inLine).map Call.number

/-- The calls whose deadline has passed, the earliest deadline first. -/
def dueCalls (link : Link M) : List Call :=
  let due := link.calls.filterMap fun call =>
    match call.due? with
    | some time => if time ≤ link.clock then some (time, call) else none
    | none => none
  (due.mergeSort fun a b => a.1 ≤ b.1).map Prod.snd

/-- The call that waits for the outcome of a ticket. -/
def callOf? (link : Link M) (ticket : Ticket) : Option Call :=
  link.calls.find? fun call => call.ticket? = some ticket

/-- One call takes its turn, if it can move; `next` is first in line for the writer's queue. -/
def turnOf? (wiring : Wiring M) (link : Link M) (next : Option Nat) (call : Call) :
    Option (Link M) :=
  match turn? wiring link (next = some call.number) call with
  | none => none
  | some (link, .goOn call) =>
    some { link with
      calls := link.calls.map fun other => if other.number = call.number then call else other }
  | some (link, .returns result) => some (link.finish call result)

/-- One step of the calls; none if all of them wait. First come the calls that have been told an
outcome, in the order in which they were, then those whose deadline has passed, then all in the
order in which they were made. -/
def callStep? (wiring : Wiring M) (link : Link M) : Option (Link M) :=
  let turn := turnOf? wiring link link.next?
  (link.told.findSome? fun ticket => (link.callOf? ticket).bind turn)
    <|> link.dueCalls.findSome? turn
    <|> link.calls.findSome? turn

/-- Cancels a call, unless it has returned. -/
def abort (link : Link M) (number : Nat) : Link M :=
  match link.calls.find? fun call => call.number = number with
  | none => link
  | some call =>
    let link := link.removeCall call
    let link :=
      match call.task with
      | .send request handed _ => link.leave request handed
      | .close | .watch => link
    link.release

/-- The user gives up its own handle. -/
def dropHandle (link : Link M) : Link M :=
  { link with handle := false }.release

end Multiplex.Link
