import Multiplex.Link.Drain

/-!
# The writing side

The writer takes one request at a time from its queue, files it under its key, and writes and
flushes its frame, so frames never mix and no reply can come before its request is filed. A request
whose caller has stopped waiting is left out; one whose key is held by a live request is refused.
Once the link drains, the writer breaks off, fails what is still queued and shuts the write side
down.
-/

namespace Multiplex.Link

variable {M : Type}

/-- Fails the callers of queued requests. -/
def failQueued (link : Link M) : List Request → Link M
  | [] => link
  | request :: rest => (link.failTicket request.ticket .closed).failQueued rest

/-- Drops the entries of queued requests. -/
def dropQueued (link : Link M) : List Request → Link M
  | [] => link
  | request :: rest => (link.dropTicket request.ticket).dropQueued rest

/-- Takes no more requests, fails those in the queue, and begins to shut down. -/
def stopWriting (link : Link M) : Link M :=
  let waiting := link.queue
  let link := { link with queue := [], queueOpen := false }.failQueued waiting
  let link := if waiting.isEmpty then link else link.note (.rejected waiting.length)
  { link with writer := .closing }.note .writerExited

/-- Files a request under its key and begins to write its frame, unless the table refuses it or its
caller has stopped waiting. -/
def register (link : Link M) (request : Request) : Link M :=
  match link.table.insert link.isAbandoned request.key request.ticket with
  | .refused entry =>
    (link.note (.unregistered entry request.key .closed)).failTicket entry .closed
  | .duplicate entry =>
    let error := LinkError.duplicateKey request.key
    (link.note (.unregistered entry request.key error)).failTicket entry error
  | .accepted table displaced =>
    let link := { link with table }.note (.registered request.ticket request.key)
    let link :=
      match displaced with
      | some old => link.dropTicket old
      | none => link
    match link.table.takeAbandoned link.isAbandoned request.key with
    | (some ticket, table) =>
      ({ link with table }.note (.skipped request.ticket request.key)).dropTicket ticket
    | (none, _) => { link with writer := .writing request request.frame }

/-- The request's frame could not be written or flushed. -/
def failWriting (wiring : Wiring M) (link : Link M) (request : Request) (error : IoError) :
    Link M :=
  let stats := { link.stats with writeFailures := link.stats.writeFailures + 1 }
  let link := { link with stats, writer := .idle }.note
    (.writeFailed request.ticket request.key error)
  let failure := LinkError.writeFailed request.key error
  let link := link.failKey request.key failure
  if wiring.config.closeOnWriteFailure then link.drain (.writeFailure failure) else link

/-- The writer breaks off a frame because the link drains. -/
def interrupt (link : Link M) (request : Request) : Link M :=
  let link := { link with writer := .idle }.note (.interrupted request.ticket request.key)
  link.failKey request.key .closed

/-- The writer crashes; whatever is queued is lost, and the transport is left poisoned. -/
def crashWriting (link : Link M) (text : String) : Link M :=
  let waiting := link.queue
  let link := { link with queue := [], queueOpen := false }.dropQueued waiting
  { link with
    writer := .ended (.crashed text)
    transport := { link.transport with poisoned := true } }

/-- Writes as many bytes of a frame as the transport accepts; none if it stalls at once. -/
def writeStep? (wiring : Wiring M) (link : Link M) (request : Request) (rest : Bytes) :
    Option (Link M) :=
  if rest.isEmpty then some { link with writer := .flushing request }
  else
    let count := link.transport.accepts rest.length
    if 0 < count then
      some { link with
        transport := link.transport.accept (rest.take count)
        writer := .writing request (rest.drop count) }
    else
      match link.transport.stop with
      | .stalled => none
      | .fault error => some (failWriting wiring link request error)
      | .nothing => some (failWriting wiring link request (.plain .writeZero))
      | .crashes text => some (link.crashWriting text)

/-- Flushes a frame; none if the transport stalls. -/
def flushStep? (wiring : Wiring M) (link : Link M) (request : Request) : Option (Link M) :=
  match link.transport.flush with
  | .stalled => none
  | .fault error => some (failWriting wiring link request error)
  | .crashes text => some (link.crashWriting text)
  | .done =>
    let length := request.frame.length
    let stats := { link.stats with
      requestsSent := link.stats.requestsSent + 1
      bytesSent := link.stats.bytesSent + length }
    some ({ link with stats, writer := .idle }.note (.sent request.ticket request.key length))

/-- Shuts the write side down; none if the transport stalls and has been asked before. -/
def shutdownStep? (link : Link M) : Option (Link M) :=
  let asked := { link with transport := { link.transport with shutdownAsked := true } }
  match link.transport.shutdown with
  | .done => some { asked with writer := .ended .done }
  | .fault error => some { asked with writer := .ended (.fault error) }
  | .crashes text =>
    some { asked with
      writer := .ended (.crashed text)
      transport := { asked.transport with poisoned := true } }
  | .stalled => if link.transport.shutdownAsked then none else some asked

/-- One step of the writer; none if it waits or has ended. -/
def writerStep? (wiring : Wiring M) (link : Link M) : Option (Link M) :=
  match link.writer with
  | .idle =>
    if link.stopAsked then some link.stopWriting
    else
      match link.queue with
      | [] => none
      | request :: rest => some ({ link with queue := rest }.register request)
  | .writing request rest =>
    if link.stopAsked then some (link.interrupt request)
    else writeStep? wiring link request rest
  | .flushing request =>
    if link.stopAsked then some (link.interrupt request)
    else flushStep? wiring link request
  | .closing => link.shutdownStep?
  | .ended _ => none

end Multiplex.Link
