import Multiplex.Link.Drain

/-!
# The reading side

The reader takes bytes from the transport into a buffer and cuts them into frames, however they
were cut into chunks on their way. Each complete payload is read as a message and handed to the
caller whose request is filed under the message's key. A message without such a caller is counted,
and kept if there is room; it never stops the reader. A header, a payload or an end of stream that
leaves the stream unreadable does.
-/

namespace Multiplex.Link

variable {M : Type}

/-- The crash that a poisoned transport inflicts on its reader. -/
def poisonText : String :=
  "called \x60Result::unwrap()\x60 on an \x60Err\x60 value: PoisonError \x7b .. \x7d"

/-- The reader ends, for a reason of its own if there is one. -/
def stopReading (link : Link M) (reason : Option DrainReason) : Link M :=
  let link :=
    match reason with
    | some reason => link.drain reason
    | none => link
  { link with reader := .ended none }.note .readerExited

/-- The reader ends because of a fault. -/
def failReading (link : Link M) (error : LinkError) : Link M :=
  (link.note (.readerFailed error)).stopReading (some (.readFailure error))

/-- The fault of a stream that breaks off inside a part of a frame, or fails there. -/
def breakOff (part : Part) (error : IoError) : LinkError :=
  match part with
  | .boundary => .framing "reading length header" (some error)
  | .header _ => .framing "short length header" (some error)
  | .payload length _ _ =>
    .framing ("short read of " ++ toString length ++ " byte payload") (some error)

/-- Keeps an unmatched message, if it can be kept. -/
def keepUnmatched (depth : Nat) (link : Link M) (item : UnmatchedMessage M) : Link M :=
  if depth = 0 then link
  else if link.receiver = .gone then link.note (.unmatchedLost .receiverDropped)
  else if depth ≤ link.unmatched.length then link.note (.unmatchedLost .queueFull)
  else { link with unmatched := link.unmatched ++ [item] }

/-- Counts a message that reached no caller. -/
def addUnmatched (wiring : Wiring M) (link : Link M) (item : UnmatchedMessage M) : Link M :=
  let stats := { link.stats with unmatched := link.stats.unmatched + 1 }
  let link := { link with stats }.note (.unmatched item.key item.reason)
  keepUnmatched wiring.config.unmatchedQueueDepth link item

/-- Hands a message to the caller whose request is filed under its key. -/
def deliver (wiring : Wiring M) (link : Link M) (message : M) : Link M :=
  match wiring.key message with
  | .error error => addUnmatched wiring link ⟨none, .noKey error, message⟩
  | .ok key =>
    match link.table.take key with
    | (none, _) => addUnmatched wiring link ⟨some key, .noPendingRequest, message⟩
    | (some ticket, table) =>
      match link.exchanges.resolve ticket message with
      | (exchanges, none) =>
        let stats := { link.stats with repliesMatched := link.stats.repliesMatched + 1 }
        ({ link with table, stats }.tell ticket exchanges).note (.delivered ticket key)
      | (exchanges, some message) =>
        addUnmatched wiring { link with table, exchanges } ⟨some key, .callerGone, message⟩

/-- Reads a complete payload as a message. The reader goes on at the next frame with `buffer`. -/
def dispatch (wiring : Wiring M) (link : Link M) (buffer payload : Bytes) : Link M :=
  let stats := { link.stats with
    bytesReceived := link.stats.bytesReceived + wiring.framing.size + payload.length }
  let link := { link with stats, reader := .running buffer .boundary }.note (.received payload)
  match wiring.codec.unpack payload with
  | .message message => deliver wiring link message
  | .refused fault => link.failReading (.undecodable fault)
  | .crashed text => { link with reader := .ended (some text) }

/-- Goes on to the payload that a complete header announces. -/
def announce (wiring : Wiring M) (link : Link M) (buffer header : Bytes) : Link M :=
  match wiring.framing.decode header with
  | .error fault => link.failReading (.badLength fault)
  | .ok length =>
    if wiring.config.maxFrameSize < length then
      link.failReading (.badLength
        (.lengthOutOfRange length wiring.config.maxFrameSize "max_frame_size"))
    else if length = 0 then dispatch wiring link buffer []
    else { link with reader := .running buffer (.payload length length []) }

/-- Uses buffered bytes for a header of which `got` has been read. -/
def readHeader (wiring : Wiring M) (link : Link M) (buffer got : Bytes) : Link M :=
  let want := wiring.framing.size - got.length
  let got := got ++ buffer.take want
  if got.length < wiring.framing.size then { link with reader := .running [] (.header got) }
  else announce wiring link (buffer.drop want) got

/-- Uses buffered bytes for a payload of which `missing` bytes are still to come. -/
def readPayload (wiring : Wiring M) (link : Link M) (buffer : Bytes) (length missing : Nat)
    (got : Bytes) : Link M :=
  let taken := buffer.take missing
  let left := missing - taken.length
  if left = 0 then dispatch wiring link (buffer.drop missing) (got.reverse ++ taken)
  else { link with reader := .running [] (.payload length left (taken.reverse ++ got)) }

/-- Uses buffered bytes for the part of a frame that is being read. -/
def consume (wiring : Wiring M) (link : Link M) (buffer : Bytes) : Part → Link M
  | .boundary => readHeader wiring link buffer []
  | .header got => readHeader wiring link buffer got
  | .payload length missing got => readPayload wiring link buffer length missing got

/-- Takes what arrived next from the transport, at most a buffer's worth of bytes. A read that is
interrupted inside a frame is tried again. -/
def receive (wiring : Wiring M) (link : Link M) (part : Part) (rest : List Inbound) :
    Inbound → Link M
  | .chunk bytes =>
    let capacity := max wiring.config.readBufferSize 1
    let inbound :=
      if bytes.length ≤ capacity then rest else .chunk (bytes.drop capacity) :: rest
    { link with
      transport := { link.transport with inbound }
      reader := .running (bytes.take capacity) part }
  | .finish =>
    let link := { link with transport := { link.transport with inbound := rest } }
    match part with
    | .boundary => (link.note .peerFinished).stopReading (some .peerClosed)
    | part => link.failReading (breakOff part (.plain .unexpectedEof))
  | .fault error =>
    let link := { link with transport := { link.transport with inbound := rest } }
    if error.isInterruption && part ≠ .boundary then link
    else link.failReading (breakOff part error)

/-- One step of the reader; none if it waits or has ended. -/
def readStep? (wiring : Wiring M) (link : Link M) : Option (Link M) :=
  match link.reader with
  | .ended _ => none
  | .running buffer part =>
    if link.stopAsked then some (link.stopReading none)
    else if buffer.isEmpty then
      match link.transport.inbound with
      | [] => none
      | item :: rest =>
        if link.transport.poisoned then some { link with reader := .ended (some poisonText) }
        else some (receive wiring link part rest item)
    else some (consume wiring link buffer part)

end Multiplex.Link
