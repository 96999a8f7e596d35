import Multiplex.Proofs.Effects
import Multiplex.Proofs.Run
import Mathlib.Logic.Relation

/-!
# Elementary changes

Each elementary change says exactly when it can happen and what it does. What every elementary
change keeps, a chain of them keeps (`Changes.keeps`), so an invariant has one case for each of them
and none for the functions that make them.
-/

namespace Multiplex

variable {M : Type}

/-- The request whose frame the writer is writing or flushing. -/
def Writer.request? : Writer → Option Request
  | .writing request _ | .flushing request => some request
  | _ => none

/-- How a transport takes what is asked of its write side. -/
def Transport.sink (transport : Transport) : Option Nat × WriteStop × Answer × Answer :=
  (transport.room, transport.stop, transport.flush, transport.shutdown)

/-- What the end of a writer makes of the end of its link. -/
def WriterEnd.fault? : WriterEnd → Option LinkError
  | .done => none
  | .fault error => some (.io "shutting down transport" error)
  | .crashed text =>
    some (.io "writer loop aborted" (.described .other (Event.crashText text)))

/-- The counters after a frame with a payload of some length has been read. -/
def Stats.readFrame (stats : Stats) (framing : Framing) (length : Nat) : Stats :=
  { stats with bytesReceived := stats.bytesReceived + framing.size + length }

/-- What a call returns when its exchange has come to an outcome. -/
def Result.ofOutcome : Except LinkError M → Result M
  | .ok message => .replied message
  | .error error => .failed error

/-- What a call for a request may return now. -/
inductive Returns (link : Link M) (request : Request) (timer : Option Timer) :
    (handed : Bool) → Result M → Prop
  | outcome {outcome : Except LinkError M}
      (there : link.exchanges.poll request.ticket = some outcome) :
      Returns link request timer true (.ofOutcome outcome)
  | turnedAway (shut : link.phase ≠ .active ∨ link.queueOpen = false) :
      Returns link request timer false (.failed .closed)
  | late {handed : Bool} {deadline : Timer} (timed : timer = some deadline)
      (passed : deadline.due ≤ link.clock)
      (nothing : handed = true →
        link.exchanges.poll request.ticket = none ∨ request ∈ link.queue) :
      Returns link request timer handed (.failed (.timedOut request.key deadline.millis))

/-- What a call that waits for the end of the link returns once the link is closed. -/
def Link.conclusion (link : Link M) : Task → Result M
  | .close =>
    match link.shutdownFault with
    | none => .closed
    | some fault => .failed fault
  | _ => .observed

/-- In this act a call may end or the user may give up its handle, so nobody may hold the link
afterwards. -/
def Act.mayRelease : Act M → Bool
  | .turn _ _ | .play (.abort _) | .play .dropHandle => true
  | _ => false

/-- What makes an active link drain, and the reason that is given for it. -/
inductive DrainCause (wiring : Wiring M) (act : Act M) (link : Link M) : DrainReason → Prop
  | closed (asked : act = .play .close) : DrainCause wiring act link .userClose
  | released (asked : act.mayRelease = true) (handle : link.handle = false)
      (calls : link.calls = []) : DrainCause wiring act link .clientDropped
  | finished (asked : act = .read) : DrainCause wiring act link .peerClosed
  | unreadable {error : LinkError} (asked : act = .read) :
      DrainCause wiring act link (.readFailure error)
  | unwritable {error : LinkError} (asked : act = .write)
      (policy : wiring.config.closeOnWriteFailure = true)
      (failed : ∃ ticket key source, .writeFailed ticket key source ∈ link.history) :
      DrainCause wiring act link (.writeFailure error)
  | exited (asked : act = .supervise) (writer : link.writer.isEnded = true)
      (reader : link.reader.isEnded = true) : DrainCause wiring act link .loopsExited

/-- The elementary changes of a link; `act` is what they are part of. -/
inductive Change (wiring : Wiring M) (act : Act M) : Link M → Link M → Prop
  /-- Nothing changes that matters to entries, frames and calls. -/
  | aside {link : Link M} {remarks : List (Event M)} {transport : Transport}
      {unmatched : List (UnmatchedMessage M)} {receiver : Receiver} {told : List Ticket}
      {handle : Bool} (only : Remarks remarks) (wire : transport.wire = link.transport.wire)
      (poisoned : transport.poisoned = link.transport.poisoned)
      (sink : (∀ change, act ≠ .play (.transport change)) →
        transport.sink = link.transport.sink)
      (inbound : act ≠ .read → (∀ item, act ≠ .play (.arrive item)) →
        transport.inbound = link.transport.inbound)
      (held : act ≠ .play .dropHandle → handle = link.handle) :
      Change wiring act link
        { link with
          transport, unmatched, receiver, told, handle, history := remarks ++ link.history }
  | advance {link : Link M} {millis : Nat} (asked : act = .play (.advance millis)) :
      Change wiring act link { link with clock := link.clock + millis }
  | drain {link : Link M} {reason : DrainReason} (active : link.phase = .active)
      (cause : DrainCause wiring act link reason) :
      Change wiring act link
        { link with
          phase := .draining
          stopAsked := true
          table := ⟨[], true⟩
          exchanges := link.exchanges.closeAll (link.table.slots.map Prod.snd)
          stats := { link.stats with drained := link.stats.drained + link.table.slots.length }
          history := .draining reason :: link.history }
  | closeDown {link : Link M} {how : WriterEnd} {crash : Option String}
      (draining : link.phase = .draining) (writer : link.writer = .ended how)
      (reader : link.reader = .ended crash) (asked : act = .supervise) :
      Change wiring act link { link with phase := .closed, shutdownFault := how.fault? }
  -- the calling side
  | issue {link : Link M} {message : M} {timeout : Option Nat} (active : link.phase = .active)
      (asked : act = .play (.send message timeout)) :
      Change wiring act link
        { link with
          stan := link.stan.next, history := .issued link.stan.next.text :: link.history }
  | send {link : Link M} {message : M} {request : Request} {timeout : Option Nat}
      (asked : act.isQuiet = false) (active : link.phase = .active)
      (ticket : request.ticket = link.exchanges.length)
      (framed : Link.keyedFrame wiring message = .ok (request.key, request.frame))
      (origin : ∃ original given stan, act = .play (.send original given) ∧
        timeout = (given <|> wiring.config.requestTimeout) ∧
        Link.assignStan wiring stan original = (.ok message, link.stan)) :
      Change wiring act link
        { link with
          exchanges := link.exchanges ++ [Exchange.fresh]
          made := link.made + 1
          calls := link.calls ++ [⟨link.made, .send request false
            (timeout.map fun millis => ⟨millis, link.clock + millis⟩)⟩]
          history := .prepared message request :: link.history }
  | reject {link : Link M} {error : LinkError} (asked : act.isQuiet = false) :
      Change wiring act link
        { link with
          made := link.made + 1
          history := .returned link.made none (.failed error) :: link.history }
  | await {link : Link M} {task : Task} (asked : act.isQuiet = false)
      (wait : task = .close ∨ task = .watch) :
      Change wiring act link
        { link with made := link.made + 1, calls := link.calls ++ [⟨link.made, task⟩] }
  | abort {link : Link M} {call : Call} (asked : act = .play (.abort call.number))
      (member : call ∈ link.calls) :
      Change wiring act link
        { link with
          exchanges :=
            match call.task with
            | .send request handed _ => link.exchanges.quit request.ticket handed
            | .close | .watch => link.exchanges
          calls := link.calls.filter fun other => other.number ≠ call.number }
  | enqueue {link : Link M} {call : Call} {request : Request} {timer : Option Timer}
      (member : call ∈ link.calls) (task : call.task = .send request false timer)
      (active : link.phase = .active) (isOpen : link.queueOpen = true)
      (room : link.queue.length < max wiring.config.writeQueueDepth 1)
      (asked : act = .turn call.number true) :
      Change wiring act link
        { link with
          queue := link.queue ++ [request]
          calls := link.calls.map fun other =>
            if other.number = call.number then { call with task := .send request true timer }
            else other
          history := .queued request.ticket :: link.history }
  | finish {link : Link M} {call : Call} {request : Request} {handed : Bool}
      {timer : Option Timer} {result : Result M} {first : Bool}
      (asked : act = .turn call.number first) (member : call ∈ link.calls)
      (task : call.task = .send request handed timer)
      (returns : Returns link request timer handed result) :
      Change wiring act link
        { link with
          exchanges := link.exchanges.quit request.ticket handed
          calls := link.calls.filter fun other => other.number ≠ call.number
          history := .returned call.number (some request.ticket) result :: link.history }
  | conclude {link : Link M} {call : Call} (member : call ∈ link.calls)
      (wait : call.task = .close ∨ call.task = .watch) (closed : link.phase = .closed)
      (asked : ∃ first, act = .turn call.number first) :
      Change wiring act link
        { link with
          calls := link.calls.filter fun other => other.number ≠ call.number
          history := .returned call.number none (link.conclusion call.task) :: link.history }
  | withdraw {link : Link M} {key : String} {holder : Ticket}
      (found : link.table.find? key = some holder)
      (gone : link.exchanges.isAbandoned holder = true)
      (asked : ∃ number first, act = .turn number first) :
      Change wiring act link
        { link with table := link.table.erase key, exchanges := link.exchanges.drop holder }
  -- the reading side
  | read {link : Link M} {buffer buffer' : Bytes} {part part' : Part}
      (running : link.reader = .running buffer part) (asked : act = .read) :
      Change wiring act link { link with reader := .running buffer' part' }
  | undecoded {link : Link M} {buffer payload : Bytes} {part : Part}
      (active : link.phase = .active) (running : link.reader = .running buffer part)
      (unread : ∀ message, wiring.codec.unpack payload ≠ .message message)
      (asked : act = .read) :
      Change wiring act link
        { link with
          stats := link.stats.readFrame wiring.framing payload.length
          history := .received payload :: link.history }
  | unclaimed {link : Link M} {buffer payload : Bytes} {part : Part} {message : M}
      (active : link.phase = .active) (running : link.reader = .running buffer part)
      (read : wiring.codec.unpack payload = .message message)
      (nobody : ∀ key, wiring.key message = .ok key → link.table.find? key = none)
      (asked : act = .read) :
      Change wiring act link
        { link with
          stats :=
            { link.stats.readFrame wiring.framing payload.length with
              unmatched := link.stats.unmatched + 1 }
          history := .received payload :: link.history }
  | claimed {link : Link M} {buffer payload : Bytes} {part : Part} {message : M} {key : String}
      {ticket : Ticket} (active : link.phase = .active)
      (running : link.reader = .running buffer part)
      (read : wiring.codec.unpack payload = .message message)
      (derived : wiring.key message = .ok key) (found : link.table.find? key = some ticket)
      (live : link.exchanges.isAbandoned ticket = false)
      (asked : act = .read) :
      Change wiring act link
        { link with
          table := link.table.erase key
          exchanges := (link.exchanges.resolve ticket message).1
          stats :=
            { link.stats.readFrame wiring.framing payload.length with
              repliesMatched := link.stats.repliesMatched + 1 }
          history := .delivered ticket key :: .received payload :: link.history }
  | late {link : Link M} {buffer payload : Bytes} {part : Part} {message : M} {key : String}
      {ticket : Ticket} (active : link.phase = .active)
      (running : link.reader = .running buffer part)
      (read : wiring.codec.unpack payload = .message message)
      (derived : wiring.key message = .ok key) (found : link.table.find? key = some ticket)
      (gone : link.exchanges.isAbandoned ticket = true)
      (asked : act = .read) :
      Change wiring act link
        { link with
          table := link.table.erase key
          exchanges := (link.exchanges.resolve ticket message).1
          stats :=
            { link.stats.readFrame wiring.framing payload.length with
              unmatched := link.stats.unmatched + 1 }
          history := .received payload :: link.history }
  | endReading {link : Link M} {buffer : Bytes} {part : Part} (inactive : link.phase ≠ .active)
      (running : link.reader = .running buffer part) (asked : act = .read) :
      Change wiring act link { link with reader := .ended none }
  | crashReading {link : Link M} {buffer : Bytes} {part : Part} {text : String}
      (running : link.reader = .running buffer part)
      (cause : link.transport.poisoned = true ∨ ∃ payload,
        .received payload ∈ link.history ∧ wiring.codec.unpack payload = .crashed text)
      (asked : act = .read ∨ link.transport.poisoned = true) :
      Change wiring act link { link with reader := .ended (some text) }
  -- the writing side
  | stopWriting {link : Link M} (inactive : link.phase ≠ .active) (idle : link.writer = .idle)
      (asked : act = .write) :
      Change wiring act link
        { link with
          queue := []
          queueOpen := false
          exchanges := link.exchanges.closeAll (link.queue.map Request.ticket)
          writer := .closing }
  | refuse {link : Link M} {request : Request} {rest : List Request} {holder : Ticket}
      (active : link.phase = .active) (idle : link.writer = .idle)
      (next : link.queue = request :: rest)
      (found : link.table.find? request.key = some holder)
      (live : link.exchanges.isAbandoned holder = false)
      (asked : act = .write) :
      Change wiring act link
        { link with
          queue := rest
          exchanges := (link.exchanges.fail request.ticket (.duplicateKey request.key)).1
          history := .unregistered request.ticket request.key (.duplicateKey request.key) ::
            link.history }
  | skip {link : Link M} {request : Request} {rest : List Request}
      (active : link.phase = .active) (idle : link.writer = .idle)
      (next : link.queue = request :: rest)
      (free : ∀ holder, link.table.find? request.key = some holder →
        link.exchanges.isAbandoned holder = true)
      (gone : link.exchanges.isAbandoned request.ticket = true)
      (asked : act = .write) :
      Change wiring act link
        { link with
          queue := rest
          table := link.table.erase request.key
          exchanges := (link.exchanges.vacate link.table request.key).drop request.ticket
          history := .skipped request.ticket request.key ::
            .registered request.ticket request.key :: link.history }
  | register {link : Link M} {request : Request} {rest : List Request}
      (active : link.phase = .active) (idle : link.writer = .idle)
      (next : link.queue = request :: rest)
      (free : ∀ holder, link.table.find? request.key = some holder →
        link.exchanges.isAbandoned holder = true)
      (live : link.exchanges.isAbandoned request.ticket = false)
      (asked : act = .write) :
      Change wiring act link
        { link with
          queue := rest
          table := link.table.file request.key request.ticket
          exchanges := link.exchanges.vacate link.table request.key
          writer := .writing request request.frame
          history := .registered request.ticket request.key :: link.history }
  | accept {link : Link M} {request : Request} {rest : Bytes} {count : Nat}
      (active : link.phase = .active) (writing : link.writer = .writing request rest)
      (positive : 0 < count) (most : count ≤ rest.length)
      (asked : act = .write) :
      Change wiring act link
        { link with
          transport := link.transport.accept (rest.take count)
          writer := .writing request (rest.drop count) }
  | flush {link : Link M} {request : Request} (active : link.phase = .active)
      (written : link.writer = .writing request [])
      (asked : act = .write) :
      Change wiring act link { link with writer := .flushing request }
  | sent {link : Link M} {request : Request} (active : link.phase = .active)
      (flushing : link.writer = .flushing request)
      (asked : act = .write) :
      Change wiring act link
        { link with
          writer := .idle
          stats :=
            { link.stats with
              requestsSent := link.stats.requestsSent + 1
              bytesSent := link.stats.bytesSent + request.frame.length }
          history := .sent request.ticket request.key request.frame.length :: link.history }
  | fail {link : Link M} {request : Request} {error : IoError} (active : link.phase = .active)
      (working : link.writer.request? = some request)
      (asked : act = .write)
      (unwilling : link.transport.stop ≠ .stalled ∨ link.transport.flush = .fault error) :
      Change wiring act link
        { link with
          writer := .idle
          table := link.table.erase request.key
          exchanges :=
            link.exchanges.failAt link.table request.key (.writeFailed request.key error)
          stats := { link.stats with writeFailures := link.stats.writeFailures + 1 }
          history := .writeFailed request.ticket request.key error :: link.history }
  | interrupt {link : Link M} {request : Request} (inactive : link.phase ≠ .active)
      (working : link.writer.request? = some request)
      (asked : act = .write) :
      Change wiring act link
        { link with
          writer := .idle
          table := link.table.erase request.key
          exchanges := link.exchanges.failAt link.table request.key .closed }
  | crashWriting {link : Link M} {request : Request} {text : String}
      (active : link.phase = .active) (working : link.writer.request? = some request)
      (asked : act = .write)
      (stop : link.transport.stop = .crashes text ∨ link.transport.flush = .crashes text) :
      Change wiring act link
        { link with
          queue := []
          queueOpen := false
          exchanges := link.exchanges.dropAll (link.queue.map Request.ticket)
          writer := .ended (.crashed text)
          transport := { link.transport with poisoned := true } }
  | crashClosing {link : Link M} {text : String} (closing : link.writer = .closing)
      (asked : act = .write) (answer : link.transport.shutdown = .crashes text) :
      Change wiring act link
        { link with
          writer := .ended (.crashed text)
          transport := { link.transport with poisoned := true } }
  | endWriting {link : Link M} {how : WriterEnd} (closing : link.writer = .closing)
      (quiet : ∀ text, how ≠ .crashed text)
      (asked : act = .write) :
      Change wiring act link { link with writer := .ended how }

/-- Nothing changes but remarks, the order of telling and the unmatched messages. -/
theorem Change.remarked {wiring : Wiring M} {act : Act M} {link : Link M} {remarks : List (Event M)}
    {unmatched : List (UnmatchedMessage M)} {receiver : Receiver} {told : List Ticket}
    (only : Remarks remarks) :
    Change wiring act link
      { link with unmatched, receiver, told, history := remarks ++ link.history } :=
  .aside only rfl rfl (fun _ => rfl) (fun _ _ => rfl) fun _ => rfl

/-- A chain of elementary changes. -/
abbrev Changes (wiring : Wiring M) (act : Act M) : Link M → Link M → Prop :=
  Relation.ReflTransGen (Change wiring act)

/-- What every elementary change keeps, a chain of them keeps. -/
theorem Changes.keeps {wiring : Wiring M} {act : Act M} {motive : Link M → Prop}
    (keeps : ∀ {link next : Link M}, Change wiring act link next → motive link → motive next)
    {link next : Link M} (chain : Changes wiring act link next) (holds : motive link) :
    motive next := by
  induction chain with
  | refl => exact holds
  | tail _ change ih => exact keeps change ih

/-! ## One change and its consequences -/

/-- What may follow a change in the same act: remarks, and a drain. -/
inductive Trails (wiring : Wiring M) (act : Act M) : Link M → Link M → Prop
  | aside {link : Link M} {remarks : List (Event M)} {transport : Transport} {told : List Ticket}
      (only : Remarks remarks) (wire : transport.wire = link.transport.wire)
      (poisoned : transport.poisoned = link.transport.poisoned)
      (sink : transport.sink = link.transport.sink)
      (inbound : transport.inbound = link.transport.inbound) :
      Trails wiring act link { link with transport, told, history := remarks ++ link.history }
  | drain {link : Link M} {reason : DrainReason} (active : link.phase = .active)
      (cause : DrainCause wiring act link reason) :
      Trails wiring act link
        { link with
          phase := .draining
          stopAsked := true
          table := ⟨[], true⟩
          exchanges := link.exchanges.closeAll (link.table.slots.map Prod.snd)
          stats := { link.stats with drained := link.stats.drained + link.table.slots.length }
          history := .draining reason :: link.history }

theorem Trails.change {wiring : Wiring M} {act : Act M} {link next : Link M}
    (trails : Trails wiring act link next) : Change wiring act link next := by
  cases trails with
  | aside only wire poisoned sink inbound =>
    exact .aside only wire poisoned (fun _ => sink) (fun _ _ => inbound) fun _ => rfl
  | drain active cause => exact .drain active cause

/-- One change, and what follows it in the same act. If the settings say so, a write failure is
followed by a drain. -/
inductive Moves (wiring : Wiring M) (act : Act M) (link next : Link M) : Prop
  | intro {mid : Link M} (change : Change wiring act link mid)
      (trail : Relation.ReflTransGen (Trails wiring act) mid next)
      (falls : wiring.config.closeOnWriteFailure = true →
        mid.stats.writeFailures ≠ link.stats.writeFailures → next.phase ≠ .active)

theorem Moves.changes {wiring : Wiring M} {act : Act M} {link next : Link M}
    (moves : Moves wiring act link next) : Changes wiring act link next := by
  obtain ⟨change, trail, -⟩ := moves
  exact .head change (trail.lift id fun _ _ => Trails.change)

/-- A change that no write failure is part of. -/
theorem Moves.of_trail {wiring : Wiring M} {act : Act M} {link mid next : Link M}
    (change : Change wiring act link mid)
    (trail : Relation.ReflTransGen (Trails wiring act) mid next)
    (same : mid.stats.writeFailures = link.stats.writeFailures) : Moves wiring act link next :=
  .intro change trail fun _ differs => absurd same differs

/-- Remarks, and the order of telling, may follow any change. -/
theorem Trails.remarked {wiring : Wiring M} {act : Act M} {link : Link M}
    {remarks : List (Event M)} {told : List Ticket} (only : Remarks remarks) :
    Trails wiring act link { link with told, history := remarks ++ link.history } :=
  .aside only rfl rfl rfl rfl

end Multiplex
