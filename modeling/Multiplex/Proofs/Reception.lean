import Multiplex.Proofs.Run
import Mathlib.Data.List.Forall2
import Mathlib.Tactic.Simps.Basic

/-!
# Unmatched messages stand apart

How many unmatched messages a link keeps, and whether and when somebody receives them, matters to
nothing else. A link without its unmatched messages (`Link.unheard`) takes the same steps as the
link itself, whatever becomes of these messages; each function of the link is followed in turn
(`unheard_act`).

Main statement: `reception_stands_apart`.
-/

namespace Multiplex

variable {M : Type}

/-- The event tells that an unmatched message was not kept. -/
def Event.isLoss : Event M → Bool
  | .unmatchedLost _ => true
  | _ => false

/-- Somebody takes, drops or reads the receiver of unmatched messages. -/
def Operation.isReception : Operation M → Bool
  | .takeUnmatched | .dropUnmatched | .receiveUnmatched _ => true
  | _ => false

/-- Nothing is done but with unmatched messages. -/
def Operation.isIdle : Operation M → Bool
  | .pause => true
  | operation => operation.isReception

/-- The same operation, or two that are a pause or a reception. -/
def Operation.Alike (operation other : Operation M) : Prop :=
  operation = other ∨ (operation.isIdle = true ∧ other.isIdle = true)

/-- The act is an operation on the receiver of unmatched messages. -/
def Act.isReception : Act M → Bool
  | .play operation => operation.isReception
  | _ => false

/-- The same choices, but for the number of unmatched messages that are kept. -/
@[simps] def Wiring.keeping (wiring : Wiring M) (depth : Nat) : Wiring M :=
  { wiring with config := { wiring.config with unmatchedQueueDepth := depth } }

namespace Link

/-- The link as if no unmatched message had been kept, or could be. -/
@[simps] def unheard (link : Link M) : Link M :=
  { link with
    unmatched := []
    receiver := .gone
    history := link.history.filter fun event => !event.isLoss }

/-- Two links that differ at most in unmatched messages, in who receives them, and in what was noted
about their loss. -/
structure Concurs (link other : Link M) : Prop where
  phase : link.phase = other.phase
  table : link.table = other.table
  stats : link.stats = other.stats
  /-- The bytes on the wire, and what has arrived, among others. -/
  transport : link.transport = other.transport
  /-- The calls that have not returned. -/
  calls : link.calls = other.calls
  /-- The calls that have returned, in this order, and what they returned. -/
  returned : link.history.filterMap Event.returned? = other.history.filterMap Event.returned?
  /-- And everything else. -/
  unheard : link.unheard = other.unheard

/-- How many unmatched messages are kept, and what is done with them, makes no difference to
anything else. -/
structure StandsApart (wiring : Wiring M) (depth : Nat) : Prop where
  /-- The tasks take the same steps in any order, and the same is done but for receptions. -/
  run : ∀ (acts others : List (Act M)) (link : Link M),
    (acts.filter fun act => !act.isReception) = (others.filter fun act => !act.isReception) →
      follow? wiring fresh acts = some link →
        ∃ other, follow? (wiring.keeping depth) fresh others = some other ∧ link.Concurs other ∧
          (Settled wiring link ↔ Settled (wiring.keeping depth) other)
  /-- The same operations are played, with the links settling after each, but at some times there
  are receptions in place of a pause. -/
  played : ∀ operations others : List (Operation M), operations.Forall₂ Operation.Alike others →
    (after wiring operations).Concurs (after (wiring.keeping depth) others)
  /-- And every operation but a reception is answered in the same way. -/
  answered : ∀ (operations others : List (Operation M)) (operation : Operation M),
    operations.Forall₂ Operation.Alike others → operation.isReception = false →
      (perform wiring (after wiring operations) operation).1 =
        (perform (wiring.keeping depth) (after (wiring.keeping depth) others) operation).1

variable (wiring : Wiring M) (link : Link M)

@[simp] theorem unheard_isAbandoned (ticket : Ticket) :
    link.unheard.isAbandoned ticket = link.isAbandoned ticket := rfl

/-! ## Draining -/

theorem unheard_failDrained (slots : List (String × Ticket)) :
    (link.failDrained slots).unheard = link.unheard.failDrained slots := by
  induction slots generalizing link with
  | nil => rfl
  | cons slot rest ih =>
    rw [failDrained, failDrained, ih]
    cases reached : link.isAbandoned slot.2 <;> simp only [unheard_isAbandoned, reached] <;> rfl

theorem unheard_drain (reason : DrainReason) :
    (link.drain reason).unheard = link.unheard.drain reason := by
  simp only [drain, unheard_phase, unheard_table, unheard_stats]
  by_cases active : link.phase = .active
  · rw [if_pos active, if_pos active, unheard_failDrained]
    cases link.table.drain.1 <;> rfl
  · rw [if_neg active, if_neg active]
    rfl

theorem unheard_release : link.release.unheard = link.unheard.release := by
  simp only [release, unheard_handle, unheard_calls, ← unheard_drain, unheard_receiver]
  by_cases alone : (!link.handle && link.calls.isEmpty) = true
  · rw [if_pos alone, if_pos alone, apply_ite unheard]
    split <;> rfl
  · rw [if_neg alone, if_neg alone]

theorem unheard_finish (call : Call) (result : Result M) :
    (link.finish call result).unheard = link.unheard.finish call result := by
  rw [finish, unheard_release]
  rfl

/-- The link once it is closed, whatever it ended with. -/
theorem unheard_closed (fault : Option LinkError) :
    ({ link.drain .loopsExited with
      phase := .closed, shutdownFault := fault }.note .closed).unheard =
      { link.unheard.drain .loopsExited with
        phase := .closed, shutdownFault := fault }.note .closed := by
  rw [← unheard_drain]
  rfl

theorem unheard_superviseStep? :
    link.superviseStep?.map unheard = link.unheard.superviseStep? := by
  simp only [superviseStep?, unheard_phase, unheard_writer, unheard_reader]
  cases link.phase with
  | closed => rfl
  | active | draining =>
    cases link.writer with
    | ended how =>
      cases link.reader with
      | ended crash => cases how <;> cases crash <;> exact congrArg some (unheard_closed _ _)
      | running buffer part => rfl
    | _ => rfl

/-! ## Reading -/

theorem unheard_stopReading (reason : Option DrainReason) :
    (link.stopReading reason).unheard = link.unheard.stopReading reason := by
  cases reason with
  | none => rfl
  | some reason =>
    simp only [stopReading, ← unheard_drain]
    rfl

theorem unheard_failReading (error : LinkError) :
    (link.failReading error).unheard = link.unheard.failReading error := by
  rw [failReading, unheard_stopReading]
  rfl

/-- Whether an unmatched message is kept or lost makes no difference. -/
theorem unheard_keepUnmatched (depth : Nat) (item : UnmatchedMessage M) :
    (keepUnmatched depth link item).unheard = link.unheard := by
  unfold keepUnmatched
  split
  · rfl
  · split
    · rfl
    · split <;> rfl

theorem unheard_addUnmatched (item : UnmatchedMessage M) :
    (addUnmatched wiring link item).unheard =
      addUnmatched (wiring.keeping 0) link.unheard item := by
  rw [addUnmatched, unheard_keepUnmatched]
  rfl

theorem unheard_deliver (message : M) :
    (deliver wiring link message).unheard =
      deliver (wiring.keeping 0) link.unheard message := by
  simp only [deliver, Wiring.keeping_key]
  cases wiring.key message with
  | error error => exact unheard_addUnmatched wiring link _
  | ok key =>
    simp only [Table.take, unheard_table, unheard_exchanges]
    cases link.table.find? key with
    | none => exact unheard_addUnmatched wiring link _
    | some ticket =>
      dsimp only
      cases link.exchanges.resolve ticket message with
      | mk exchanges returned =>
        cases returned with
        | none => rfl
        | some message => exact unheard_addUnmatched wiring _ _

theorem unheard_dispatch (buffer payload : Bytes) :
    (dispatch wiring link buffer payload).unheard =
      dispatch (wiring.keeping 0) link.unheard buffer payload := by
  simp only [dispatch, Wiring.keeping_codec]
  cases wiring.codec.unpack payload with
  | message message => exact unheard_deliver wiring _ message
  | refused fault => exact unheard_failReading _ _
  | crashed text => rfl

theorem unheard_announce (buffer header : Bytes) :
    (announce wiring link buffer header).unheard =
      announce (wiring.keeping 0) link.unheard buffer header := by
  simp only [announce, Wiring.keeping_framing, Wiring.keeping_config_maxFrameSize]
  cases wiring.framing.decode header with
  | error fault => exact unheard_failReading _ _
  | ok length =>
    dsimp only
    split
    · exact unheard_failReading _ _
    · split
      · exact unheard_dispatch wiring link buffer []
      · rfl

theorem unheard_consume (buffer : Bytes) (part : Part) :
    (consume wiring link buffer part).unheard =
      consume (wiring.keeping 0) link.unheard buffer part := by
  have header (got : Bytes) : (readHeader wiring link buffer got).unheard =
      readHeader (wiring.keeping 0) link.unheard buffer got := by
    simp only [readHeader, Wiring.keeping_framing]
    split
    · rfl
    · exact unheard_announce wiring link _ _
  cases part with
  | boundary => exact header []
  | header got => exact header got
  | payload length missing got =>
    unfold consume readPayload
    dsimp only
    split
    · exact unheard_dispatch wiring link _ _
    · rfl

theorem unheard_receive (part : Part) (rest : List Inbound) (item : Inbound) :
    (receive wiring link part rest item).unheard =
      receive (wiring.keeping 0) link.unheard part rest item := by
  cases item with
  | chunk bytes => rfl
  | finish =>
    cases part with
    | boundary => exact unheard_stopReading _ _
    | header got => exact unheard_failReading _ _
    | payload length missing got => exact unheard_failReading _ _
  | fault error =>
    unfold receive
    dsimp only
    split
    · rfl
    · exact unheard_failReading _ _

theorem unheard_readStep? :
    (readStep? wiring link).map unheard = readStep? (wiring.keeping 0) link.unheard := by
  simp only [readStep?, unheard_reader, unheard_stopAsked, unheard_transport]
  cases link.reader with
  | ended crash => rfl
  | running buffer part =>
    dsimp only
    split
    · exact congrArg some (unheard_stopReading _ _)
    · split
      · cases link.transport.inbound with
        | nil => rfl
        | cons item rest =>
          dsimp only
          split
          · rfl
          · exact congrArg some (unheard_receive wiring link part rest item)
      · exact congrArg some (unheard_consume wiring link buffer part)

/-! ## Writing -/

theorem unheard_failQueued (requests : List Request) :
    (link.failQueued requests).unheard = link.unheard.failQueued requests := by
  induction requests generalizing link with
  | nil => rfl
  | cons request rest ih =>
    rw [failQueued, failQueued, ih]
    rfl

theorem unheard_dropQueued (requests : List Request) :
    (link.dropQueued requests).unheard = link.unheard.dropQueued requests := by
  induction requests generalizing link with
  | nil => rfl
  | cons request rest ih =>
    rw [dropQueued, dropQueued, ih]
    rfl

theorem unheard_stopWriting : link.stopWriting.unheard = link.unheard.stopWriting := by
  have failed : ({ link.unheard with queue := [], queueOpen := false } : Link M).failQueued
      link.queue = (({ link with queue := [], queueOpen := false } : Link M).failQueued
        link.queue).unheard :=
    (unheard_failQueued { link with queue := [], queueOpen := false } link.queue).symm
  simp only [stopWriting, unheard_queue]
  rw [failed]
  cases link.queue.isEmpty <;> rfl

theorem unheard_failKey (key : String) (error : LinkError) :
    (link.failKey key error).unheard = link.unheard.failKey key error := by
  simp only [failKey, Table.take, unheard_table]
  cases link.table.find? key <;> rfl

theorem unheard_register (request : Request) :
    (link.register request).unheard = link.unheard.register request := by
  have same : link.unheard.isAbandoned = link.isAbandoned := rfl
  simp only [register, unheard_table, same]
  cases link.table.insert link.isAbandoned request.key request.ticket with
  | refused => rfl
  | duplicate => rfl
  | accepted table displaced =>
    cases displaced
    all_goals
      dsimp only
      -- once the request is filed, it is written unless its caller has left in the meantime
      split <;> split
      · next taken _ _ _ taken' => cases taken.symm.trans taken'; rfl
      · next taken _ _ untaken => cases taken.symm.trans untaken
      · next untaken _ _ _ taken => cases untaken.symm.trans taken
      · rfl

theorem unheard_failWriting (request : Request) (error : IoError) :
    (failWriting wiring link request error).unheard =
      failWriting (wiring.keeping 0) link.unheard request error := by
  simp only [failWriting, Wiring.keeping_config_closeOnWriteFailure]
  split
  · rw [unheard_drain, unheard_failKey]
    rfl
  · exact unheard_failKey _ _ _

theorem unheard_interrupt (request : Request) :
    (link.interrupt request).unheard = link.unheard.interrupt request := by
  rw [interrupt, unheard_failKey]
  rfl

theorem unheard_crashWriting (text : String) :
    (link.crashWriting text).unheard = link.unheard.crashWriting text := by
  have dropped : ({ link.unheard with queue := [], queueOpen := false } : Link M).dropQueued
      link.queue = (({ link with queue := [], queueOpen := false } : Link M).dropQueued
        link.queue).unheard :=
    (unheard_dropQueued { link with queue := [], queueOpen := false } link.queue).symm
  simp only [crashWriting, unheard_queue]
  rw [dropped]
  rfl

theorem unheard_writeStep? (request : Request) (rest : Bytes) :
    (writeStep? wiring link request rest).map unheard =
      writeStep? (wiring.keeping 0) link.unheard request rest := by
  simp only [writeStep?, unheard_transport]
  split
  · rfl
  · split
    · rfl
    · cases link.transport.stop with
      | stalled => rfl
      | fault error => exact congrArg some (unheard_failWriting wiring link request error)
      | nothing => exact congrArg some (unheard_failWriting wiring link request _)
      | crashes text => exact congrArg some (unheard_crashWriting link text)

theorem unheard_flushStep? (request : Request) :
    (flushStep? wiring link request).map unheard =
      flushStep? (wiring.keeping 0) link.unheard request := by
  simp only [flushStep?, unheard_transport]
  cases link.transport.flush with
  | stalled => rfl
  | fault error => exact congrArg some (unheard_failWriting wiring link request error)
  | crashes text => exact congrArg some (unheard_crashWriting link text)
  | done => rfl

theorem unheard_shutdownStep? : link.shutdownStep?.map unheard = link.unheard.shutdownStep? := by
  simp only [shutdownStep?, unheard_transport]
  cases link.transport.shutdown with
  | done => rfl
  | fault error => rfl
  | crashes text => rfl
  | stalled =>
    dsimp only
    split <;> rfl

theorem unheard_writerStep? :
    (writerStep? wiring link).map unheard = writerStep? (wiring.keeping 0) link.unheard := by
  simp only [writerStep?, unheard_writer, unheard_stopAsked, unheard_queue]
  cases link.writer with
  | idle =>
    dsimp only
    split
    · exact congrArg some (unheard_stopWriting link)
    · cases link.queue with
      | nil => rfl
      | cons request rest => exact congrArg some (unheard_register _ request)
  | writing request rest =>
    dsimp only
    split
    · exact congrArg some (unheard_interrupt link request)
    · exact unheard_writeStep? wiring link request rest
  | flushing request =>
    dsimp only
    split
    · exact congrArg some (unheard_interrupt link request)
    · exact unheard_flushStep? wiring link request
  | closing => exact unheard_shutdownStep? link
  | ended how => rfl

/-! ## Calling -/

theorem unheard_leave (request : Request) (handed : Bool) :
    (link.leave request handed).unheard = link.unheard.leave request handed := by
  cases handed <;> rfl

theorem unheard_expire (request : Request) (handed : Bool) (timer : Timer) :
    (link.expire request handed timer).map unheard id =
      link.unheard.expire request handed timer := by
  simp only [expire, ← unheard_leave]
  have same : (link.leave request handed).unheard.isAbandoned =
      (link.leave request handed).isAbandoned := rfl
  simp only [unheard_table, same]
  cases (link.leave request handed).table.takeAbandoned
    (link.leave request handed).isAbandoned request.key with
  | mk ticket table => cases ticket <;> rfl

theorem unheard_expireIfDue (request : Request) (handed : Bool) (timer : Option Timer) :
    (link.expireIfDue request handed timer).map (Prod.map unheard id) =
      link.unheard.expireIfDue request handed timer := by
  cases timer with
  | none => rfl
  | some timer =>
    simp only [expireIfDue, unheard_clock, ← unheard_expire]
    split <;> rfl

theorem unheard_turn? (first : Bool) (call : Call) :
    (turn? wiring link first call).map (Prod.map unheard id) =
      turn? (wiring.keeping 0) link.unheard first call := by
  obtain ⟨number, task⟩ := call
  cases task with
  | send request handed timer =>
    cases handed with
    | false =>
      simp only [turn?, unheard_stopAsked, unheard_queueOpen, unheard_queue,
        Wiring.keeping_config_writeQueueDepth]
      split
      · exact congrArg some (Prod.ext (unheard_leave link request false) rfl)
      · split
        · -- a request that has just been handed over may be late already
          have late := unheard_expireIfDue
            ({ link with queue := link.queue ++ [request] }.note (.queued request.ticket))
            request true timer
          split <;> split
          · next expired _ _ expired' => exact (expired ▸ late).trans expired'
          · next expired _ waits => cases (expired ▸ late).trans waits
          · next waits _ _ expired => cases (waits ▸ late).trans expired
          · rfl
        · exact unheard_expireIfDue link request false timer
    | true =>
      simp only [turn?, unheard_exchanges]
      cases link.exchanges.poll request.ticket with
      | none => exact unheard_expireIfDue link request true timer
      | some outcome => cases outcome <;> rfl
  | close =>
    simp only [turn?, unheard_phase, unheard_shutdownFault]
    cases link.phase with
    | closed => cases link.shutdownFault <;> rfl
    | _ => rfl
  | watch =>
    simp only [turn?, unheard_phase]
    split <;> rfl

theorem unheard_turnOf? (next : Option Nat) (call : Call) :
    (turnOf? wiring link next call).map unheard =
      turnOf? (wiring.keeping 0) link.unheard next call := by
  simp only [turnOf?, ← unheard_turn?]
  cases turn? wiring link (next = some call.number) call with
  | none => rfl
  | some moved =>
    obtain ⟨link, turn⟩ := moved
    cases turn with
    | goOn call => rfl
    | returns result => exact congrArg some (unheard_finish link call result)

theorem unheard_prepare (message : M) :
    (prepare wiring link message).map id unheard =
      prepare (wiring.keeping 0) link.unheard message := by
  have assigned : assignStan (wiring.keeping 0) = assignStan wiring := rfl
  have keyed : keyedFrame (wiring.keeping 0) = keyedFrame wiring := rfl
  simp only [prepare, assigned, keyed, unheard_phase, unheard_stan]
  split
  · rfl
  · cases assignStan wiring link.stan message with
    | mk assigned stan =>
      dsimp only
      -- whether or not a trace number was issued, the rest is done on what that left
      by_cases same : stan.last = link.stan.last <;> simp only [same, if_true, if_false]
      all_goals
        cases assigned with
        | error error => rfl
        | ok message =>
          dsimp only
          cases keyedFrame wiring message <;> rfl

theorem unheard_send (message : M) (timeout : Option Nat) :
    (send wiring link message timeout).unheard =
      send (wiring.keeping 0) link.unheard message timeout := by
  simp only [send, ← unheard_prepare]
  cases prepare wiring link message with
  | mk prepared link => cases prepared <;> rfl

theorem unheard_close : link.close.unheard = link.unheard.close := by
  rw [close, close, ← unheard_drain]
  rfl

theorem unheard_abort (number : Nat) : (link.abort number).unheard = link.unheard.abort number := by
  simp only [abort, unheard_calls]
  cases link.calls.find? fun call => call.number = number with
  | none => rfl
  | some call =>
    dsimp only
    rw [unheard_release]
    refine congrArg release ?_
    cases call.task with
    | send request handed timer => exact unheard_leave _ request handed
    | _ => rfl

theorem unheard_dropHandle : link.dropHandle.unheard = link.unheard.dropHandle :=
  unheard_release { link with handle := false }

/-! ## Operations -/

theorem unheard_arrive (item : Inbound) :
    (link.arrive item).unheard = link.unheard.arrive item := by
  cases item with
  | chunk bytes => cases bytes <;> rfl
  | _ => rfl

theorem unheard_play (operation : Operation M) :
    (play wiring link operation).2.unheard =
      (play (wiring.keeping 0) link.unheard operation).2 := by
  cases operation with
  | pause => rfl
  | send message timeout =>
    simp only [play, withHandle, unheard_handle]
    split
    · exact unheard_send wiring link message _
    · rfl
  | close =>
    simp only [play, withHandle, unheard_handle]
    split
    · exact unheard_close link
    · rfl
  | watch =>
    simp only [play, withHandle, unheard_handle]
    split <;> rfl
  | abort number => exact unheard_abort link number
  | dropHandle =>
    simp only [play, unheard_handle]
    split
    · exact unheard_dropHandle link
    · rfl
  | arrive item => exact unheard_arrive link item
  | transport change => rfl
  | advance millis => rfl
  -- nothing is received where nothing is kept
  | takeUnmatched =>
    simp only [play, withHandle, unheard_handle]
    split
    · split <;> rfl
    · rfl
  | dropUnmatched =>
    simp only [play]
    split <;> rfl
  | receiveUnmatched limit =>
    simp only [play]
    split <;> rfl

/-- A reception changes nothing but what it is about. -/
theorem unheard_idle {operation : Operation M} (idle : operation.isIdle = true) :
    (play wiring link operation).2.unheard = link.unheard := by
  rw [unheard_play]
  cases operation with
  | takeUnmatched =>
    simp only [play, withHandle]
    split <;> rfl
  | pause | dropUnmatched | receiveUnmatched => rfl
  | _ => cases idle

/-- What an operation answers at once does not depend on unmatched messages, unless it is about
them. -/
theorem play_unheard_fst {operation : Operation M} (other : operation.isReception = false) :
    (play wiring link operation).1 = (play (wiring.keeping 0) link.unheard operation).1 := by
  cases operation with
  | send | close | watch =>
    simp only [play, withHandle, unheard_handle]
    split <;> rfl
  | takeUnmatched | dropUnmatched | receiveUnmatched => cases other
  | _ => rfl

theorem unheard_act (act : Act M) :
    (act? wiring link act).map unheard = act? (wiring.keeping 0) link.unheard act := by
  cases act with
  | read => exact unheard_readStep? wiring link
  | write => exact unheard_writerStep? wiring link
  | turn number first =>
    simp only [act?, unheard_calls]
    cases link.calls.find? fun call => call.number = number with
    | none => rfl
    | some call => exact unheard_turnOf? wiring link _ call
  | supervise => exact unheard_superviseStep? link
  | play operation => exact congrArg some (unheard_play wiring link operation)

/-! ## Settling -/

theorem unheard_callStep? :
    (callStep? wiring link).map unheard = callStep? (wiring.keeping 0) link.unheard := by
  have turns : Option.map unheard ∘ turnOf? wiring link link.next? =
      turnOf? (wiring.keeping 0) link.unheard link.unheard.next? :=
    funext (unheard_turnOf? wiring link link.next?)
  have told : (Option.map unheard ∘ fun ticket =>
        (link.callOf? ticket).bind (turnOf? wiring link link.next?)) =
      fun ticket => (link.unheard.callOf? ticket).bind
        (turnOf? (wiring.keeping 0) link.unheard link.unheard.next?) := by
    funext ticket
    rw [← turns]
    exact Option.map_bind
  simp only [callStep?, Option.orElse_eq_orElse, Option.orElse_eq_or, Option.map_or,
    List.map_findSome?, turns, told]
  rfl

theorem unheard_step? :
    (step? wiring link).map unheard = step? (wiring.keeping 0) link.unheard := by
  simp only [step?, ← unheard_readStep?, ← unheard_writerStep?, ← unheard_callStep?,
    ← unheard_superviseStep?]
  cases readStep? wiring link with
  | some next => rfl
  | none =>
    cases writerStep? wiring link with
    | some next => rfl
    | none => cases callStep? wiring link <;> rfl

theorem unheard_settle : (link.settle wiring).unheard = link.unheard.settle (wiring.keeping 0) := by
  have steps (fuel : Nat) (link : Link M) : (stepMany wiring fuel link).unheard =
      stepMany (wiring.keeping 0) fuel link.unheard := by
    induction fuel generalizing link with
    | zero => rfl
    | succ fuel ih =>
      rw [stepMany, stepMany, ← unheard_step?]
      cases step? wiring link with
      | none => rfl
      | some next => exact ih next
  exact steps link.work link

/-! ## Whole runs -/

variable {wiring link} {other : Link M} {depth : Nat}

theorem returned_unheard (link : Link M) :
    link.unheard.history.filterMap Event.returned? =
      link.history.filterMap Event.returned? := by
  have same : (fun event : Event M => if !event.isLoss then event.returned? else none) =
      Event.returned? := by
    funext event
    cases event <;> rfl
  rw [unheard_history, List.filterMap_filter, same]

theorem Concurs.of_unheard (same : link.unheard = other.unheard) : link.Concurs other where
  phase := (congrArg Link.phase same :)
  table := (congrArg Link.table same :)
  stats := (congrArg Link.stats same :)
  transport := (congrArg Link.transport same :)
  calls := (congrArg Link.calls same :)
  returned := by rw [← returned_unheard link, same, returned_unheard other]
  unheard := same

/-- A run without its receptions leads to the same link but for unmatched messages. -/
theorem unheard_follow? (wiring : Wiring M) (link : Link M) (acts : List (Act M)) :
    (follow? wiring link acts).map unheard =
      follow? (wiring.keeping 0) link.unheard (acts.filter fun act => !act.isReception) := by
  induction acts generalizing link with
  | nil => rfl
  | cons act rest ih =>
    rw [follow?]
    cases reception : act.isReception with
    | false =>
      rw [List.filter_cons_of_pos (by simp [reception]), follow?, ← unheard_act]
      cases act? wiring link act with
      | none => rfl
      | some next => exact ih next
    -- a reception may be left out, since the link is as it was but for what it is about
    | true =>
      rw [List.filter_cons_of_neg (by simp [reception])]
      cases act with
      | play operation =>
        have idle : operation.isIdle = true := by
          cases operation <;> first | exact reception | rfl
        have left := ih (play wiring link operation).2
        rw [unheard_idle wiring link idle] at left
        exact left
      | _ => cases reception

theorem settled_unheard (wiring : Wiring M) (link : Link M) :
    Settled wiring link ↔ Settled (wiring.keeping 0) link.unheard := by
  refine forall_congr' fun act => imp_congr_right fun _ => ?_
  rw [← unheard_act, Option.map_eq_none_iff]

theorem unheard_perform (wiring : Wiring M) (link : Link M) (operation : Operation M) :
    (perform wiring link operation).2.unheard =
      (perform (wiring.keeping 0) link.unheard operation).2 := by
  show ((play wiring link operation).2.settle wiring).unheard = _
  rw [unheard_settle, unheard_play]
  rfl

/-- After a reception the link settles as it would have without. -/
theorem unheard_perform_idle (wiring : Wiring M) (link : Link M) {operation : Operation M}
    (idle : operation.isIdle = true) :
    (perform wiring link operation).2.unheard = link.unheard.settle (wiring.keeping 0) := by
  show ((play wiring link operation).2.settle wiring).unheard = _
  rw [unheard_settle, unheard_idle wiring link idle]

/-- Links that are the same but for unmatched messages remain so when the same is done on them but
for receptions. -/
theorem unheard_perform_alike {operation counterpart : Operation M}
    (alike : operation.Alike counterpart) (same : link.unheard = other.unheard) :
    (perform wiring link operation).2.unheard =
      (perform (wiring.keeping depth) other counterpart).2.unheard := by
  rcases alike with rfl | ⟨idle, idle'⟩
  · rw [unheard_perform, unheard_perform, same]
    rfl
  · rw [unheard_perform_idle wiring link idle, unheard_perform_idle _ other idle', same]
    rfl

theorem unheard_after (wiring : Wiring M) (depth : Nat) {operations others : List (Operation M)}
    (alike : operations.Forall₂ Operation.Alike others) :
    (after wiring operations).unheard = (after (wiring.keeping depth) others).unheard := by
  have started : (start wiring).unheard = (start (wiring.keeping depth)).unheard := by
    simp only [start, unheard_settle]
    rfl
  have follows {link other : Link M} (same : link.unheard = other.unheard) :
      (operations.foldl (fun link operation => (perform wiring link operation).2) link).unheard =
        (others.foldl (fun link operation =>
          (perform (wiring.keeping depth) link operation).2) other).unheard := by
    induction alike generalizing link other with
    | nil => exact same
    | cons alike rest ih => exact ih (unheard_perform_alike alike same)
  exact follows started

/-- **Unmatched messages never influence callers.** -/
theorem reception_stands_apart (wiring : Wiring M) (depth : Nat) : StandsApart wiring depth where
  run acts others link matching run := by
    have ends : (follow? (wiring.keeping depth) fresh others).map unheard = some link.unheard := by
      rw [unheard_follow? (wiring.keeping depth), ← matching]
      exact (unheard_follow? wiring fresh acts).symm.trans (congrArg (Option.map unheard) run)
    obtain ⟨other, run', same⟩ := Option.map_eq_some_iff.1 ends
    have settled : Settled wiring link ↔ Settled (wiring.keeping depth) other := by
      rw [settled_unheard wiring, settled_unheard (wiring.keeping depth), same]
      rfl
    exact ⟨other, run', .of_unheard same.symm, settled⟩
  played operations others alike := .of_unheard (unheard_after wiring depth alike)
  answered operations others operation alike other := by
    show (play wiring (after wiring operations) operation).1 =
      (play (wiring.keeping depth) (after (wiring.keeping depth) others) operation).1
    rw [play_unheard_fst wiring _ other, play_unheard_fst (wiring.keeping depth) _ other,
      unheard_after wiring depth alike]
    rfl

end Link

end Multiplex
