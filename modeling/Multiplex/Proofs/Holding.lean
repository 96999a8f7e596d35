import Multiplex.Proofs.Turns
import Mathlib.Tactic.Simps.Basic

/-!
# The handle makes no difference as long as somebody waits

A link takes the same steps whether its user holds its handle or not (`Link.holding`): each function
of its tasks is followed in turn, and none looks at the handle until the last call ends. So as long
as somebody waits, the user may give up its handle before an act or after it, which comes to the
same (`dropHandle_act?`).
-/

namespace Multiplex

variable {M : Type}

/-- The operation needs the user's handle, or gives it up. -/
def Operation.needsHandle : Operation M → Bool
  | .send _ _ | .close | .watch | .takeUnmatched | .dropHandle => true
  | _ => false

/-- The act needs the user's handle, or gives it up. -/
def Act.needsHandle : Act M → Bool
  | .play operation => operation.needsHandle
  | _ => false

namespace Link

/-- The link as it is if the user holds its handle, or if it does not. -/
@[simps] def holding (link : Link M) (held : Bool) : Link M :=
  { link with handle := held }

variable (wiring : Wiring M) (link : Link M) {held : Bool}

@[simp] theorem holding_isAbandoned (ticket : Ticket) :
    (link.holding held).isAbandoned ticket = link.isAbandoned ticket := rfl

/-! ## Draining -/

theorem holding_failDrained (slots : List (String × Ticket)) :
    (link.failDrained slots).holding held = (link.holding held).failDrained slots := by
  induction slots generalizing link with
  | nil => rfl
  | cons slot rest ih =>
    rw [failDrained, failDrained, ih]
    cases reached : link.isAbandoned slot.2 <;> simp only [holding_isAbandoned, reached] <;> rfl

theorem holding_drain (reason : DrainReason) :
    (link.drain reason).holding held = (link.holding held).drain reason := by
  simp only [drain, holding_phase, holding_table, holding_stats]
  by_cases active : link.phase = .active
  · rw [if_pos active, if_pos active, holding_failDrained]
    cases link.table.drain.1 <;> rfl
  · rw [if_neg active, if_neg active]
    rfl

/-- The link once it is closed, whatever it ended with. -/
theorem holding_closed (fault : Option LinkError) :
    ({ link.drain .loopsExited with
      phase := .closed, shutdownFault := fault }.note .closed).holding held =
      { (link.holding held).drain .loopsExited with
        phase := .closed, shutdownFault := fault }.note .closed := by
  rw [← holding_drain]
  rfl

theorem holding_superviseStep? :
    link.superviseStep?.map (holding · held) = (link.holding held).superviseStep? := by
  simp only [superviseStep?, holding_phase, holding_writer, holding_reader]
  cases link.phase with
  | closed => rfl
  | active | draining =>
    cases link.writer with
    | ended how =>
      cases link.reader with
      | ended crash => cases how <;> cases crash <;> exact congrArg some (holding_closed _ _)
      | running buffer part => rfl
    | _ => rfl

/-! ## Reading -/

theorem holding_stopReading (reason : Option DrainReason) :
    (link.stopReading reason).holding held = (link.holding held).stopReading reason := by
  cases reason with
  | none => rfl
  | some reason =>
    simp only [stopReading, ← holding_drain]
    rfl

theorem holding_failReading (error : LinkError) :
    (link.failReading error).holding held = (link.holding held).failReading error := by
  rw [failReading, holding_stopReading]
  rfl

theorem holding_keepUnmatched (depth : Nat) (item : UnmatchedMessage M) :
    (keepUnmatched depth link item).holding held =
      keepUnmatched depth (link.holding held) item := by
  simp only [keepUnmatched, holding_receiver, holding_unmatched, apply_ite (holding · held)]
  rfl

theorem holding_addUnmatched (item : UnmatchedMessage M) :
    (addUnmatched wiring link item).holding held = addUnmatched wiring (link.holding held) item :=
  holding_keepUnmatched _ _ item

theorem holding_deliver (message : M) :
    (deliver wiring link message).holding held =
      deliver wiring (link.holding held) message := by
  simp only [deliver]
  cases wiring.key message with
  | error error => exact holding_addUnmatched wiring link _
  | ok key =>
    simp only [Table.take, holding_table, holding_exchanges]
    cases link.table.find? key with
    | none => exact holding_addUnmatched wiring link _
    | some ticket =>
      dsimp only
      cases link.exchanges.resolve ticket message with
      | mk exchanges returned =>
        cases returned with
        | none => rfl
        | some message => exact holding_addUnmatched wiring _ _

theorem holding_dispatch (buffer payload : Bytes) :
    (dispatch wiring link buffer payload).holding held =
      dispatch wiring (link.holding held) buffer payload := by
  simp only [dispatch]
  cases wiring.codec.unpack payload with
  | message message => exact holding_deliver wiring _ message
  | refused fault => exact holding_failReading _ _
  | crashed text => rfl

theorem holding_announce (buffer header : Bytes) :
    (announce wiring link buffer header).holding held =
      announce wiring (link.holding held) buffer header := by
  simp only [announce]
  cases wiring.framing.decode header with
  | error fault => exact holding_failReading _ _
  | ok length =>
    dsimp only
    split
    · exact holding_failReading _ _
    · split
      · exact holding_dispatch wiring link buffer []
      · rfl

theorem holding_consume (buffer : Bytes) (part : Part) :
    (consume wiring link buffer part).holding held =
      consume wiring (link.holding held) buffer part := by
  have header (got : Bytes) : (readHeader wiring link buffer got).holding held =
      readHeader wiring (link.holding held) buffer got := by
    simp only [readHeader]
    split
    · rfl
    · exact holding_announce wiring link _ _
  cases part with
  | boundary => exact header []
  | header got => exact header got
  | payload length missing got =>
    unfold consume readPayload
    dsimp only
    split
    · exact holding_dispatch wiring link _ _
    · rfl

theorem holding_receive (part : Part) (rest : List Inbound) (item : Inbound) :
    (receive wiring link part rest item).holding held =
      receive wiring (link.holding held) part rest item := by
  cases item with
  | chunk bytes => rfl
  | finish =>
    cases part with
    | boundary => exact holding_stopReading _ _
    | header got => exact holding_failReading _ _
    | payload length missing got => exact holding_failReading _ _
  | fault error =>
    unfold receive
    dsimp only
    split
    · rfl
    · exact holding_failReading _ _

theorem holding_readStep? :
    (readStep? wiring link).map (holding · held) = readStep? wiring (link.holding held) := by
  simp only [readStep?, holding_reader, holding_stopAsked, holding_transport]
  cases link.reader with
  | ended crash => rfl
  | running buffer part =>
    dsimp only
    split
    · exact congrArg some (holding_stopReading _ _)
    · split
      · cases link.transport.inbound with
        | nil => rfl
        | cons item rest =>
          dsimp only
          split
          · rfl
          · exact congrArg some (holding_receive wiring link part rest item)
      · exact congrArg some (holding_consume wiring link buffer part)

/-! ## Writing -/

theorem holding_failQueued (requests : List Request) :
    (link.failQueued requests).holding held = (link.holding held).failQueued requests := by
  induction requests generalizing link with
  | nil => rfl
  | cons request rest ih =>
    rw [failQueued, failQueued, ih]
    rfl

theorem holding_dropQueued (requests : List Request) :
    (link.dropQueued requests).holding held = (link.holding held).dropQueued requests := by
  induction requests generalizing link with
  | nil => rfl
  | cons request rest ih =>
    rw [dropQueued, dropQueued, ih]
    rfl

theorem holding_stopWriting :
    link.stopWriting.holding held = (link.holding held).stopWriting := by
  have failed : ({ (link.holding held) with queue := [], queueOpen := false } : Link M).failQueued
      link.queue = (({ link with queue := [], queueOpen := false } : Link M).failQueued
        link.queue).holding held :=
    (holding_failQueued { link with queue := [], queueOpen := false } link.queue).symm
  simp only [stopWriting, holding_queue]
  rw [failed]
  cases link.queue.isEmpty <;> rfl

theorem holding_failKey (key : String) (error : LinkError) :
    (link.failKey key error).holding held = (link.holding held).failKey key error := by
  simp only [failKey, Table.take, holding_table]
  cases link.table.find? key <;> rfl

theorem holding_register (request : Request) :
    (link.register request).holding held = (link.holding held).register request := by
  have same : (link.holding held).isAbandoned = link.isAbandoned := rfl
  simp only [register, holding_table, same]
  cases link.table.insert link.isAbandoned request.key request.ticket with
  | refused => rfl
  | duplicate => rfl
  | accepted table displaced =>
    cases displaced
    all_goals
      dsimp only
      -- once the request is filed, it is written unless its caller has left in the meantime
      split <;> split
      · next taken _ _ _ taken' => cases taken.symm.trans taken'; rfl
      · next taken _ _ untaken => cases taken.symm.trans untaken
      · next untaken _ _ _ taken => cases untaken.symm.trans taken
      · rfl

theorem holding_failWriting (request : Request) (error : IoError) :
    (failWriting wiring link request error).holding held =
      failWriting wiring (link.holding held) request error := by
  simp only [failWriting]
  split
  · rw [holding_drain, holding_failKey]
    rfl
  · exact holding_failKey _ _ _

theorem holding_interrupt (request : Request) :
    (link.interrupt request).holding held = (link.holding held).interrupt request := by
  rw [interrupt, holding_failKey]
  rfl

theorem holding_crashWriting (text : String) :
    (link.crashWriting text).holding held = (link.holding held).crashWriting text := by
  have dropped : ({ (link.holding held) with queue := [], queueOpen := false } : Link M).dropQueued
      link.queue = (({ link with queue := [], queueOpen := false } : Link M).dropQueued
        link.queue).holding held :=
    (holding_dropQueued { link with queue := [], queueOpen := false } link.queue).symm
  simp only [crashWriting, holding_queue]
  rw [dropped]
  rfl

theorem holding_writeStep? (request : Request) (rest : Bytes) :
    (writeStep? wiring link request rest).map (holding · held) =
      writeStep? wiring (link.holding held) request rest := by
  simp only [writeStep?, holding_transport]
  split
  · rfl
  · split
    · rfl
    · cases link.transport.stop with
      | stalled => rfl
      | fault error => exact congrArg some (holding_failWriting wiring link request error)
      | nothing => exact congrArg some (holding_failWriting wiring link request _)
      | crashes text => exact congrArg some (holding_crashWriting link text)

theorem holding_flushStep? (request : Request) :
    (flushStep? wiring link request).map (holding · held) =
      flushStep? wiring (link.holding held) request := by
  simp only [flushStep?, holding_transport]
  cases link.transport.flush with
  | stalled => rfl
  | fault error => exact congrArg some (holding_failWriting wiring link request error)
  | crashes text => exact congrArg some (holding_crashWriting link text)
  | done => rfl

theorem holding_shutdownStep? :
    link.shutdownStep?.map (holding · held) = (link.holding held).shutdownStep? := by
  simp only [shutdownStep?, holding_transport]
  cases link.transport.shutdown with
  | done => rfl
  | fault error => rfl
  | crashes text => rfl
  | stalled =>
    dsimp only
    split <;> rfl

theorem holding_writerStep? :
    (writerStep? wiring link).map (holding · held) = writerStep? wiring (link.holding held) := by
  simp only [writerStep?, holding_writer, holding_stopAsked, holding_queue]
  cases link.writer with
  | idle =>
    dsimp only
    split
    · exact congrArg some (holding_stopWriting link)
    · cases link.queue with
      | nil => rfl
      | cons request rest => exact congrArg some (holding_register _ request)
  | writing request rest =>
    dsimp only
    split
    · exact congrArg some (holding_interrupt link request)
    · exact holding_writeStep? wiring link request rest
  | flushing request =>
    dsimp only
    split
    · exact congrArg some (holding_interrupt link request)
    · exact holding_flushStep? wiring link request
  | closing => exact holding_shutdownStep? link
  | ended how => rfl

/-! ## Calling -/

theorem holding_leave (request : Request) (handed : Bool) :
    (link.leave request handed).holding held = (link.holding held).leave request handed := by
  cases handed <;> rfl

theorem holding_expire (request : Request) (handed : Bool) (timer : Timer) :
    (link.expire request handed timer).map (holding · held) id =
      (link.holding held).expire request handed timer := by
  simp only [expire, ← holding_leave]
  have same : ((link.leave request handed).holding held).isAbandoned =
      (link.leave request handed).isAbandoned := rfl
  simp only [holding_table, same]
  cases (link.leave request handed).table.takeAbandoned
    (link.leave request handed).isAbandoned request.key with
  | mk ticket table => cases ticket <;> rfl

theorem holding_expireIfDue (request : Request) (handed : Bool) (timer : Option Timer) :
    (link.expireIfDue request handed timer).map (Prod.map (holding · held) id) =
      (link.holding held).expireIfDue request handed timer := by
  cases timer with
  | none => rfl
  | some timer =>
    simp only [expireIfDue, holding_clock, ← holding_expire]
    split <;> rfl

theorem holding_turn? (first : Bool) (call : Call) :
    (turn? wiring link first call).map (Prod.map (holding · held) id) =
      turn? wiring (link.holding held) first call := by
  obtain ⟨number, task⟩ := call
  cases task with
  | send request handed timer =>
    cases handed with
    | false =>
      simp only [turn?, holding_stopAsked, holding_queueOpen, holding_queue]
      split
      · exact congrArg some (Prod.ext (holding_leave link request false) rfl)
      · split
        · -- a request that has just been handed over may be late already
          have late := @holding_expireIfDue M
            ({ link with queue := link.queue ++ [request] }.note (.queued request.ticket)) held
            request true timer
          split <;> split
          · next expired _ _ expired' => exact (expired ▸ late).trans expired'
          · next expired _ waits => cases (expired ▸ late).trans waits
          · next waits _ _ expired => cases (waits ▸ late).trans expired
          · rfl
        · exact holding_expireIfDue link request false timer
    | true =>
      simp only [turn?, holding_exchanges]
      cases link.exchanges.poll request.ticket with
      | none => exact holding_expireIfDue link request true timer
      | some outcome => cases outcome <;> rfl
  | close =>
    simp only [turn?, holding_phase, holding_shutdownFault]
    cases link.phase with
    | closed => cases link.shutdownFault <;> rfl
    | _ => rfl
  | watch =>
    simp only [turn?, holding_phase]
    split <;> rfl

variable {wiring link} {act : Act M} {mid next : Link M} {call call' : Call} {first : Bool}

theorem handle_of_turn? {turn : Turn M} (turned : turn? wiring link first call = some (mid, turn)) :
    mid.handle = link.handle := by
  have same := @holding_turn? M wiring link link.handle first call
  have own : link.holding link.handle = link := rfl
  rw [own, turned] at same
  exact (congrArg (fun after => after.1.handle) (Option.some.inj same)).symm

/-- A call that goes on has handed its request over, which touches no other call. -/
theorem calls_of_goOn (turned : turn? wiring link first call = some (mid, .goOn call')) :
    mid.calls = link.calls := by
  have unexpired {link : Link M} {request : Request} {handed : Bool} {timer : Option Timer} :
      link.expireIfDue request handed timer ≠ some (mid, .goOn call') := by
    intro due
    obtain ⟨deadline, -, -, same⟩ := expireIfDue_eq_some due
    cases same
  unfold turn? at turned
  split at turned
  · split at turned
    · cases turned
    · split at turned
      · dsimp only at turned
        split at turned
        · next due =>
          cases turned
          exact absurd due unexpired
        · cases turned
          rfl
      · exact absurd turned unexpired
  · split at turned
    · cases turned
    · cases turned
    · exact absurd turned unexpired
  · split at turned <;> cases turned
  · split at turned <;> cases turned

theorem dropHandle_finish (handle : mid.handle = true) (call : Call) (result : Result M) :
    (mid.finish call result).dropHandle = (mid.holding false).finish call result := by
  have held : ((mid.removeCall call).note
      (.returned call.number call.ticket? result)).handle = true := handle
  rw [finish, release_of_held (.inl held)]
  rfl

section Waited

variable (handle : link.handle = true) (waited : link.calls ≠ [])
include handle waited

theorem dropHandle_turnOf? (first : Option Nat) (call : Call) :
    (turnOf? wiring link first call).map dropHandle =
      turnOf? wiring (link.holding false) first call := by
  simp only [turnOf?, ← holding_turn?]
  cases turned : turn? wiring link (first = some call.number) call with
  | none => rfl
  | some after =>
    obtain ⟨mid, turn⟩ := after
    cases turn with
    | goOn call' =>
      refine congrArg some (release_of_held (.inr ?_))
      show mid.calls.map _ ≠ []
      rw [calls_of_goOn turned]
      exact fun empty => waited (List.map_eq_nil_iff.1 empty)
    -- if that was the last call the link is released now, by whoever lets it go last
    | returns result =>
      exact congrArg some (dropHandle_finish ((handle_of_turn? turned).trans handle) call result)

theorem dropHandle_abort (number : Nat) :
    (link.abort number).dropHandle = (link.holding false).abort number := by
  -- the user has its handle, so the link is released only when the handle goes too
  have leaves {left : Link M} (kept : left.handle = link.handle) :
      left.release.dropHandle = (left.holding false).release := by
    rw [release_of_held (.inl (kept.trans handle))]
    rfl
  simp only [abort, holding_calls]
  cases link.calls.find? fun call => call.number = number with
  | none => exact release_of_held (.inr waited)
  | some call =>
    dsimp only
    cases call.task with
    | send request handed timer =>
      have kept : ((link.removeCall call).leave request handed).handle = link.handle := by
        cases handed <;> rfl
      exact (leaves kept).trans (congrArg release (holding_leave _ request handed))
    | close | watch => exact leaves rfl

end Waited

/-! ## Acts -/

/-- No call has been made or has ended between these two states of a link. -/
structure Unended (link next : Link M) : Prop where
  calls : next.calls = link.calls
  returned : ∀ {number : Nat} {ticket? : Option Ticket} {result : Result M},
    .returned number ticket? result ∈ next.history → .returned number ticket? result ∈ link.history

theorem Unended.change (change : Change wiring act mid next) (quiet : act.isQuiet = true)
    (keeps : act.mayRelease = false) (unended : Unended link mid) : Unended link next := by
  obtain ⟨calls, returned⟩ := unended
  cases change with
  | aside only => exact ⟨calls, fun member => returned (only.mem_of_append rfl member)⟩
  | send asked | reject asked | await asked =>
    rw [quiet] at asked
    cases asked
  | abort asked | enqueue _ _ _ _ _ asked | finish asked =>
    rw [asked] at keeps
    cases keeps
  | conclude _ _ _ asked =>
    obtain ⟨first, asked⟩ := asked
    rw [asked] at keeps
    cases keeps
  | _ => exact ⟨calls, fun member => returned (by simpa using member)⟩

/-- Calls are made only with the handle, and end only in an act that may release the link. -/
theorem unended_of_act (sound : link.Sound) (spared : act.needsHandle = false)
    (keeps : act.mayRelease = false) (moved : act? wiring link act = some next) :
    Unended link next := by
  have steps (quiet : act.isQuiet = true) : Unended link next :=
    sound.keeps (motive := Unended link) (fun change _ => Unended.change change quiet keeps) moved
      ⟨rfl, id⟩
  cases act with
  | read | write | supervise => exact steps rfl
  | turn => cases keeps
  | play operation =>
    cases operation with
    | send | close | watch | takeUnmatched => cases spared
    | abort | dropHandle => cases keeps
    | arrive => exact steps rfl
    | pause | transport | advance =>
      cases moved
      exact ⟨rfl, id⟩
    | dropUnmatched | receiveUnmatched =>
      cases moved
      simp only [play]
      split <;> exact ⟨rfl, id⟩

/-- Where nobody waits nobody returns anything, and nobody comes to wait without the handle. -/
theorem unended_of_nobody (sound : link.Sound) (nobody : link.calls = [])
    (spared : act.needsHandle = false) (moved : act? wiring link act = some next) :
    Unended link next := by
  cases keeps : act.mayRelease with
  | false => exact unended_of_act sound spared keeps moved
  | true =>
    cases act with
    | read | write | supervise => cases keeps
    | turn number first => simp [act?, nobody] at moved
    | play operation =>
      cases operation with
      | abort number =>
        cases moved
        simp only [play, abort, nobody, List.find?_nil]
        exact ⟨rfl, id⟩
      | dropHandle => cases spared
      | _ => cases keeps

/-- An operation that neither needs the handle nor ends a call does not look at the handle. -/
theorem holding_play {operation : Operation M} (spared : operation.needsHandle = false)
    (keeps : (Act.play operation).mayRelease = false) :
    (play wiring link operation).2.holding held =
      (play wiring (link.holding held) operation).2 := by
  cases operation with
  | send | close | watch | takeUnmatched | dropHandle => cases spared
  | abort => cases keeps
  | pause | transport | advance => rfl
  | arrive item =>
    cases item with
    | chunk bytes => cases bytes <;> rfl
    | _ => rfl
  | dropUnmatched | receiveUnmatched =>
    simp only [play, holding_receiver]
    split <;> rfl

/-- As long as somebody waits, it makes no difference whether the handle is given up before an act
or after it. -/
theorem dropHandle_act? (sound : link.Sound) (handle : link.handle = true)
    (waited : link.calls ≠ []) (spared : act.needsHandle = false) :
    (act? wiring link act).map dropHandle = act? wiring (link.holding false) act := by
  -- an act that ends no call leaves somebody who waits, so nothing is released after it
  have stays (keeps : act.mayRelease = false)
      (same : (act? wiring link act).map (holding · false) =
        act? wiring (link.holding false) act) :
      (act? wiring link act).map dropHandle = act? wiring (link.holding false) act := by
    rw [← same]
    refine Option.map_congr fun next moved => release_of_held (.inr ?_)
    show next.calls ≠ []
    rw [(unended_of_act sound spared keeps moved).calls]
    exact waited
  cases act with
  | read => exact stays rfl (holding_readStep? wiring link)
  | write => exact stays rfl (holding_writerStep? wiring link)
  | supervise => exact stays rfl (holding_superviseStep? link)
  | turn number first =>
    simp only [act?, holding_calls]
    cases link.calls.find? fun call => call.number = number with
    | none => rfl
    | some call => exact dropHandle_turnOf? handle waited _ call
  | play operation =>
    cases releases : (Act.play operation).mayRelease with
    | false => exact stays releases (congrArg some (holding_play spared releases))
    | true =>
      cases operation with
      | abort number => exact congrArg some (dropHandle_abort handle waited number)
      | dropHandle => cases spared
      | _ => cases releases

end Link

end Multiplex
