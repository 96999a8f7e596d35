import Multiplex.Proofs.FrameOrigins
import Multiplex.Proofs.Stillness

/-!
# Replies reach their callers

Whatever happens on a link, in whatever order: a reply that a call returns is the message of a frame
that was read after the call's request had been registered, it has the request's key, and no other
call returns the message of that frame. The frames that are read are those at the front of the bytes
that arrive. Conversely the message of every frame that is read while a
live entry has its key goes to the caller of that entry. So what the calls on a link return does not
depend on the order in which their replies come.

Main statement: `correlated_of_run`.
-/

namespace Multiplex.Link

variable {M : Type}

/-- A call of a link has been given a reply, in `next`: whatever the link comes to, the call returns
this reply if it returns, it does return unless it is cancelled, and no other call returns the
message of the same frame, which was the first one read after `before`. -/
structure Receives (wiring : Wiring M) (next : Link M) (before : List (Event M)) (number : Nat)
    (ticket : Ticket) (message : M) : Prop where
  handover : Handover wiring next.history before ticket message
  seen : next.exchanges.poll ticket = some (.ok message)
  nothingElse : ∀ {acts : List (Act M)} {final : Link M},
    follow? wiring next acts = some final → ∀ {ticket? : Option Ticket} {result : Result M},
      .returned number ticket? result ∈ final.history →
        ticket? = some ticket ∧ result = .replied message
  returned : ∀ {acts : List (Act M)} {final : Link M},
    follow? wiring next acts = some final → .play (.abort number) ∉ acts →
      Settled wiring final → .returned number (some ticket) (.replied message) ∈ final.history
  nobodyElse : ∀ {acts : List (Act M)} {final : Link M},
    follow? wiring next acts = some final → ∀ {number' : Nat} {ticket' : Ticket} {message' : M},
      .returned number' (some ticket') (.replied message') ∈ final.history →
        Handover wiring final.history before ticket' message' → number' = number

/-- After nothing but arrivals and the steps of its tasks a link has settled in `final`, and `new`
has happened meanwhile. -/
structure Resettles (wiring : Wiring M) (link final : Link M) (new : List (Event M)) : Prop where
  run : ∃ acts : List (Act M), (∀ act ∈ acts, act.isQuiet = true) ∧
    follow? wiring link acts = some final
  settled : Settled wiring final
  history : final.history = new ++ link.history

/-- The calls on a link get the replies that are meant for them, out of what has arrived in
`acts`. -/
structure Correlated (wiring : Wiring M) (acts : List (Act M)) (link : Link M) : Prop where
  /-- What was read are the payloads of the frames that arrived, in order. -/
  framed : 0 < wiring.framing.size → link.ReadsOff wiring (arrived acts)
  /-- What a call returns was read after its request had been registered, under the key of both. -/
  genuine : ∀ {number : Nat} {ticket? : Option Ticket} {message : M},
    .returned number ticket? (.replied message) ∈ link.history →
      ∃ ticket before, ticket? = some ticket ∧ Handover wiring link.history before ticket message
  /-- A call returns for the ticket of its own request. -/
  own : ∀ {number : Nat} {request : Request} {handed : Bool} {timer : Option Timer},
    ⟨number, .send request handed timer⟩ ∈ link.calls →
      ∀ {acts : List (Act M)} {final : Link M}, follow? wiring link acts = some final →
        ∀ {ticket? : Option Ticket} {result : Result M},
          .returned number ticket? result ∈ final.history → ticket? = some request.ticket
  /-- No two calls return the message of one frame. -/
  exclusive : ∀ {number number' : Nat} {ticket ticket' : Ticket} {message message' : M}
    {before : List (Event M)}, .returned number (some ticket) (.replied message) ∈ link.history →
      .returned number' (some ticket') (.replied message') ∈ link.history →
        Handover wiring link.history before ticket message →
          Handover wiring link.history before ticket' message' → number = number'
  /-- What is read while a live entry has its key goes to the caller of that entry. -/
  delivered : ∀ {act : Act M} {next : Link M} {new : List (Event M)} {key : String} {message : M}
    {ticket : Ticket}, act? wiring link act = some next → next.history = new ++ link.history →
      Heard wiring new key message → link.table.find? key = some ticket →
        link.exchanges.isAbandoned ticket = false →
          ∃ number request handed timer, ⟨number, .send request handed timer⟩ ∈ link.calls ∧
            request.ticket = ticket ∧ Receives wiring next link.history number ticket message
  /-- Once a link has settled its calls come to the same in whatever order frames are read, unless
  two frames hold different messages for one entry. -/
  orderless : Settled wiring link → ∀ {final final' : Link M} {new new' : List (Event M)},
    Resettles wiring link final new → Resettles wiring link final' new' →
      (∀ payload, .received payload ∈ new ↔ .received payload ∈ new') →
        (∀ {key : String} {message message' : M}, link.table.find? key ≠ none →
          Heard wiring new key message → Heard wiring new key message' → message = message') →
          (final.phase = .active ↔ final'.phase = .active) →
            ∀ {call : Call} {request : Request} {handed : Bool} {timer : Option Timer},
              call ∈ link.calls → call.task = .send request handed timer →
                ∀ {ticket? : Option Ticket} {result : Result M},
                  .returned call.number ticket? result ∈ final.history ↔
                    .returned call.number ticket? result ∈ final'.history

variable {wiring : Wiring M} {act : Act M} {acts : List (Act M)} {link next final : Link M}

theorem receives_of_heard (consistent : link.Consistent wiring)
    (moved : act? wiring link act = some next) {new : List (Event M)}
    (history : next.history = new ++ link.history) {key : String} {message : M}
    (heard : Heard wiring new key message) {number : Nat} {request : Request} {handed : Bool}
    {timer : Option Timer} (found : link.table.find? key = some request.ticket)
    (member : ⟨number, .send request handed timer⟩ ∈ link.calls) :
    Receives wiring next link.history number request.ticket message := by
  have sound := consistent.sound
  have live := (sound.owned.waiting member rfl).1
  obtain ⟨rfl, seen, handover⟩ := handover_of_heard consistent moved history heard found live
  have inside := Exchanges.lt_length_of_replied seen
  have consistent' := consistent.after moved
  have belongs : next.Belongs number request.ticket :=
    sound.keeps (motive := fun link => link.Belongs number request.ticket) Belongs.change moved
      (.of_member sound.owned consistent.accounted member rfl)
  have onward {acts : List (Act M)} {final : Link M} (run : follow? wiring next acts = some final) :
      final.Belongs number request.ticket ∧
        final.exchanges.poll request.ticket = some (.ok message) :=
    ⟨consistent'.sound.follow_keeps (motive := fun link => link.Belongs number request.ticket)
        Belongs.change run belongs,
      (Grows.of_follow consistent'.sound run).exchanges.seen inside seen⟩
  refine ⟨handover, seen, ?_, ?_, ?_⟩
  -- what the call returns is the outcome of its own exchange, which is the message
  · intro acts final run ticket? result returned
    obtain ⟨belongs, seen⟩ := onward run
    cases (belongs.returned returned).1 rfl
    rcases (consistent'.follow run).honest returned with ⟨outcome, seen', rfl⟩ | nothing
    · rw [seen] at seen'
      cases seen'
      exact ⟨rfl, rfl⟩
    · cases nothing _ seen
  -- on a settled link it has returned, since it waits for nothing any more
  · intro acts final run spared settled
    have seen := (onward run).2
    have start : link.Fate number request timer none := .waits member fun _ known => nomatch known
    have fate := (start.after moved sound (by simp)).follow run consistent'.sound spared
    cases fate with
    | waits member still =>
      have sound' := consistent'.sound.follow run
      have active := settled.active_of_send sound' member rfl
      rw [(settled.send_waits sound'.owned member rfl).1] at seen
      cases seen
    | learnt inside returned seen' still =>
      rw [seen] at seen'
      cases seen'
      exact returned
    | expired inside unknown timed passed returned gone nothing => cases nothing _ seen
  -- whoever else returns the frame's message does so for the same ticket
  · intro acts final run number' ticket' message' returned handover'
    obtain ⟨belongs, -⟩ := onward run
    obtain ⟨later, eq⟩ := (Grows.of_follow consistent'.sound run).history
    rw [eq] at handover'
    obtain ⟨rfl, -⟩ := handover'.unique (handover.append later)
    exact (belongs.returned returned).2 rfl

/-- Every run leads to a link whose calls get the replies that are meant for them. -/
theorem correlated_of_run (run : follow? wiring fresh acts = some link) :
    link.Correlated wiring acts := by
  have consistent := consistent_of_run run
  have sound := consistent.sound
  refine ⟨fun sized => readsOff_of_run sized run, consistent.answered.returned, ?_, ?_, ?_, ?_⟩
  · intro number request handed timer member later final onward ticket? result returned
    have belongs : final.Belongs number request.ticket :=
      sound.follow_keeps (motive := fun link => link.Belongs number request.ticket) Belongs.change
        onward (.of_member sound.owned consistent.accounted member rfl)
    exact (belongs.returned returned).1 rfl
  -- one frame is handed over for one ticket, and one call returns for it
  · intro number number' ticket ticket' message message' before returned returned' first second
    obtain ⟨rfl, -⟩ := first.unique second
    exact consistent.accounted.one returned returned'
  · intro act next new key message ticket moved history heard found live
    obtain ⟨number, request, handed, timer, member, rfl⟩ := sound.owned.caller_of_live live
    exact ⟨number, request, handed, timer, member, rfl,
      receives_of_heard consistent moved history heard found member⟩
  -- either order comes to the ending that the frames tell, and they tell the same
  · intro settled final final' new new' first second frames apart alike call request handed timer
      member task ticket? result
    have waiting : Waiting wiring link :=
      ⟨sound, settled, settled.active_of_send sound member task⟩
    obtain ⟨acts, quiet, run⟩ := first.run
    obtain ⟨acts', quiet', run'⟩ := second.run
    obtain ⟨result?, ending, returned⟩ :=
      waiting.ending consistent quiet run first.settled first.history member task
    obtain ⟨result?', ending', returned'⟩ :=
      waiting.ending consistent quiet' run' second.settled second.history member task
    rw [returned, returned', ending.unique sound.owned frames apart alike ending']

/-! ## Replies that cross -/

section Crossed

open Rehearsal

/-- The frame of a scripted request or reply. -/
def scriptedFrame (last : UInt8) : Bytes :=
  [0, 14, 0, 0, 48, 50, 48, 48, 0, 11, 0, 6, 48, 48, 48, 48, 48, last]

/-- Two requests are sent, and their replies come in the other order. -/
def crossedRun : List (Act Scripted) :=
  [.play (.send (scriptedMessage "000001") none), .turn 0 true, .write, .write, .write, .write,
    .play (.send (scriptedMessage "000002") none), .turn 1 true, .write, .write, .write, .write,
    .play (.arrive (.chunk (scriptedFrame 50))), .read, .read, .read,
    .play (.arrive (.chunk (scriptedFrame 49))), .read, .read, .read, .turn 0 false,
    .turn 1 false]

/-- The link after that run. -/
def crossedLink : Link Scripted :=
  scriptedLink crossedRun

theorem follow?_crossedRun : follow? scriptedWiring fresh crossedRun = some crossedLink :=
  follow?_scripted (by decide +kernel)

theorem correlated_of_run_crossed :
    follow? scriptedWiring fresh crossedRun = some crossedLink ∧
      crossedLink.stats.repliesMatched = 2 ∧ crossedLink.calls = [] ∧
      arrived crossedRun = scriptedFrame 50 ++ scriptedFrame 49 ∧
      readings crossedLink.history = [(scriptedFrame 50).drop 4, (scriptedFrame 49).drop 4] ∧
      crossedLink.Correlated scriptedWiring crossedRun :=
  ⟨follow?_crossedRun, by decide +kernel, by decide +kernel, rfl, by decide +kernel,
    correlated_of_run follow?_crossedRun⟩

end Crossed

end Multiplex.Link
