import Multiplex.Proofs.Drafts
import Multiplex.Proofs.Expiry
import Multiplex.Proofs.Preparation
import Multiplex.Proofs.Strays

/-!
# Deadlines

A call with a deadline never runs out of time early, and never waits any longer once its turn comes:
from its deadline on a turn of it always ends it, with what it has been told, or as timed out if it
has been told nothing. This is so wherever its request is at that time: still with the call, in the
queue, being written, or filed in the table.

A call that runs out of time takes along its own entry, or what was left under its key by another
caller who is gone. All else stays as it is, and no reply reaches the call any more.

Main statement: `punctual_of_send`.
-/

namespace Multiplex.Link

variable {M : Type}

/-- The deadline of a call that was made on the way to `sent` is kept, whatever happens from there
on. -/
structure Punctual (wiring : Wiring M) (sent : Link M) (number : Nat) (request : Request)
    (deadline : Timer) : Prop where
  /-- From the deadline on the call returns in its turn, what it has been told or that it ran out
  of time. -/
  strikes : ∀ {acts : List (Act M)} {mid : Link M} {handed : Bool},
    follow? wiring sent acts = some mid →
      ⟨number, .send request handed (some deadline)⟩ ∈ mid.calls → deadline.due ≤ mid.clock →
        ∀ first, ∃ next, act? wiring mid (.turn number first) = some next ∧
          .returned number (some request.ticket)
            ((mid.verdict? request handed).getD
              (.failed (.timedOut request.key deadline.millis))) ∈ next.history
  /-- What the call returns it returned in a turn of its own: what it had been told until then, or,
  not before the deadline, that it ran out of time. It ran out of time exactly if it had been told
  nothing. -/
  returned : ∀ {acts : List (Act M)} {final : Link M} {ticket? : Option Ticket} {result : Result M},
    follow? wiring sent acts = some final → .returned number ticket? result ∈ final.history →
      ticket? = some request.ticket ∧ ∃ earlier first later mid handed,
        acts = earlier ++ .turn number first :: later ∧ follow? wiring sent earlier = some mid ∧
          ⟨number, .send request handed (some deadline)⟩ ∈ mid.calls ∧
          Returned mid request handed (some deadline) result ∧
          (result = .failed (.timedOut request.key deadline.millis) ↔
            mid.verdict? request handed = none)
  notEarly : ∀ {acts : List (Act M)} {final : Link M}, follow? wiring sent acts = some final →
    final.clock < deadline.due → ∀ ticket? key millis,
      .returned number ticket? (.failed (.timedOut key millis)) ∉ final.history
  /-- A settled link has no call whose deadline has passed. -/
  notLate : ∀ {acts : List (Act M)} {final : Link M}, follow? wiring sent acts = some final →
    Settled wiring final → deadline.due ≤ final.clock →
      (∀ call ∈ final.calls, call.number ≠ number) ∧
        (.play (.abort number) ∉ acts →
          ∃ result, .returned number (some request.ticket) result ∈ final.history)
  /-- If the call is outstanding on a settled link and then the clock reaches its deadline, it runs
  out of time, in whatever order the tasks take their steps. -/
  prompt : ∀ {acts steps : List (Act M)} {mid final : Link M} {handed : Bool} {millis : Nat},
    follow? wiring sent acts = some mid → Settled wiring mid →
      ⟨number, .send request handed (some deadline)⟩ ∈ mid.calls →
        deadline.due ≤ mid.clock + millis → (∀ act ∈ steps, act.isStep = true) →
          follow? wiring mid (.play (.advance millis) :: steps) = some final →
            Settled wiring final →
              .returned number (some request.ticket)
                (.failed (.timedOut request.key deadline.millis)) ∈ final.history
  /-- What the call has been told is what it returns, however late its turn comes. -/
  kept : ∀ {acts : List (Act M)} {mid : Link M} {handed : Bool} {told : Result M},
    follow? wiring sent acts = some mid →
      ⟨number, .send request handed (some deadline)⟩ ∈ mid.calls →
        mid.verdict? request handed = some told → Destined wiring mid number request.ticket told
  /-- Once the call has run out of time a reply with its key goes to another caller who waits, or to
  nobody. -/
  tooLate : ∀ {acts : List (Act M)} {mid next : Link M} {act : Act M} {message : M},
    follow? wiring sent acts = some mid →
      .returned number (some request.ticket)
        (.failed (.timedOut request.key deadline.millis)) ∈ mid.history →
        act? wiring mid act = some next → message ∈ understood wiring mid next →
          wiring.key message = .ok request.key →
            (∀ message', next.exchanges.poll request.ticket ≠ some (.ok message')) ∧
              ((∃ number' request' handed' timer', number' ≠ number ∧
                  request'.ticket ≠ request.ticket ∧
                  ⟨number', .send request' handed' timer'⟩ ∈ mid.calls ∧
                  mid.table.find? request.key = some request'.ticket ∧
                  mid.exchanges.poll request'.ticket = none ∧
                  next.exchanges.poll request'.ticket = some (.ok message)) ∨
                ∃ item, Stray wiring mid message item ∧
                  next.stats.unmatched = mid.stats.unmatched + 1)
  /-- Running out of time disturbs nothing. If nobody else holds the link it is released then, and
  else that is all. -/
  harmless : ∀ {acts : List (Act M)} {mid next : Link M} {handed first : Bool},
    follow? wiring sent acts = some mid →
      ⟨number, .send request handed (some deadline)⟩ ∈ mid.calls →
        act? wiring mid (.turn number first) = some next →
          .returned number (some request.ticket)
            (.failed (.timedOut request.key deadline.millis)) ∈ next.history →
            ∃ left, Withdrawn wiring mid left number request handed ∧ next = left.release ∧
              (mid.handle = true ∨ (∃ call ∈ mid.calls, call.number ≠ number) → next = left)

variable {wiring : Wiring M} {act : Act M} {acts : List (Act M)} {link next final : Link M}
  {number : Nat} {request : Request} {handed : Bool} {timer : Option Timer} {first : Bool}
  {result : Result M} {deadline : Timer}

/-! ## The parts of the statement -/

theorem strikes_of_passed (sound : link.Sound)
    (member : ⟨number, .send request handed (some deadline)⟩ ∈ link.calls)
    (passed : deadline.due ≤ link.clock) (first : Bool) :
    ∃ next, act? wiring link (.turn number first) = some next ∧
      .returned number (some request.ticket)
        ((link.verdict? request handed).getD
          (.failed (.timedOut request.key deadline.millis))) ∈ next.history := by
  obtain ⟨next, moved⟩ : ∃ next, act? wiring link (.turn number first) = some next :=
    exists_turn sound member (.inr ⟨deadline, rfl, passed⟩) first
  refine ⟨next, moved, ?_⟩
  cases sendTurn_of_act sound member moved with
  | handsOver _ _ _ _ early => exact absurd passed (Nat.not_le.2 (early deadline rfl))
  | learns told verdict =>
    rw [verdict, Option.getD_some]
    exact finish_mem_history _ _ _
  | expires timed _ undecided =>
    cases timed
    rw [undecided, Option.getD_none]
    exact finish_mem_history _ _ _

/-- On a settled link past the deadline the call is over. -/
theorem over_of_settled (consistent : link.Consistent wiring)
    (member : ⟨number, .send request handed timer⟩ ∈ link.calls)
    (run : follow? wiring link acts = some final) (settled : Settled wiring final)
    (timed : timer = some deadline) (passed : deadline.due ≤ final.clock) :
    (∀ call ∈ final.calls, call.number ≠ number) ∧
      (.play (.abort number) ∉ acts →
        ∃ result, .returned number (some request.ticket) result ∈ final.history) := by
  have consistent' := consistent.follow run
  cases course_of_follow consistent run member with
  | waits member' =>
    have early := (settled.send_undecided consistent'.sound member').2 deadline timed
    exact absurd passed (Nat.not_le.2 early)
  | returned _ _ _ _ _ _ returned =>
    exact ⟨(consistent'.accounted.number returned).2, fun _ => ⟨_, returned⟩⟩
  | cancelled asked silent =>
    exact ⟨(nothing_of_silent consistent member run silent).1, fun spared => absurd asked spared⟩

/-- Nobody who ran out of time is told of a message, and whoever is told of it waits. -/
theorem tooLate_of_timedOut (consistent : link.Consistent wiring) (untimed : link.Untimed)
    {key : String} {millis : Nat} {message : M}
    (timedOut : .returned number (some request.ticket) (.failed (.timedOut key millis)) ∈
      link.history)
    (moved : act? wiring link act = some next) (member : message ∈ understood wiring link next)
    (derived : wiring.key message = .ok request.key) :
    (∀ message', next.exchanges.poll request.ticket ≠ some (.ok message')) ∧
      ((∃ number' request' handed' timer', number' ≠ number ∧
          request'.ticket ≠ request.ticket ∧
          ⟨number', .send request' handed' timer'⟩ ∈ link.calls ∧
          link.table.find? request.key = some request'.ticket ∧
          link.exchanges.poll request'.ticket = none ∧
          next.exchanges.poll request'.ticket = some (.ok message)) ∨
        ∃ item, Stray wiring link message item ∧
          next.stats.unmatched = link.stats.unmatched + 1) := by
  have classified := classified_of_understood consistent moved member
  constructor
  · intro message' seen
    have after := (Grows.of_act consistent.sound moved).mem_history timedOut
    have untimed' := untimed.after consistent.sound moved
    rcases (consistent.after moved).honest after with ⟨outcome, seen', same⟩ | nothing
    · rw [seen] at seen'
      cases seen'
      cases same
    · cases nothing _ seen
  · by_cases strays : ∃ item, Stray wiring link message item
    · obtain ⟨item, stray⟩ := strays
      exact .inr ⟨item, stray, (classified.unmatched_iff.2 ⟨item, stray⟩).2⟩
    · obtain ⟨-, number', request', handed', timer', there, derived', found, unseen, seen⟩ :=
        classified.delivered fun item stray => strays ⟨item, stray⟩
      have named : request.key = request'.key := Except.ok.inj (derived.symm.trans derived')
      refine .inl ⟨number', request', handed', timer', ?_, ?_, there, named ▸ found, unseen, seen⟩
      · exact (consistent.accounted.number timedOut).2 _ there
      · intro same
        have live := (consistent.sound.owned.waiting there rfl).1
        rw [same, (consistent.accounted.gone timedOut).2] at live
        cases live

/-! ## Every deadline is kept -/

/-- The deadline of an outstanding call is kept. -/
theorem Consistent.punctual (consistent : link.Consistent wiring) (untimed : link.Untimed)
    (member : ⟨number, .send request handed (some deadline)⟩ ∈ link.calls) :
    Punctual wiring link number request deadline := by
  have untimed_of {acts : List (Act M)} {mid : Link M} (run : follow? wiring link acts = some mid) :
      mid.Untimed := untimed.follow consistent.sound run
  refine
    { strikes := fun run member passed first =>
        strikes_of_passed (consistent.follow run).sound member passed first
      returned := fun run returned => ?_
      notEarly := fun run early ticket? key millis returned => ?_
      notLate := fun run settled passed => over_of_settled consistent member run settled rfl passed
      prompt := fun run settled member passed steps onward settled' => ?_
      kept := fun run member verdict => destined_of_verdict (consistent.follow run) member verdict
      tooLate := fun run timedOut moved heard derived =>
        tooLate_of_timedOut (consistent.follow run) (untimed_of run) timedOut moved heard derived
      harmless := fun run member moved returned => ?_ }
  · obtain ⟨same, earlier, first, later, mid, handed, split, before, member', told⟩ :=
      turn_of_returned consistent member run returned
    refine ⟨same, earlier, first, later, mid, handed, split, before, member', told, ?_⟩
    rcases told with verdict | ⟨undecided, deadline', timed, -, timedOut⟩
    · rw [verdict]
      refine iff_of_false ?_ (Option.some_ne_none _)
      rintro rfl
      exact (untimed_of before).verdict? verdict
    · cases timed
      exact iff_of_true timedOut undecided
  · obtain ⟨-, earlier, first, later, mid, handed, rfl, before, -, told⟩ :=
      turn_of_returned consistent member run returned
    have onward := follow?_rest before run
    rcases told with verdict | ⟨-, deadline', timed, passed, -⟩
    · exact (untimed_of before).verdict? verdict
    · cases timed
      have later := (Grows.of_follow (consistent.follow before).sound onward).clock_le
      exact absurd early (Nat.not_lt.2 (Nat.le_trans passed later))
  · have consistent' := consistent.follow run
    have waiting : Waiting wiring _ :=
      ⟨consistent'.sound, settled, settled.active_of_send consistent'.sound member rfl⟩
    obtain ⟨next, moved, rest⟩ := follow?_cons.1 onward
    have consistent'' := consistent'.after moved
    cases moved
    rcases (waiting.lull _).follow waiting consistent'' member steps rest with
      ⟨-, member'⟩ | returned
    -- the link would not have settled
    · have early := (settled'.send_undecided (consistent''.follow rest).sound member').2 _ rfl
      have later := (Grows.of_follow consistent''.sound rest).clock_le
      exact absurd early (Nat.not_lt.2 (Nat.le_trans passed later))
    · exact returned
  · obtain ⟨left, withdrawn, same⟩ :=
      withdrawn_of_turn (consistent.follow run) (untimed_of run) member moved returned
    exact ⟨left, withdrawn, same, fun held => same.trans (withdrawn.release_eq held)⟩

/-- A call that sends waits with the deadline that it was given. -/
theorem mem_calls_of_send {message : M} (timeout : Option Nat)
    (prepared : (prepare wiring link message).1 = .ok request) :
    ⟨link.made, .send request false (timeout.map fun millis => ⟨millis, link.clock + millis⟩)⟩ ∈
      (link.send wiring message timeout).calls := by
  rcases prepare_cases wiring link message none with
    ⟨error, after, eq, -⟩ | ⟨request', keyed, after, eq, -, -, made, clock, -⟩
  · rw [eq] at prepared
    cases prepared
  · rw [eq] at prepared
    cases prepared
    rw [send, eq, ← made, ← clock]
    exact List.mem_append_right _ (List.mem_singleton_self _)

/-- In every run the deadline of a send is kept, unless the message cannot be sent at all. -/
theorem punctual_of_send {sent : Link M} {message : M} {given : Option Nat} {millis : Nat}
    (run : follow? wiring fresh acts = some link) (handle : link.handle = true)
    (moved : act? wiring link (.play (.send message given)) = some sent)
    (timed : (given <|> wiring.config.requestTimeout) = some millis) :
    match (prepare wiring link message).1 with
    | .error error => .returned link.made none (.failed error) ∈ sent.history
    | .ok request =>
      ⟨link.made, .send request false (some ⟨millis, link.clock + millis⟩)⟩ ∈ sent.calls ∧
        Punctual wiring sent link.made request ⟨millis, link.clock + millis⟩ := by
  have before := consistent_of_run run
  have consistent := before.after moved
  have untimed := (untimed_of_run run).after before.sound moved
  have eq : sent = link.send wiring message (some millis) := by
    rw [eq_send_of_act handle moved, timed]
  split
  · next error failed =>
    rw [eq, send_of_error failed]
    exact List.mem_cons_self
  · next request prepared =>
    have member := mem_calls_of_send (some millis) prepared
    rw [← eq] at member
    exact ⟨member, consistent.punctual untimed member⟩

/-! ## A request that gets stuck -/

section Stuck

open Rehearsal

/-- The transport accepts five bytes. -/
def stuckStart : List (Act Scripted) :=
  [.play (.transport { write := some (some 5, .stalled) })]

/-- A request with a deadline of five milliseconds. -/
def stuckSend : Act Scripted :=
  .play (.send (scriptedMessage "000001") (some 5))

/-- The request is handed over, and its frame is written as far as it goes. -/
def stuckWrites : List (Act Scripted) :=
  [.turn 0 true, .write, .write]

/-- The link before the call is made. -/
def stuckBefore : Link Scripted :=
  scriptedLink stuckStart

/-- The link just after. -/
def stuckSent : Link Scripted :=
  scriptedLink (stuckStart ++ [stuckSend])

/-- The link when nothing more can be written. -/
def stuckMid : Link Scripted :=
  scriptedLink (stuckStart ++ [stuckSend] ++ stuckWrites)

/-- The link after its clock has gone on and the call has taken its turn. -/
def stuckEnd : Link Scripted :=
  scriptedLink (stuckStart ++ [stuckSend] ++ stuckWrites ++ [.play (.advance 5), .turn 0 false])

/-- The request of the call. -/
def stuckRequest : Request :=
  ⟨0, "000001", scriptedFrame 49⟩

theorem follow?_stuck : follow? scriptedWiring fresh stuckStart = some stuckBefore ∧
    act? scriptedWiring stuckBefore stuckSend = some stuckSent ∧
    follow? scriptedWiring stuckSent stuckWrites = some stuckMid ∧
    follow? scriptedWiring stuckMid [.play (.advance 5), .turn 0 false] = some stuckEnd := by
  have all : follow? scriptedWiring fresh
      (stuckStart ++ [stuckSend] ++ stuckWrites ++ [.play (.advance 5), .turn 0 false]) =
        some stuckEnd :=
    follow?_scripted (by decide +kernel)
  obtain ⟨third, all, run⟩ := follow?_append.1 all
  obtain ⟨second, all', run'⟩ := follow?_append.1 all
  obtain ⟨first, start, sends⟩ := follow?_append.1 all'
  obtain ⟨next, moved, none⟩ := follow?_cons.1 sends
  cases none
  rw [stuckBefore, stuckSent, stuckMid, scriptedLink_eq start, scriptedLink_eq all',
    scriptedLink_eq all]
  exact ⟨start, moved, run', run⟩

theorem stuck_eq :
    (prepare scriptedWiring stuckBefore (scriptedMessage "000001")).1.toOption =
        some stuckRequest ∧
      stuckBefore.handle = true ∧ stuckBefore.made = 0 ∧ stuckBefore.clock = 0 ∧
      ⟨0, .send stuckRequest true (some ⟨5, 5⟩)⟩ ∈ stuckMid.calls ∧
      stuckMid.clock = 0 ∧ Settled scriptedWiring stuckMid ∧
      Settled scriptedWiring stuckEnd := by
  decide +kernel

theorem punctual_of_send_stuck :
    Punctual scriptedWiring stuckSent 0 stuckRequest ⟨5, 5⟩ ∧
      .returned 0 (some 0) (.failed (.timedOut "000001" 5)) ∈ stuckEnd.history := by
  obtain ⟨start, sends, writes, ends⟩ := follow?_stuck
  obtain ⟨prepared, handle, made, clock, member, clock', settled, settled'⟩ := stuck_eq
  have kept := punctual_of_send start handle sends rfl
  split at kept
  · next error failed =>
    rw [failed] at prepared
    cases prepared
  · next request ready =>
    rw [ready] at prepared
    cases prepared
    rw [made, clock] at kept
    refine ⟨kept.2, kept.2.prompt writes settled member (by simp [clock']) ?_ ends settled'⟩
    intro act inside
    rw [List.mem_singleton.1 inside]
    rfl

end Stuck

end Multiplex.Link
