import Multiplex.Proofs.Correlation
import Multiplex.Proofs.Faults
import Multiplex.Proofs.Leaving
import Multiplex.Proofs.Turns

/-!
# Frames that cannot be written

When the transport fails to take a frame or to flush it, that is the failure of one request. Its
caller returns it, unless it is gone or has its reply by then, and no other call ever does. What
else comes of it is for the settings to say. Either the link goes on: all but the one request is as
it was, and the writer takes the next one from the queue. Or the link drains in the same step: every
other entry in the table is failed with a closed link and counted, and whoever waits for a place in
the queue, in the queue or for a reply returns that the link is closed.

A call whose request is in the queue is told so when the writer takes its next step, which is to
turn the queue away; the writer does not wait before that step.

Main statement: `scoped_of_attempt`.
-/

namespace Multiplex.Link

variable {M : Type}

/-- The frame of a request could not be written, and the link goes on with all else as it was. -/
structure Spared (wiring : Wiring M) (link next : Link M) (request : Request) : Prop where
  phase : next.phase = .active
  table : next.table =
    { link.table with slots := link.table.slots.filter fun slot => slot.2 ≠ request.ticket }
  outcomes : ∀ ticket, ticket ≠ request.ticket →
    next.exchanges.poll ticket = link.exchanges.poll ticket
  verdicts : ∀ {number : Nat} {request' : Request} {handed : Bool} {timer : Option Timer},
    ⟨number, .send request' handed timer⟩ ∈ link.calls → request'.ticket ≠ request.ticket →
      next.verdict? request' handed = link.verdict? request' handed
  stats : next.stats = { link.stats with writeFailures := link.stats.writeFailures + 1 }
  /-- The writer takes the next request in order. -/
  goesOn : ∀ {head : Request} {rest : List Request}, link.queue = head :: rest →
    act? wiring next .write = some ({ next with queue := rest }.register head)

/-- The frame of a request could not be written, and the link drains because of that. -/
structure Fallen (wiring : Wiring M) (link next : Link M) (request : Request) (error : IoError) :
    Prop where
  phase : next.phase = .draining
  reason : .draining (.writeFailure (.writeFailed request.key error)) ∈ next.history
  /-- The other entries in the table are counted. -/
  stats : next.stats =
    { link.stats with
      writeFailures := link.stats.writeFailures + 1
      drained := (link.table.slots.filter fun slot => slot.2 ≠ request.ticket).length }
  registered : ∀ slot ∈ link.table.slots, slot.2 ≠ request.ticket →
    next.exchanges.poll slot.2 = some (.error .closed)
  /-- Whoever is in line or waits for a reply, and has been told nothing, returns that the link is
  closed. -/
  closes : ∀ {number : Nat} {request' : Request} {handed : Bool} {timer : Option Timer},
    ⟨number, .send request' handed timer⟩ ∈ link.calls → request'.ticket ≠ request.ticket →
      link.verdict? request' handed = none → (handed = true → request' ∉ link.queue) →
        Destined wiring next number request'.ticket (.failed .closed)
  /-- The writer goes on without waiting and turns the queue away, and whoever has its request
  there, and has been told nothing, returns that the link is closed as well. -/
  queued : ∃ turned, act? wiring next .write = some turned ∧ turned.queue = [] ∧
    turned.queueOpen = false ∧
    ∀ {number : Nat} {request' : Request} {handed : Bool} {timer : Option Timer},
      ⟨number, .send request' handed timer⟩ ∈ link.calls → request'.ticket ≠ request.ticket →
        link.verdict? request' handed = none → request' ∈ link.queue →
          Destined wiring turned number request'.ticket (.failed .closed)

/-- The frame of a request could not be written, which concerns that request alone, and everybody
else at most if the settings say so. -/
structure Scoped (wiring : Wiring M) (acts : List (Act M)) (act : Act M) (link next : Link M)
    (request : Request) (error : IoError) : Prop where
  active : link.phase = .active
  writer : link.writer.request? = some request ∧ next.writer = .idle
  calls : next.calls = link.calls ∧ next.made = link.made ∧ next.handle = link.handle
  queue : next.queue = link.queue ∧ next.queueOpen = link.queueOpen
  transport : next.transport = link.transport
  reader : next.reader = link.reader
  rest : next.stan = link.stan ∧ next.clock = link.clock ∧ next.unmatched = link.unmatched ∧
    next.receiver = link.receiver
  callers : ∀ ticket, next.exchanges.isAbandoned ticket = link.exchanges.isAbandoned ticket
  gone : ∀ key, (key, request.ticket) ∉ next.table.slots
  /-- The call whose frame it was returns the failure, if it is there and has no reply. -/
  told : ∀ {number : Nat} {handed : Bool} {timer : Option Timer},
    ⟨number, .send request handed timer⟩ ∈ link.calls →
      Destined wiring next number request.ticket
          (.failed (.writeFailed request.key error)) ∨
        ∃ message, link.exchanges.poll request.ticket = some (.ok message) ∧
          Destined wiring next number request.ticket (.replied message)
  /-- Nobody else is told of it. -/
  alone : ∀ ticket, ticket ≠ request.ticket →
    next.exchanges.poll ticket = link.exchanges.poll ticket ∨
      link.exchanges.poll ticket = none ∧ next.exchanges.poll ticket = some (.error .closed)
  traced : ∀ {later : List (Act M)} {final : Link M}, follow? wiring next later = some final →
    Traced wiring (acts ++ act :: later) final
  stays : wiring.config.closeOnWriteFailure = false → Spared wiring link next request
  falls : wiring.config.closeOnWriteFailure = true → Fallen wiring link next request error

variable {wiring : Wiring M} {act : Act M} {acts later : List (Act M)}
  {link mid next final : Link M} {number : Nat} {request : Request} {handed : Bool}
  {timer : Option Timer} {error : IoError} {ticket : Ticket}

/-! ## Entries other than that of the request -/

section Entries

variable (consistent : link.Consistent wiring) (working : link.writer.request? = some request)
include consistent working

/-- The entry under the key of the writer's request is its own, and it is under no other key. -/
theorem key_eq_iff_of_working {slot : String × Ticket} (member : slot ∈ link.table.slots) :
    slot.1 = request.key ↔ slot.2 = request.ticket := by
  have owned := consistent.sound.owned
  obtain ⟨key, ticket⟩ := slot
  constructor
  · rintro rfl
    have found := (Table.find?_eq_some_iff owned.uniqueKeys).2 member
    exact owned.ownEntry request ticket working found
  · rintro rfl
    obtain ⟨message, known⟩ := consistent.recorded.carried (.writer working)
    exact (consistent.key_of_slot member known).symm

theorem erase_of_working : link.table.erase request.key =
    { link.table with slots := link.table.slots.filter fun slot => slot.2 ≠ request.ticket } := by
  rw [Table.erase]
  refine congrArg (fun slots => ({ link.table with slots } : Table)) ?_
  refine List.filter_congr fun slot member => ?_
  have same := key_eq_iff_of_working consistent working member
  rw [Bool.eq_iff_iff, bne_iff_ne, decide_eq_true_iff]
  exact not_congr same

theorem mem_erase_of_working {slot : String × Ticket} :
    slot ∈ (link.table.erase request.key).slots ↔
      slot ∈ link.table.slots ∧ slot.2 ≠ request.ticket := by
  rw [erase_of_working consistent working]
  simp

theorem poll_failAt_of_ne (failure : LinkError) (other : ticket ≠ request.ticket) :
    (link.exchanges.failAt link.table request.key failure).poll ticket =
      link.exchanges.poll ticket := by
  rw [Exchanges.poll_failAt, if_neg]
  exact fun found => other (consistent.sound.owned.ownEntry request ticket working found)

/-- Callers other than that of the request learn nothing, or that the link is closed. -/
theorem FailedWrite.poll_of_ne (failed : FailedWrite wiring link request error next)
    (other : ticket ≠ request.ticket) :
    next.exchanges.poll ticket = link.exchanges.poll ticket ∨
      wiring.config.closeOnWriteFailure = true ∧ ticket ∈ link.table.slots.map Prod.snd ∧
        next.exchanges.poll ticket = some (.error .closed) := by
  cases failed with
  | stays => exact .inl (poll_failAt_of_ne consistent working _ other)
  | falls falls =>
    dsimp only
    rw [Exchanges.poll_closeAll]
    split
    · next filed =>
      obtain ⟨slot, member, rfl⟩ := List.mem_map.1 filed
      have inside := ((mem_erase_of_working consistent working).1 member).1
      exact .inr ⟨falls, List.mem_map_of_mem inside, rfl⟩
    · exact .inl (poll_failAt_of_ne consistent working _ other)

/-- The caller of the request sees the failure, or it has its reply. -/
theorem FailedWrite.poll_own (active : link.phase = .active)
    (failed : FailedWrite wiring link request error next)
    (live : link.exchanges.isAbandoned request.ticket = false) :
    next.exchanges.poll request.ticket = some (.error (.writeFailed request.key error)) ∨
      ∃ message, link.exchanges.poll request.ticket = some (.ok message) ∧
        next.exchanges.poll request.ticket = some (.ok message) := by
  have same : next.exchanges.poll request.ticket =
      (link.exchanges.failAt link.table request.key
        (.writeFailed request.key error)).poll request.ticket := by
    cases failed with
    | stays => rfl
    | falls =>
      dsimp only
      rw [Exchanges.poll_closeAll, if_neg]
      intro filed
      obtain ⟨slot, member, same⟩ := List.mem_map.1 filed
      exact ((mem_erase_of_working consistent working).1 member).2 same
  rw [same, Exchanges.poll_failAt]
  rcases consistent.blamed.working working active with gone | found | ⟨message, seen⟩
  · rw [live] at gone
    cases gone
  · rw [if_pos found, live]
    exact .inl rfl
  · refine .inr ⟨message, seen, ?_⟩
    -- an entry that has been consumed is in the table no more
    rw [if_neg, seen]
    intro found
    rw [consistent.sound.owned.poll_of_find? found] at seen
    cases seen

/-- The writer has taken its request, so the call is not in line any more. -/
theorem handed_of_working (member : ⟨number, .send request handed timer⟩ ∈ link.calls) :
    handed = true := by
  cases handed with
  | true => rfl
  | false =>
    have waits : request.ticket ∈ link.unfiled :=
      List.mem_append_right _ (mem_line_iff.2 ⟨_, member, request, timer, rfl, rfl⟩)
    exact absurd (consistent.recorded.working working) (consistent.recorded.unregistered waits)

end Entries

/-! ## Calls on a link that has begun to drain -/

theorem poll_of_undecided (owned : link.Owned)
    (member : ⟨number, .send request handed timer⟩ ∈ link.calls)
    (undecided : link.verdict? request handed = none) :
    link.exchanges.poll request.ticket = none := by
  cases handed with
  | false => exact owned.poll_of_line member rfl
  | true => rwa [verdict?_handed, Option.map_eq_none_iff] at undecided

/-- The entry of a call that has been told nothing is in the table, or its request is in the
queue. -/
theorem filed_or_queued (consistent : link.Consistent wiring)
    (member : ⟨number, .send request true timer⟩ ∈ link.calls)
    (unseen : link.exchanges.poll request.ticket = none) :
    request.ticket ∈ link.table.slots.map Prod.snd ∨ request ∈ link.queue := by
  have owned := consistent.sound.owned
  have held := owned.held.mem_iff.2 unseen
  rw [holders, List.mem_append, List.mem_append] at held
  rcases held with filed | queued | line
  · exact .inl filed
  · obtain ⟨other, inside, same⟩ := List.mem_map.1 queued
    obtain ⟨message, known⟩ := consistent.recorded.carried (.queue inside)
    obtain ⟨message', known'⟩ := consistent.recorded.carried (.call member rfl)
    rw [← (consistent.recorded.unique known known' same).2]
    exact .inr inside
  · obtain ⟨other, inside, request', timer', task, same⟩ := mem_line_iff.1 line
    have number_eq := owned.eq_of_ticket member rfl inside (by simp [Call.ticket?, task, same])
    rw [owned.eq_of_number inside member number_eq] at task
    cases task

/-- A writer that has broken off turns its queue away in its next step, and with that every call in
the queue or in line has its verdict. -/
theorem turned_away (consistent : link.Consistent wiring) (inactive : link.phase ≠ .active)
    (idle : link.writer = .idle) :
    ∃ turned, act? wiring link .write = some turned ∧ turned.queue = [] ∧
      turned.queueOpen = false ∧
      ∀ {number : Nat} {request : Request} {handed : Bool} {timer : Option Timer},
        ⟨number, .send request handed timer⟩ ∈ link.calls → request ∈ link.queue →
          Destined wiring turned number request.ticket (.failed .closed) := by
  have asked := consistent.sound.phased.stopAsked_iff.2 inactive
  have moved : act? wiring link .write = some link.stopWriting := by
    rw [act?, writerStep?, idle]
    dsimp only
    rw [if_pos asked]
  have consistent' := consistent.after moved
  obtain ⟨told, remarks, -, eq⟩ := stopWriting_eq link
  rw [eq] at moved consistent'
  refine ⟨_, moved, rfl, rfl, fun {number request handed timer} member queued => ?_⟩
  refine destined_of_verdict consistent' member ?_
  cases handed with
  | false => exact verdict?_line_eq_some_iff.2 ⟨.inl inactive, rfl⟩
  | true =>
    rw [verdict?_handed]
    dsimp only
    rw [Exchanges.poll_closeAll, if_pos (List.mem_map_of_mem queued)]
    rfl

/-! ## What comes of a failed write -/

section Failure

variable (consistent : link.Consistent wiring) (working : link.writer.request? = some request)
  (failed : FailedWrite wiring link request error next)
include consistent working failed

theorem FailedWrite.spared (active : link.phase = .active)
    (stays : wiring.config.closeOnWriteFailure = false) :
    Spared wiring link next request := by
  have outcomes (ticket : Ticket) (other : ticket ≠ request.ticket) :
      next.exchanges.poll ticket = link.exchanges.poll ticket := by
    rcases failed.poll_of_ne consistent working other with same | ⟨falls, -⟩
    · exact same
    · rw [stays] at falls
      cases falls
  cases failed with
  | falls falls =>
    rw [stays] at falls
    cases falls
  | stays =>
    refine
      { phase := active
        table := erase_of_working consistent working
        outcomes := outcomes
        verdicts := fun {number request' handed timer} member other => ?_
        stats := rfl
        goesOn := fun {head rest} queued => ?_ }
    · cases handed with
      | false => rfl
      | true => rw [verdict?_handed, verdict?_handed, outcomes _ other]
    · have unasked := consistent.sound.phased.synced.unasked_iff.2 active
      simp [act?, writerStep?, unasked, queued]

theorem FailedWrite.fallen (consistent' : next.Consistent wiring)
    (zero : link.stats.drained = 0) (falls : wiring.config.closeOnWriteFailure = true) :
    Fallen wiring link next request error := by
  obtain ⟨phase, calls, queue, idle, reason, stats, closes⟩ :
      next.phase = .draining ∧ next.calls = link.calls ∧ next.queue = link.queue ∧
      next.writer = .idle ∧
      .draining (.writeFailure (.writeFailed request.key error)) ∈ next.history ∧
      next.stats =
        { link.stats with
          writeFailures := link.stats.writeFailures + 1
          drained := (link.table.slots.filter fun slot => slot.2 ≠ request.ticket).length } ∧
      ∀ slot ∈ link.table.slots, slot.2 ≠ request.ticket →
        next.exchanges.poll slot.2 = some (.error .closed) := by
    cases failed with
    | stays stays =>
      rw [falls] at stays
      cases stays
    | falls =>
      refine ⟨rfl, rfl, rfl, rfl, List.mem_append_right _ List.mem_cons_self, ?_, ?_⟩
      · dsimp only
        rw [zero, Nat.zero_add, erase_of_working consistent working]
      · intro slot filed other
        dsimp only
        rw [Exchanges.poll_closeAll, if_pos]
        exact List.mem_map_of_mem ((mem_erase_of_working consistent working).2 ⟨filed, other⟩)
  have inactive : next.phase ≠ .active := by simp [phase]
  refine
    { phase, reason, stats
      registered := closes
      closes := fun {number request' handed timer} member other undecided elsewhere => ?_
      queued := ?_ }
  · refine destined_of_verdict consistent' (calls ▸ member) ?_
    cases handed with
    | false => exact verdict?_line_eq_some_iff.2 ⟨.inl inactive, rfl⟩
    | true =>
      have unseen := poll_of_undecided consistent.sound.owned member undecided
      rcases filed_or_queued consistent member unseen with filed | queued
      · obtain ⟨slot, filed, same⟩ := List.mem_map.1 filed
        rw [verdict?_handed, ← same, closes slot filed (same ▸ other)]
        rfl
      · exact absurd queued (elsewhere rfl)
  · obtain ⟨turned, moved, empty, shut, away⟩ := turned_away consistent' inactive idle
    exact ⟨turned, moved, empty, shut, fun {number request' handed timer} member _ _ inside =>
      away (calls ▸ member) (queue ▸ inside)⟩

/-- The call whose frame could not be written returns that, unless it has its reply. -/
theorem FailedWrite.told (active : link.phase = .active) (consistent' : next.Consistent wiring)
    (member : ⟨number, .send request handed timer⟩ ∈ link.calls) :
    Destined wiring next number request.ticket (.failed (.writeFailed request.key error)) ∨
      ∃ message, link.exchanges.poll request.ticket = some (.ok message) ∧
        Destined wiring next number request.ticket (.replied message) := by
  obtain rfl := handed_of_working consistent working member
  have live := (consistent.sound.owned.waiting member rfl).1
  have member' : ⟨number, .send request true timer⟩ ∈ next.calls := by
    cases failed <;> exact member
  have bound {outcome : Except LinkError M}
      (seen : next.exchanges.poll request.ticket = some outcome) :
      Destined wiring next number request.ticket (.ofOutcome outcome) :=
    destined_of_verdict consistent' member' (by rw [verdict?_handed, seen]; rfl)
  rcases failed.poll_own consistent working active live with seen | ⟨message, before, seen⟩
  · exact .inl (bound seen)
  · exact .inr ⟨message, before, bound seen⟩

end Failure

/-- In every run in which the frame of a request cannot be written or flushed, that is the failure
of this request alone. -/
theorem scoped_of_attempt (run : follow? wiring fresh acts = some link)
    (ended : link.attempt? act = some ⟨request, some error⟩) :
    ∃ next, act? wiring link act = some next ∧ Scoped wiring acts act link next request error := by
  have consistent := consistent_of_run run
  obtain ⟨-, unasked, working, moved⟩ := act?_of_attempt wiring ended
  have active := consistent.sound.phased.synced.unasked_iff.1 unasked
  have failed := failWriting_fails wiring active request error
  change act? wiring link act = some (failWriting wiring link request error) at moved
  generalize failWriting wiring link request error = next at moved failed
  have consistent' := consistent.after moved
  obtain ⟨idle, calls, queue, transport, reader, rest⟩ :
      next.writer = .idle ∧
      (next.calls = link.calls ∧ next.made = link.made ∧ next.handle = link.handle) ∧
      (next.queue = link.queue ∧ next.queueOpen = link.queueOpen) ∧
      next.transport = link.transport ∧ next.reader = link.reader ∧
      next.stan = link.stan ∧ next.clock = link.clock ∧ next.unmatched = link.unmatched ∧
      next.receiver = link.receiver := by
    cases failed <;> exact ⟨rfl, ⟨rfl, rfl, rfl⟩, ⟨rfl, rfl⟩, rfl, rfl, rfl, rfl, rfl, rfl⟩
  refine ⟨next, moved,
    { active, calls, queue, transport, reader, rest
      writer := ⟨working, idle⟩
      callers := ?_
      gone := ?_
      told := fun member => failed.told consistent working active consistent' member
      alone := ?_
      traced := fun later => ?_
      stays := failed.spared consistent working active
      falls := failed.fallen consistent working consistent' (drained_eq_zero run active) }⟩
  · intro ticket
    cases failed <;> simp
  · intro key filed
    cases failed with
    | stays => exact ((mem_erase_of_working consistent working).1 filed).2 rfl
    | falls => cases filed
  · intro ticket other
    rcases failed.poll_of_ne consistent working other with same | ⟨-, filed, closed⟩
    · exact .inl same
    · exact .inr ⟨consistent.sound.owned.poll_of_slot filed, closed⟩
  · exact traced_of_run (follow?_append.2 ⟨link, run, follow?_cons.2 ⟨next, moved, later⟩⟩)

/-! ## One broken pipe under both settings -/

section Broken

open Rehearsal

/-- The settings under which a failed write does not end the link. -/
def lenient (wiring : Wiring M) : Wiring M :=
  { wiring with config := { wiring.config with closeOnWriteFailure := false } }

/-- One request waits for its reply and one is being written when the transport breaks; one is in
the queue, and its deadline has come, and one is in line. -/
def brokenRun : List (Act Scripted) :=
  [.play (.send (scriptedMessage "000001") none), .turn 0 true, .write, .write, .write, .write,
    .play (.transport { write := some (some 5, .fault (.plain .brokenPipe)) }),
    .play (.send (scriptedMessage "000002") none), .turn 1 true, .write, .write,
    .play (.send (scriptedMessage "000003") (some 50)), .turn 2 true,
    .play (.send (scriptedMessage "000004") none), .play (.advance 50)]

/-- The link after that run. -/
def brokenLink (wiring : Wiring Scripted) : Link Scripted :=
  (follow? wiring fresh brokenRun).getD fresh

/-- The request whose frame cannot be written. -/
def brokenRequest : Request :=
  ⟨1, "000002", scriptedFrame 50⟩

theorem brokenLink_eq : ∀ wiring ∈ [scriptedWiring, lenient scriptedWiring],
    (follow? wiring fresh brokenRun).isSome = true ∧
      (brokenLink wiring).attempt? .write =
        some ⟨brokenRequest, some (.plain .brokenPipe)⟩ ∧
      (brokenLink wiring).table.slots = [("000002", 1), ("000001", 0)] ∧
      (brokenLink wiring).queue = [⟨2, "000003", scriptedFrame 51⟩] ∧
      (⟨2, .send ⟨2, "000003", scriptedFrame 51⟩ true (some ⟨50, 50⟩)⟩ ∈ (brokenLink wiring).calls ∧
        (brokenLink wiring).exchanges.poll 2 = none) ∧
      ⟨3, .send ⟨3, "000004", scriptedFrame 52⟩ false none⟩ ∈ (brokenLink wiring).calls ∧
      (brokenLink wiring).queueOpen = true := by
  decide +kernel

theorem scoped_of_attempt_broken :
    ∃ stricter turned laxer,
      act? scriptedWiring (brokenLink scriptedWiring) .write = some stricter ∧
      act? scriptedWiring stricter .write = some turned ∧
      act? (lenient scriptedWiring) (brokenLink (lenient scriptedWiring)) .write = some laxer ∧
      Scoped scriptedWiring brokenRun .write (brokenLink scriptedWiring) stricter brokenRequest
        (.plain .brokenPipe) ∧
      Scoped (lenient scriptedWiring) brokenRun .write (brokenLink (lenient scriptedWiring)) laxer
        brokenRequest (.plain .brokenPipe) ∧
      stricter.stats.drained = 1 ∧
      Destined scriptedWiring stricter 3 3 (.failed .closed) ∧
      Destined scriptedWiring turned 2 2 (.failed .closed) ∧
      laxer.phase = .active ∧ laxer.table.slots = [("000001", 0)] := by
  obtain ⟨runs, ended, slots, queue, waits, member, opened⟩ :=
    brokenLink_eq scriptedWiring (by simp)
  obtain ⟨runs', ended', slots', -, -, -, -⟩ := brokenLink_eq (lenient scriptedWiring) (by simp)
  have run : follow? scriptedWiring fresh brokenRun = some (brokenLink scriptedWiring) :=
    (Option.getD_of_ne_none (Option.isSome_iff_ne_none.1 runs) fresh).symm
  have run' : follow? (lenient scriptedWiring) fresh brokenRun =
      some (brokenLink (lenient scriptedWiring)) :=
    (Option.getD_of_ne_none (Option.isSome_iff_ne_none.1 runs') fresh).symm
  obtain ⟨stricter, moved, strict⟩ := scoped_of_attempt run ended
  obtain ⟨laxer, moved', lax⟩ := scoped_of_attempt run' ended'
  have fallen := strict.falls rfl
  have spared := lax.stays rfl
  obtain ⟨turned, away, -, -, turnedAway⟩ := fallen.queued
  refine ⟨stricter, turned, laxer, moved, away, moved', strict, lax, ?_, ?_, ?_, spared.phase, ?_⟩
  · simp [fallen.stats, slots, brokenRequest]
  · refine fallen.closes member (by decide) ?_ (fun handed => nomatch handed)
    exact verdict?_line_eq_none_iff.2 ⟨strict.active, opened⟩
  -- the deadline of the request in the queue has passed
  · refine turnedAway waits.1 (by decide) ?_ (queue ▸ List.mem_cons_self)
    rw [verdict?_handed, waits.2]
    rfl
  · simp [spared.table, slots', brokenRequest]

end Broken

end Multiplex.Link
