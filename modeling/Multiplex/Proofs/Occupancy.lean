import Multiplex.Proofs.Displacement
import Multiplex.Proofs.Settled

/-!
# What is in the table

A settled link holds one entry for every call that sends, whose request has been registered, and
that has not returned. Apart from these it holds only entries whose calls were cancelled while the
entries were there. A call that returns, as one that runs out of time does, leaves no entry behind,
wherever its request was at that moment; and unless the writer is stuck in the transport, every call
that has not returned has its entry in the table.

Main statement: `occupied_of_run`.
-/

namespace Multiplex

variable {M : Type}

/-- By this event the request of a ticket was registered. -/
def Event.registers (ticket : Ticket) : Event M → Bool
  | .registered other _ => other = ticket
  | _ => false

namespace Link

/-- The key and the ticket of the request of a call, if that request has been registered. -/
def place? (link : Link M) (call : Call) : Option (String × Ticket) :=
  match call.task with
  | .send request _ _ =>
    if link.history.any (Event.registers request.ticket) then some (request.key, request.ticket)
    else none
  | .close | .watch => none

/-- The keys and tickets of the calls that have not returned and whose requests have been
registered. -/
def registrants (link : Link M) : List (String × Ticket) :=
  link.calls.filterMap link.place?

/-- In the course of a run the call of a ticket was cancelled while the ticket's entry was in the
table, under a key. -/
inductive Deserted (wiring : Wiring M) (acts : List (Act M)) (key : String) (ticket : Ticket) :
    Prop
  | intro {earlier later : List (Act M)} {mid : Link M} {call : Call}
      (split : acts = earlier ++ .play (.abort call.number) :: later)
      (run : follow? wiring fresh earlier = some mid) (member : call ∈ mid.calls)
      (own : call.ticket? = some ticket) (found : mid.table.find? key = some ticket)

/-- What is in the table of a settled link to which a run has led. -/
structure Occupied (wiring : Wiring M) (acts : List (Act M)) (link : Link M) : Prop where
  uniqueKeys : link.table.UniqueKeys
  /-- There is one entry for every call whose request has been registered; apart from these there
  are only those of calls that were cancelled. -/
  entries : ∃ left, link.table.slots.Perm (link.registrants ++ left) ∧
    ∀ slot ∈ left, Deserted wiring acts slot.1 slot.2
  /-- A call that has returned, because it ran out of time or for any other reason, has no entry in
  the table, nor will it have one. -/
  returned : ∀ number ticket result, .returned number (some ticket) result ∈ link.history →
    ∀ later final, follow? wiring link later = some final →
      ticket ∉ final.table.slots.map Prod.snd
  /-- If the writer waits for requests, then all of them have been registered. -/
  attended : link.phase = .active → link.writer.isEnded = false → link.writer.request? = none →
    link.queue = [] ∧ (∀ call ∈ link.calls, call.inLine = false) ∧
      ((∀ key ticket, ¬Deserted wiring acts key ticket) → link.pending = link.callers.length)

variable {wiring : Wiring M} {act : Act M} {acts later : List (Act M)}
  {link mid next final : Link M}
  {call : Call} {request : Request} {handed : Bool} {timer : Option Timer} {key : String}
  {ticket : Ticket} {slot : String × Ticket}

/-! ## What a turn leaves in the table -/

theorem drain_slots (link : Link M) {reason : DrainReason}
    (member : slot ∈ (link.drain reason).table.slots) : slot ∈ link.table.slots := by
  by_cases active : link.phase = .active
  · obtain ⟨told, remarks, -, eq⟩ := drain_of_active active reason
    rw [eq] at member
    cases member
  · rwa [drain_of_not_active active] at member

theorem finish_slots {result : Result M}
    (member : slot ∈ (link.finish call result).table.slots) : slot ∈ link.table.slots := by
  unfold finish release at member
  dsimp only at member
  split at member
  · split at member
    · exact drain_slots ((link.removeCall call).note _) member
    · exact drain_slots ((link.removeCall call).note _) member
  · exact member

/-- Whoever runs out of time leaves no abandoned entry under its key. -/
theorem live_of_expire (unique : link.table.UniqueKeys) {deadline : Timer}
    (member : (request.key, ticket) ∈ (link.expire request handed deadline).1.table.slots) :
    (link.exchanges.quit request.ticket handed).isAbandoned ticket = false := by
  obtain ⟨told, remarks, -, ⟨holder, found, gone, eq⟩ | ⟨live, eq⟩⟩ :=
    expire_eq link request handed deadline
  · rw [eq] at member
    exact absurd rfl (Table.mem_erase.1 member).2
  · rw [eq] at member
    exact live ticket ((Table.find?_eq_some_iff unique).2 member)

theorem slots_of_expire {deadline : Timer}
    (member : slot ∈ (link.expire request handed deadline).1.table.slots) :
    slot ∈ link.table.slots := by
  obtain ⟨told, remarks, -, ⟨holder, found, gone, eq⟩ | ⟨live, eq⟩⟩ :=
    expire_eq link request handed deadline
  · rw [eq] at member
    exact (Table.mem_erase.1 member).1
  · rwa [eq] at member

/-- An entry is filed by the writer, and its caller waits then. -/
theorem filed_of_act (consistent : link.Consistent wiring)
    (moved : act? wiring link act = some next) (filed : slot ∈ next.table.slots) :
    slot ∈ link.table.slots ∨
      (act = .write ∧ next.exchanges.isAbandoned slot.2 = false) := by
  refine consistent.keeps
    (motive := fun mid => ∀ slot ∈ mid.table.slots, slot ∈ link.table.slots ∨
      (act = .write ∧ mid.exchanges.isAbandoned slot.2 = false))
    ?_ moved (fun slot member => .inl member) slot filed
  intro mid next change consistent earlier slot member
  -- what the writer has filed stays live for the rest of its step
  have stays (before : slot ∈ mid.table.slots) : slot ∈ link.table.slots ∨
      (act = .write ∧ next.exchanges.isAbandoned slot.2 = false) := by
    rcases earlier slot before with there | ⟨rfl, live⟩
    · exact .inl there
    · refine .inr ⟨rfl, ?_⟩
      rw [← Bool.not_eq_true]
      intro gone
      obtain ⟨_, _, _, _, -, -, -, asked | ⟨first, _, asked, -⟩⟩ := left_of_change change live gone
      · cases asked
      · cases asked
  cases change with
  | drain active => cases member
  | register active idle first free live asked =>
    rcases List.mem_cons.1 member with new | kept
    · subst new
      exact .inr ⟨asked, (Exchanges.isAbandoned_vacate _ _ _ _).trans live⟩
    · exact stays (Table.mem_erase.1 kept).1
  | skip | withdraw | claimed | late | fail | interrupt =>
    exact stays (Table.mem_erase.1 member).1
  | _ => exact stays member

/-- After the turn of a call that was in line, or that ran out of time, its entry is not in the
table; and no other turn ends the wait for an entry that is there. -/
theorem not_filed_of_turn (consistent : link.Consistent wiring) (member : call ∈ link.calls)
    (task : call.task = .send request handed timer) {first : Bool}
    (moved : act? wiring link (.turn call.number first) = some next) :
    request.ticket ∉ next.table.slots.map Prod.snd := by
  have owned := consistent.sound.owned
  intro inside
  obtain ⟨⟨key, ticket⟩, filed, rfl⟩ := List.mem_map.1 inside
  have before : (key, request.ticket) ∈ link.table.slots := by
    rcases filed_of_act consistent moved filed with before | ⟨asked, -⟩
    · exact before
    · cases asked
  cases handed with
  | false =>
    have line := mem_line_iff.2 ⟨call, member, request, timer, task, rfl⟩
    exact owned.not_filed (List.mem_append_right _ line) (List.mem_map_of_mem before)
  | true =>
    have unseen := owned.poll_of_slot (List.mem_map_of_mem before)
    obtain ⟨other, found, turned⟩ := Option.bind_eq_some_iff.1 moved
    rw [owned.find?_call member] at found
    cases found
    obtain ⟨after, turn, rfl⟩ := turnOf?_eq_some turned
    unfold turn? at turn
    simp only [task, unseen] at turn
    -- it can only have run out of time, and then it has taken along what is under its key
    obtain ⟨deadline, -, -, rfl⟩ := expireIfDue_eq_some turn
    have left := finish_slots filed
    obtain ⟨message, known⟩ := consistent.recorded.carried (.call member task)
    have same := consistent.key_of_slot (slots_of_expire left) known
    subst same
    have live := live_of_expire owned.uniqueKeys left
    rw [Exchanges.isAbandoned_quit, if_pos rfl] at live
    cases live

/-! ## Entries that nobody waits for -/

/-- An act makes an entry in the table an abandoned one only by cancelling its call. -/
theorem deserted_of_act (consistent : link.Consistent wiring)
    (moved : act? wiring link act = some next) (filed : (key, ticket) ∈ next.table.slots)
    (gone : next.exchanges.isAbandoned ticket = true) :
    (key, ticket) ∈ link.table.slots ∧ (link.exchanges.isAbandoned ticket = true ∨
      ∃ call ∈ link.calls, act = .play (.abort call.number) ∧ call.ticket? = some ticket) := by
  rcases filed_of_act consistent moved filed with before | ⟨-, live⟩
  · refine ⟨before, ?_⟩
    cases live : link.exchanges.isAbandoned ticket with
    | true => exact .inl rfl
    | false =>
      have found := (Table.find?_eq_some_iff consistent.sound.owned.uniqueKeys).2 before
      cases entryAfter_of_act consistent moved found live with
      | untouched found unseen live =>
        rw [gone] at live
        cases live
      | resolved unreleased resolved =>
        have live := resolved.live
        rw [gone] at live
        cases live
      | expired asked own =>
        obtain ⟨call, member, rfl, own⟩ := own
        obtain ⟨request, handed, timer, task, rfl⟩ := task_of_ticket? own
        subst asked
        exact absurd (List.mem_map_of_mem filed) (not_filed_of_turn consistent member task moved)
      | cancelled asked own =>
        obtain ⟨call, member, rfl, own⟩ := own
        exact .inr ⟨call, member, asked, own⟩
  · rw [gone] at live
    cases live

/-- The call of every abandoned entry in the table was cancelled. -/
theorem deserted_of_run (run : follow? wiring fresh acts = some link)
    (filed : (key, ticket) ∈ link.table.slots)
    (gone : link.exchanges.isAbandoned ticket = true) : Deserted wiring acts key ticket := by
  obtain ⟨earlier, act, later, mid, next, rfl, run', moved, -, before, after⟩ :=
    exists_act_of_follow
      (motive := fun link =>
        (key, ticket) ∈ link.table.slots ∧ link.exchanges.isAbandoned ticket = true)
      run (fun start => nomatch start.1) ⟨filed, gone⟩
  have consistent := consistent_of_run run'
  obtain ⟨there, gone | ⟨call, member, rfl, own⟩⟩ :=
    deserted_of_act consistent moved after.1 after.2
  · exact absurd ⟨there, gone⟩ before
  · exact .intro rfl run' member own
      ((Table.find?_eq_some_iff consistent.sound.owned.uniqueKeys).2 there)

/-! ## Calls that have returned -/

/-- A call returns in its own turn, and until then it waits. -/
theorem returned_of_act (consistent : link.Consistent wiring)
    (moved : act? wiring link act = some next) (inside : ticket < link.exchanges.length)
    {number : Nat} {result : Result M}
    (returned : .returned number (some ticket) result ∈ next.history) :
    .returned number (some ticket) result ∈ link.history ∨
      ((∃ first, act = .turn number first) ∧ link.exchanges.isAbandoned ticket = false) := by
  refine (consistent.keeps
    (motive := fun mid => link.Grows mid ∧ (.returned number (some ticket) result ∈ mid.history →
      .returned number (some ticket) result ∈ link.history ∨
        ((∃ first, act = .turn number first) ∧ link.exchanges.isAbandoned ticket = false)))
    ?_ moved ⟨.refl link, .inl⟩).2 returned
  intro mid next change consistent ⟨grows, earlier⟩
  refine ⟨grows.trans (.of_change change consistent.sound.owned), fun member => ?_⟩
  cases change with
  | aside only => exact earlier (only.mem_of_append rfl member)
  | finish asked there task returns =>
    rcases List.mem_cons.1 member with new | old
    · cases new
      refine .inr ⟨⟨_, asked⟩, ?_⟩
      rw [← Bool.not_eq_true]
      intro gone
      have live := (consistent.sound.owned.waiting there task).1
      rw [grows.exchanges.abandoned _ inside gone] at live
      cases live
    · exact earlier old
  | _ => exact earlier (by simpa using member)

/-- No call that has returned has an entry in the table. -/
theorem not_filed_of_returned (run : follow? wiring fresh acts = some link) {number : Nat}
    {result : Result M} (returned : .returned number (some ticket) result ∈ link.history) :
    ticket ∉ link.table.slots.map Prod.snd := by
  refine (follow?_invariant
    (motive := fun link => link.Consistent wiring ∧ ∀ number ticket result,
      .returned number (some ticket) result ∈ link.history →
        ticket ∉ link.table.slots.map Prod.snd)
    ?_ run ⟨consistent_fresh, fun _ _ _ _ filed => nomatch filed⟩).2 _ _ _ returned
  intro link next act moved ⟨consistent, before⟩
  refine ⟨consistent.after moved, ?_⟩
  intro number ticket result returned inside
  obtain ⟨⟨key, ticket⟩, filed, rfl⟩ := List.mem_map.1 inside
  have gone := ((consistent.after moved).accounted.gone returned).2
  obtain ⟨there, why⟩ := deserted_of_act consistent moved filed gone
  have placed := List.mem_map_of_mem (f := Prod.snd) there
  have below := Exchanges.lt_length_of_poll (consistent.sound.owned.poll_of_slot placed)
  rcases returned_of_act consistent moved below returned with old | ⟨⟨first, rfl⟩, live⟩
  · exact before _ _ _ old placed
  · rcases why with gone | ⟨call, member, asked, own⟩
    · rw [gone] at live
      cases live
    · cases asked

/-! ## Calls that have not returned -/

theorem Consistent.registers_iff (consistent : link.Consistent wiring) {message : M}
    (known : .prepared message request ∈ link.history) :
    link.history.any (Event.registers request.ticket) = true ↔
      .registered request.ticket request.key ∈ link.history := by
  constructor
  · intro some
    obtain ⟨event, member, registers⟩ := List.any_eq_true.1 some
    unfold Event.registers at registers
    split at registers
    · next other key =>
      obtain rfl : other = request.ticket := of_decide_eq_true registers
      obtain ⟨message', request', known', ticket, key⟩ := consistent.recorded.registered member
      rwa [← (consistent.recorded.unique known' known ticket).2, key, ticket]
    · cases registers
  · intro member
    exact List.any_eq_true.2 ⟨_, member, by simp [Event.registers]⟩

/-- Every call whose request has been registered is there with the key and the ticket of that
request. -/
theorem Consistent.mem_registrants (consistent : link.Consistent wiring) :
    (key, ticket) ∈ link.registrants ↔
      ∃ call ∈ link.calls, ∃ request handed timer, call.task = .send request handed timer ∧
        request.key = key ∧ request.ticket = ticket ∧
        .registered ticket key ∈ link.history := by
  rw [registrants, List.mem_filterMap]
  refine exists_congr fun call => and_congr_right fun member => ?_
  unfold place?
  cases task : call.task with
  | send request handed timer =>
    obtain ⟨message, known⟩ := consistent.recorded.carried (.call member task)
    have same := consistent.registers_iff known
    dsimp only
    constructor
    · intro place
      split at place
      · next registered =>
        cases place
        exact ⟨request, handed, timer, rfl, rfl, rfl, same.1 registered⟩
      · cases place
    · rintro ⟨request', _, _, task', rfl, rfl, registered⟩
      cases task'
      rw [if_pos (same.2 registered)]
  | close | watch => simp

theorem ticket?_of_place? {link : Link M} (place : link.place? call = some (key, ticket)) :
    call.ticket? = some ticket := by
  unfold place? at place
  split at place
  · next request handed timer task =>
    split at place
    · cases place
      rw [Call.ticket?, task]
    · cases place
  · cases place
  · cases place

theorem registrants_nodup (owned : link.Owned) : link.registrants.Nodup := by
  have callers : link.callers.Nodup := owned.awaited.nodup
  unfold List.Nodup registrants Link.callers at *
  rw [List.pairwise_filterMap] at *
  refine callers.imp fun differ => ?_
  rintro ⟨key, ticket⟩ place ⟨key', ticket'⟩ place' same
  cases same
  exact differ ticket (ticket?_of_place? place) ticket (ticket?_of_place? place') rfl

/-- In a settled link the entries whose callers wait are those of the calls whose requests have been
registered. -/
theorem Settled.live_perm (settled : Settled wiring link) (consistent : link.Consistent wiring) :
    (link.table.slots.filter fun slot => !link.isAbandoned slot.2).Perm link.registrants := by
  have owned := consistent.sound.owned
  have once : link.table.slots.Nodup := owned.uniqueKeys.of_map
  refine (List.perm_ext_iff_of_nodup (once.filter _) (registrants_nodup owned)).2 ?_
  rintro ⟨key, ticket⟩
  rw [consistent.mem_registrants, List.mem_filter]
  constructor
  · rintro ⟨filed, live⟩
    have live : link.isAbandoned ticket = false := by simpa using live
    obtain ⟨number, request, handed, timer, member, rfl⟩ := owned.caller_of_live live
    obtain ⟨message, known⟩ := consistent.recorded.carried (.call member rfl)
    exact ⟨_, member, request, handed, timer, rfl, consistent.key_of_slot filed known, rfl,
      consistent.registered_of_slot filed⟩
  · rintro ⟨call, member, request, handed, timer, task, rfl, rfl, registered⟩
    have live : link.isAbandoned request.ticket = false := (owned.waiting member task).1
    refine ⟨?_, by simpa using live⟩
    -- it has no outcome, so its entry is held somewhere, and the writer has taken it
    obtain ⟨unseen, -, -⟩ := settled.send_waits owned member task
    rcases List.mem_append.1 (owned.held.mem_iff.2 unseen) with placed | unfiled
    · obtain ⟨⟨key, ticket⟩, filed, rfl⟩ := List.mem_map.1 placed
      obtain ⟨message, known⟩ := consistent.recorded.carried (.call member task)
      rwa [consistent.key_of_slot filed known]
    · exact absurd registered (consistent.recorded.unregistered unfiled)

/-- If the writer of a settled link waits for requests, then none is in the queue or in line. -/
theorem Settled.nobody_unfiled (settled : Settled wiring link) (sound : link.Sound)
    (active : link.phase = .active) (idle : link.writer = .idle) :
    link.queue = [] ∧ ∀ call ∈ link.calls, call.inLine = false := by
  have empty : link.queue = [] := by
    have stuck : writerStep? wiring link = none := settled .write rfl
    unfold writerStep? at stuck
    simp only [idle, sound.phased.synced.unasked_iff.2 active, Bool.false_eq_true, if_false]
      at stuck
    split at stuck
    · assumption
    · cases stuck
  refine ⟨empty, ?_⟩
  intro call member
  cases task : call.task with
  | send request handed timer =>
    cases handed with
    | true => rw [Call.inLine, task]; rfl
    | false =>
      -- whoever is in line waits because the queue is full
      obtain ⟨-, -, full⟩ := settled.send_waits sound.owned member task
      obtain ⟨-, full⟩ := full rfl
      rw [empty, List.length_nil] at full
      omega
  | close | watch => rw [Call.inLine, task]

/-- If moreover nobody has abandoned an entry, the entries are those of all calls that send. -/
theorem Settled.pending_eq (settled : Settled wiring link) (owned : link.Owned)
    (empty : link.queue = []) (nobody : ∀ call ∈ link.calls, call.inLine = false)
    (live : ∀ slot ∈ link.table.slots, link.exchanges.isAbandoned slot.2 = false) :
    link.pending = link.callers.length := by
  have line : link.calls.filterMap Call.lineTicket? = [] := by
    rw [List.eq_nil_iff_forall_not_mem]
    intro ticket waits
    obtain ⟨call, member, request, timer, task, rfl⟩ := mem_line_iff.1 waits
    have inLine := nobody call member
    rw [Call.inLine, task] at inLine
    cases inLine
  have held : link.exchanges.Held (link.table.slots.map Prod.snd) := by
    have held := owned.held
    rwa [holders, empty, line, List.map_nil, List.append_nil, List.append_nil] at held
  have same : (link.table.slots.map Prod.snd).Perm link.callers := by
    refine (List.perm_ext_iff_of_nodup held.nodup owned.awaited.nodup).2 fun ticket => ?_
    rw [owned.awaited.mem_iff]
    constructor
    · intro filed
      obtain ⟨slot, member, rfl⟩ := List.mem_map.1 filed
      exact live slot member
    · intro waits
      obtain ⟨number, request, handed, timer, member, rfl⟩ := owned.caller_of_live waits
      exact held.mem_iff.2 (settled.send_waits owned member rfl).1
  rw [pending, Table.size, ← same.length_eq, List.length_map]

theorem idle_of_unoccupied (phased : link.Phased) (active : link.phase = .active)
    (runs : link.writer.isEnded = false) (free : link.writer.request? = none) :
    link.writer = .idle := by
  cases writer : link.writer with
  | idle => rfl
  | writing request rest =>
    rw [writer] at free
    cases free
  | flushing request =>
    rw [writer] at free
    cases free
  | closing =>
    refine absurd active (phased.inactive_of_closing ?_ ?_) <;> rw [writer] <;> rfl
  | ended how =>
    rw [writer] at runs
    cases runs

/-- What is in the table of a settled link, and what is not in it, after any run. -/
theorem occupied_of_run (run : follow? wiring fresh acts = some link)
    (settled : Settled wiring link) : Occupied wiring acts link := by
  have consistent := consistent_of_run run
  have owned := consistent.sound.owned
  have abandoned (slot : String × Ticket)
      (member : slot ∈ link.table.slots.filter fun slot => link.isAbandoned slot.2) :
      Deserted wiring acts slot.1 slot.2 := by
    obtain ⟨filed, gone⟩ := List.mem_filter.1 member
    exact deserted_of_run run filed gone
  refine ⟨owned.uniqueKeys, ⟨_, ?_, abandoned⟩, ?_, ?_⟩
  · have split := List.filter_append_perm (fun slot => link.isAbandoned slot.2) link.table.slots
    exact split.symm.trans (List.perm_append_comm.trans
      ((settled.live_perm consistent).append_right _))
  · intro number ticket result returned later final onward
    have all : follow? wiring fresh (acts ++ later) = some final :=
      follow?_append.2 ⟨link, run, onward⟩
    have grows := Grows.of_follow consistent.sound onward
    exact not_filed_of_returned all (grows.mem_history returned)
  · intro active runs free
    have idle := idle_of_unoccupied consistent.sound.phased active runs free
    obtain ⟨empty, nobody⟩ := settled.nobody_unfiled consistent.sound active idle
    refine ⟨empty, nobody, fun none => settled.pending_eq owned empty nobody ?_⟩
    intro slot member
    rw [← Bool.not_eq_true]
    exact fun gone => none _ _ (deserted_of_run run member gone)

/-! ## A call that runs out of time, and one that is cancelled -/

section Parted

open Rehearsal

/-- Three requests are sent and written. The second call runs out of time and the third is
cancelled. -/
def partedRun : List (Act Scripted) :=
  [.play (.send (scriptedMessage "000001") none), .turn 0 true, .write, .write, .write, .write,
    .play (.send (scriptedMessage "000002") (some 10)), .turn 1 true, .write, .write, .write,
    .write, .play (.send (scriptedMessage "000003") none), .turn 2 true, .write, .write, .write,
    .write, .play (.advance 10), .turn 1 false, .play (.abort 2)]

/-- The link after that run. -/
def partedLink : Link Scripted :=
  scriptedLink partedRun

theorem partedLink_eq : partedLink.registrants = [("000001", 0)] ∧
    partedLink.table.slots = [("000003", 2), ("000001", 0)] := by
  decide +kernel

theorem occupied_of_run_parted :
    follow? scriptedWiring fresh partedRun = some partedLink ∧
      Settled scriptedWiring partedLink ∧ Occupied scriptedWiring partedRun partedLink ∧
      partedLink.registrants = [("000001", 0)] ∧
      partedLink.table.slots = [("000003", 2), ("000001", 0)] ∧
      Deserted scriptedWiring partedRun "000003" 2 := by
  have run : follow? scriptedWiring fresh partedRun = some partedLink :=
    follow?_scripted (by decide +kernel)
  have settled : Settled scriptedWiring partedLink := by decide +kernel
  have occupied := occupied_of_run run settled
  obtain ⟨registrants, slots⟩ := partedLink_eq
  refine ⟨run, settled, occupied, registrants, slots, ?_⟩
  -- the entry that is left over is the one of the call that was cancelled
  obtain ⟨left, same, deserted⟩ := occupied.entries
  rw [registrants, slots] at same
  have placed := same.subset List.mem_cons_self
  rcases List.mem_append.1 placed with first | rest
  · simp at first
  · exact deserted _ rest

end Parted

end Link

end Multiplex
