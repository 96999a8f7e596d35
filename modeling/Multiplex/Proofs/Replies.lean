import Multiplex.Proofs.Dispatch
import Multiplex.Proofs.Settled
import Multiplex.Proofs.Stream

/-!
# What becomes of the frames that are read

Every frame that is read completely is counted with its bytes. Its message is counted too, as handed
over or as unmatched; if there is none, because the codec refuses the payload or crashes on it, then
the frame is the last one (`tallied_of_run`). Whoever is handed a message returns it, unless its
call is cancelled before it has run (`replies_length`).
-/

namespace Multiplex

variable {M : Type}

/-- The codec reads no message from this payload: it refuses it, or crashes. -/
def Wiring.spoils (wiring : Wiring M) (payload : Bytes) : Bool :=
  match wiring.codec.unpack payload with
  | .message _ => false
  | .refused _ | .crashed _ => true

/-- The ticket whose caller was handed a message by this event. -/
def Event.delivered? : Event M → Option Ticket
  | .delivered ticket _ => some ticket
  | _ => none

/-- The number and the ticket of the call that returned a message by this event. -/
def Event.reply? : Event M → Option (Nat × Option Ticket)
  | .returned number ticket? (.replied _) => some (number, ticket?)
  | _ => none

/-- The tickets whose callers have been handed messages. -/
def deliveries (history : List (Event M)) : List Ticket :=
  history.filterMap Event.delivered?

/-- The calls that have returned messages, with their tickets. -/
def replies (history : List (Event M)) : List (Nat × Option Ticket) :=
  history.filterMap Event.reply?

/-- The event neither hands a message to a caller nor is its return. -/
theorem Remarks.undelivered {remarks : List (Event M)} (only : Remarks remarks) :
    deliveries remarks = [] ∧ replies remarks = [] := by
  constructor <;> refine List.filterMap_eq_nil_iff.2 fun event member => ?_ <;>
    have remark := only event member <;> cases event <;> first | rfl | cases remark

theorem mem_deliveries {history : List (Event M)} {ticket : Ticket} :
    ticket ∈ deliveries history ↔ ∃ key, .delivered ticket key ∈ history := by
  rw [deliveries, List.mem_filterMap]
  constructor
  · rintro ⟨event, member, given⟩
    unfold Event.delivered? at given
    split at given
    · next ticket key =>
      cases given
      exact ⟨key, member⟩
    · cases given
  · rintro ⟨key, member⟩
    exact ⟨_, member, rfl⟩

theorem mem_replies {history : List (Event M)} {number : Nat} {ticket? : Option Ticket} :
    (number, ticket?) ∈ replies history ↔
      ∃ message, .returned number ticket? (.replied message) ∈ history := by
  rw [replies, List.mem_filterMap]
  constructor
  · rintro ⟨event, member, given⟩
    unfold Event.reply? at given
    split at given
    · next number ticket? message =>
      cases given
      exact ⟨message, member⟩
    · cases given
  · rintro ⟨message, member⟩
    exact ⟨_, member, rfl⟩

namespace Link

variable {wiring : Wiring M} {act : Act M} {acts : List (Act M)} {link next final : Link M}

/-! ## Frames -/

/-- Every frame is counted, and the messages among them. -/
structure Tallied (wiring : Wiring M) (link : Link M) : Prop where
  frames : (readings link.history).length =
    link.stats.repliesMatched + link.stats.unmatched +
      (readings link.history).countP wiring.spoils
  bytes : link.stats.bytesReceived = wiring.volume (readings link.history)

theorem Tallied.of_same (tallied : link.Tallied wiring) (new : List (Event M))
    (none : readings new = []) (history : next.history = new ++ link.history)
    (messages : next.stats.repliesMatched + next.stats.unmatched =
      link.stats.repliesMatched + link.stats.unmatched)
    (bytes : next.stats.bytesReceived = link.stats.bytesReceived) : next.Tallied wiring := by
  have same : readings next.history = readings link.history := by
    rw [history, readings_append, none, List.append_nil]
  constructor
  · rw [same, messages]
    exact tallied.frames
  · rw [same, bytes]
    exact tallied.bytes

theorem Tallied.of_frame (tallied : link.Tallied wiring) (new : List (Event M)) (payload : Bytes)
    (one : readings new = [payload]) (history : next.history = new ++ link.history)
    (messages : next.stats.repliesMatched + next.stats.unmatched +
        (wiring.spoils payload).toNat =
      link.stats.repliesMatched + link.stats.unmatched + 1)
    (bytes : next.stats.bytesReceived =
      link.stats.bytesReceived + wiring.framing.size + payload.length) : next.Tallied wiring := by
  have more : readings next.history = readings link.history ++ [payload] := by
    rw [history, readings_append, one]
  have frames := tallied.frames
  constructor
  · rw [more, List.length_append, List.countP_append, List.countP_singleton, List.length_singleton]
    cases spoils : wiring.spoils payload <;> rw [spoils] at messages <;>
      simp only [Bool.toNat_false, Bool.toNat_true, Bool.false_eq_true, if_false, if_true]
        at messages ⊢ <;> omega
  · rw [more, bytes, tallied.bytes, Wiring.volume, Wiring.volume, List.map_append, List.sum_append,
      List.map_singleton, List.sum_singleton, Nat.add_assoc]

theorem spoils_eq_false {payload : Bytes} {message : M}
    (read : wiring.codec.unpack payload = .message message) : wiring.spoils payload = false := by
  rw [Wiring.spoils, read]

theorem spoils_eq_true {payload : Bytes}
    (unread : ∀ message, wiring.codec.unpack payload ≠ .message message) :
    wiring.spoils payload = true := by
  unfold Wiring.spoils
  split
  · next message read => exact absurd read (unread message)
  · rfl
  · rfl

theorem Tallied.change (change : Change wiring act link next) (tallied : link.Tallied wiring) :
    next.Tallied wiring := by
  cases change with
  | aside only => exact tallied.of_same _ (readings_of_aside _ only.aside).1 rfl rfl rfl
  | undecoded active running unread =>
    refine tallied.of_frame [_] _ rfl rfl ?_ rfl
    rw [spoils_eq_true unread]
    rfl
  | unclaimed active running read | late active running read =>
    refine tallied.of_frame [_] _ rfl rfl ?_ rfl
    rw [spoils_eq_false read]
    exact (Nat.add_assoc _ _ _).symm
  | claimed active running read =>
    refine tallied.of_frame [_, _] _ rfl rfl ?_ rfl
    rw [spoils_eq_false read]
    exact Nat.succ_add _ _
  | skip => exact tallied.of_same [_, _] rfl rfl rfl rfl
  | drain | issue | send | reject | enqueue | finish | conclude | refuse | register | sent | fail =>
    exact tallied.of_same [_] rfl rfl rfl rfl
  | _ => exact ⟨tallied.frames, tallied.bytes⟩

theorem tallied_of_run (run : follow? wiring fresh acts = some link) : link.Tallied wiring :=
  sound_fresh.follow_keeps (fun change _ => Tallied.change change) run ⟨rfl, rfl⟩

/-! ## The last frame -/

/-- Every frame but the last has a message, and so has the last one while the reader runs. -/
structure Legible (wiring : Wiring M) (link : Link M) : Prop where
  running : link.reader.isEnded = false →
    ∀ payload ∈ readings link.history, wiring.spoils payload = false
  before : ∀ payload ∈ (readings link.history).dropLast, wiring.spoils payload = false

/-- The reader does not go on after a frame without a message. -/
theorem isEnded_of_spoils {rest payload : Bytes} (spoils : wiring.spoils payload = true) :
    (dispatch wiring link rest payload).reader.isEnded = true := by
  unfold dispatch
  cases read : wiring.codec.unpack payload with
  | message message =>
    rw [spoils_eq_false read] at spoils
    cases spoils
  | refused fault => rfl
  | crashed text => rfl

theorem reader_ended_of_change (change : Change wiring act link next)
    (ended : link.reader.isEnded = true) : next.reader.isEnded = true := by
  cases change with
  | read running | endReading _ running | crashReading running =>
    rw [running] at ended
    cases ended
  | _ => exact ended

theorem running_of_readStep? (moved : readStep? wiring link = some next) :
    link.reader.isEnded = false := by
  unfold readStep? at moved
  split at moved
  · cases moved
  · next running =>
    rw [running]
    rfl

theorem Legible.after (consistent : link.Consistent wiring)
    (moved : act? wiring link act = some next) (legible : link.Legible wiring) :
    next.Legible wiring := by
  have sound := consistent.sound
  have same (nothing : link.ReadNothing next)
      (goes : next.reader.isEnded = false → link.reader.isEnded = false) :
      next.Legible wiring := by
    constructor
    · intro running
      rw [nothing.readings_eq]
      exact legible.running (goes running)
    · rw [nothing.readings_eq]
      exact legible.before
  by_cases asked : act = .read
  · subst asked
    have running := running_of_readStep? moved
    rcases readStep?_cases sound.phased.synced moved with nothing | ⟨rest, payload, rfl⟩
    · exact same nothing fun _ => running
    · constructor
      · intro goes other member
        rw [readings_of_dispatch, List.mem_append, List.mem_singleton] at member
        rcases member with before | rfl
        · exact legible.running running other before
        · rw [← Bool.not_eq_true]
          intro spoils
          rw [isEnded_of_spoils spoils] at goes
          cases goes
      · rw [readings_of_dispatch, List.dropLast_concat]
        exact legible.running running
  · have chain := act?_changes sound.phased.synced moved
    refine same (readNothing_of_changes chain asked) fun goes => ?_
    rw [← Bool.not_eq_true] at goes ⊢
    exact fun ended => goes (chain.keeps (motive := fun link => link.reader.isEnded = true)
      reader_ended_of_change ended)

theorem legible_of_run (run : follow? wiring fresh acts = some link) : link.Legible wiring :=
  (follow?_invariant (motive := fun link => link.Consistent wiring ∧ link.Legible wiring)
    (fun moved both => ⟨both.1.after moved, both.2.after both.1 moved⟩) run
    ⟨consistent_fresh, fun _ _ => (nomatch ·), fun _ => (nomatch ·)⟩).2

/-- At most one frame has no message, which is the last. -/
theorem Legible.countP_spoils (legible : link.Legible wiring) :
    (readings link.history).countP wiring.spoils =
      ((readings link.history).getLast?.any wiring.spoils).toNat := by
  have before := legible.before
  rcases List.eq_nil_or_concat (readings link.history) with none | ⟨init, last, split⟩
  · rw [none]
    rfl
  · rw [split, List.concat_eq_append] at before ⊢
    rw [List.dropLast_concat] at before
    have zero : init.countP wiring.spoils = 0 :=
      List.countP_eq_zero.2 fun payload member => by simp [before payload member]
    rw [List.countP_append, zero, List.countP_singleton, List.getLast?_concat, Option.any_some,
      Nat.zero_add]
    cases wiring.spoils last <;> rfl

/-! ## Messages that were handed over -/

/-- What a change adds to the messages that were handed over. -/
theorem deliveries_of_change (change : Change wiring act link next) :
    (deliveries next.history = deliveries link.history ∧
        next.stats.repliesMatched = link.stats.repliesMatched) ∨
      ∃ ticket message, deliveries next.history = ticket :: deliveries link.history ∧
        next.stats.repliesMatched = link.stats.repliesMatched + 1 ∧ act = .read ∧
        link.exchanges.isAbandoned ticket = false ∧ next.calls = link.calls ∧
        ticket ∈ link.table.slots.map Prod.snd ∧
        next.exchanges.poll ticket = some (.ok message) := by
  cases change with
  | @aside remarks _ _ _ _ _ only =>
    refine .inl ⟨?_, rfl⟩
    rw [deliveries, List.filterMap_append, ← deliveries, only.undelivered.1, List.nil_append]
    rfl
  | @claimed _ _ _ message _ ticket active running read derived found live asked =>
    refine .inr ⟨ticket, message, rfl, rfl, asked, live, rfl,
      List.mem_map_of_mem (Table.mem_of_find? found), ?_⟩
    rw [Exchanges.poll_resolve, if_pos rfl, live]
    rfl
  | _ => exact .inl ⟨rfl, rfl⟩

/-- Every message that was handed over is counted, and its caller sees it. -/
structure Delivered (link : Link M) : Prop where
  count : link.stats.repliesMatched = (deliveries link.history).length
  once : (deliveries link.history).Nodup
  seen : ∀ ticket ∈ deliveries link.history,
    ∃ message, link.exchanges.poll ticket = some (.ok message)

theorem Delivered.change (change : Change wiring act link next) (sound : link.Sound)
    (delivered : link.Delivered) : next.Delivered := by
  have grows := Grows.of_change change sound.owned
  have still (ticket : Ticket) (member : ticket ∈ deliveries link.history) :
      ∃ message, next.exchanges.poll ticket = some (.ok message) := by
    obtain ⟨message, seen⟩ := delivered.seen ticket member
    exact ⟨message, grows.exchanges.seen (Exchanges.lt_length_of_replied seen) seen⟩
  rcases deliveries_of_change change with ⟨same, count⟩ |
    ⟨ticket, message, more, count, -, -, -, filed, seen⟩
  · exact ⟨by rw [count, same, delivered.count], same ▸ delivered.once, same ▸ still⟩
  · refine ⟨by rw [count, more, delivered.count, List.length_cons], ?_, ?_⟩
    -- an entry that is in the table has no outcome yet
    · rw [more, List.nodup_cons]
      refine ⟨fun before => ?_, delivered.once⟩
      obtain ⟨message, early⟩ := delivered.seen ticket before
      rw [sound.owned.poll_of_slot filed] at early
      cases early
    · rw [more, List.forall_mem_cons]
      exact ⟨⟨message, seen⟩, still⟩

theorem delivered_of_run (run : follow? wiring fresh acts = some link) : link.Delivered :=
  sound_fresh.follow_keeps (fun change sound => Delivered.change change sound) run
    ⟨rfl, List.nodup_nil, fun _ => (nomatch ·)⟩

/-! ## Messages that were returned -/

/-- No call returns two messages. -/
theorem replies_nodup_of_change (change : Change wiring act link next)
    (accounted : link.Accounted) (once : ((replies link.history).map Prod.fst).Nodup) :
    ((replies next.history).map Prod.fst).Nodup := by
  cases change with
  | aside only =>
    rwa [replies, List.filterMap_append, ← replies, only.undelivered.2, List.nil_append]
  | @finish call _ _ _ result _ asked member task returns =>
    cases result with
    | replied message =>
      refine List.nodup_cons.2 ⟨fun before => ?_, once⟩
      obtain ⟨⟨number, ticket?⟩, inside, same⟩ := List.mem_map.1 before
      obtain ⟨message', returned⟩ := mem_replies.1 inside
      exact (accounted.number returned).2 call member same.symm
    | _ => exact once
  | @conclude call member wait closed =>
    cases concluded : link.conclusion call.task with
    | replied message => exact absurd concluded (conclusion_ne_replied _ _ _)
    | _ => exact once
  | _ => exact once

theorem replies_nodup_of_run (run : follow? wiring fresh acts = some link) :
    ((replies link.history).map Prod.fst).Nodup := by
  refine consistent_fresh.follow_keeps
    (motive := fun link => ((replies link.history).map Prod.fst).Nodup) ?_ run List.nodup_nil
  intro act link next change consistent once
  exact replies_nodup_of_change change consistent.accounted once

/-! ## Calls that are cancelled in time -/

end Link

/-- The number of the call that this act cancels. -/
def Act.cancelled? : Act M → Option Nat
  | .play (.abort number) => some number
  | _ => none

namespace Link

/-- In this run, from this link on, calls that send are cancelled only when the link has settled. -/
def CancelsSettled (wiring : Wiring M) : Link M → List (Act M) → Prop
  | _, [] => True
  | link, act :: rest =>
    (∀ call ∈ link.calls, act.cancelled? = some call.number → call.ticket?.isSome = true →
        Settled wiring link) ∧
      ∀ next ∈ act? wiring link act, CancelsSettled wiring next rest

instance decidableCancelsSettled (wiring : Wiring M) :
    ∀ (link : Link M) (acts : List (Act M)), Decidable (CancelsSettled wiring link acts)
  | _, [] => .isTrue trivial
  | link, act :: rest =>
    have (next : Link M) : Decidable (CancelsSettled wiring next rest) :=
      decidableCancelsSettled wiring next rest
    inferInstanceAs (Decidable
      ((∀ call ∈ link.calls, act.cancelled? = some call.number → call.ticket?.isSome = true →
          Settled wiring link) ∧
        ∀ next ∈ act? wiring link act, CancelsSettled wiring next rest))

/-- The caller of a ticket who was handed a message has returned it, or has still to do so and is
not the one to be cancelled. -/
inductive Repays (cancelled : Option Nat) (link : Link M) (ticket : Ticket) : Prop
  | waits {number : Nat} {request : Request} {timer : Option Timer} {message : M}
      (spared : cancelled ≠ some number) (own : request.ticket = ticket)
      (fate : link.Fate number request timer (some (.ok message)))
  | returned {number : Nat} {message : M}
      (returned : .returned number (some ticket) (.replied message) ∈ link.history)

variable {number : Nat} {request : Request} {timer : Option Timer} {message : M} {ticket : Ticket}

/-- On a settled link nobody has still to return a message. -/
theorem Settled.returned_of_fate (settled : Settled wiring link) (owned : link.Owned)
    (fate : link.Fate number request timer (some (.ok message))) :
    .returned number (some request.ticket) (.replied message) ∈ link.history := by
  cases fate with
  | waits member still =>
    have seen := still _ rfl
    rw [(settled.send_waits owned member rfl).1] at seen
    cases seen
  | learnt inside returned seen still =>
    cases still _ rfl
    exact returned
  | expired inside unknown => cases unknown

theorem Repays.change (change : Change wiring act link next) (sound : link.Sound)
    (repays : link.Repays act.cancelled? ticket) : next.Repays act.cancelled? ticket := by
  cases repays with
  | waits spared own fate =>
    refine .waits spared own (fate.change change sound ?_)
    rintro rfl
    exact spared rfl
  | returned returned =>
    exact .returned ((Grows.of_change change sound.owned).mem_history returned)

/-- Everybody who was handed a message has returned it or has still to do so. -/
def AllRepay (cancelled : Option Nat) (link : Link M) : Prop :=
  ∀ ticket ∈ deliveries link.history, link.Repays cancelled ticket

theorem AllRepay.change (change : Change wiring act link next) (sound : link.Sound)
    (repay : link.AllRepay act.cancelled?) : next.AllRepay act.cancelled? := by
  intro ticket member
  rcases deliveries_of_change change with ⟨same, -⟩ |
    ⟨new, message, more, -, rfl, live, calls, -, seen⟩
  · exact (repay ticket (same ▸ member)).change change sound
  · rw [more] at member
    rcases List.mem_cons.1 member with rfl | old
    · obtain ⟨number, request, handed, timer, waits, rfl⟩ := sound.owned.caller_of_live live
      have fate : next.Fate number request timer (some (.ok message)) := by
        refine .waits (calls ▸ waits) fun outcome same => ?_
        cases same
        exact seen
      exact .waits (fun same => nomatch same) rfl fate
    · exact (repay ticket old).change change sound

theorem AllRepay.after (sound : link.Sound) (moved : act? wiring link act = some next)
    (cancels : ∀ call ∈ link.calls, act.cancelled? = some call.number →
      call.ticket?.isSome = true → Settled wiring link)
    (repay : link.AllRepay none) : next.AllRepay none := by
  have start : link.AllRepay act.cancelled? := by
    intro ticket member
    cases repay ticket member with
    | @waits number request timer message _ own fate =>
      by_cases cancelled : act.cancelled? = some number
      -- whoever is to be cancelled has returned, because the link has settled
      · subst own
        cases id fate with
        | waits waits still =>
          have settled := cancels _ waits cancelled rfl
          exact .returned (settled.returned_of_fate sound.owned fate)
        | learnt inside returned seen still =>
          cases still _ rfl
          exact .returned returned
        | expired inside unknown => cases unknown
      · exact .waits cancelled own fate
    | returned returned => exact .returned returned
  have later : next.AllRepay act.cancelled? :=
    sound.keeps (motive := fun link => link.AllRepay act.cancelled?) AllRepay.change moved start
  intro ticket member
  cases later ticket member with
  | waits _ own fate => exact .waits (fun same => nomatch same) own fate
  | returned returned => exact .returned returned

theorem allRepay_of_follow (sound : link.Sound) (run : follow? wiring link acts = some final)
    (cancels : CancelsSettled wiring link acts) (repay : link.AllRepay none) :
    final.AllRepay none := by
  induction acts generalizing link with
  | nil =>
    cases run
    exact repay
  | cons act rest ih =>
    obtain ⟨next, moved, onward⟩ := follow?_cons.1 run
    obtain ⟨here, cancels⟩ := cancels
    exact ih (sound.after moved) onward (cancels next moved) (repay.after sound moved here)

/-- No two calls return a message for one ticket. -/
theorem reply_tickets_nodup (run : follow? wiring fresh acts = some link) :
    ((replies link.history).map Prod.snd).Nodup := by
  have consistent := consistent_of_run run
  refine List.Nodup.map_on ?_ (replies_nodup_of_run run).of_map
  rintro ⟨number, ticket?⟩ member ⟨number', ticket?'⟩ member' same
  cases same
  obtain ⟨message, returned⟩ := mem_replies.1 member
  obtain ⟨message', returned'⟩ := mem_replies.1 member'
  obtain ⟨ticket, before, rfl, -⟩ := consistent.answered.returned returned
  rw [consistent.accounted.one returned returned']

/-- A message that was returned had been handed over. -/
theorem delivered_of_reply (run : follow? wiring fresh acts = some link) {ticket? : Option Ticket}
    (member : (number, ticket?) ∈ replies link.history) :
    ∃ ticket ∈ deliveries link.history, some ticket = ticket? := by
  obtain ⟨message, returned⟩ := mem_replies.1 member
  obtain ⟨ticket, before, rfl, @⟨later, payload, key, split, -⟩⟩ :=
    (consistent_of_run run).answered.returned returned
  refine ⟨ticket, mem_deliveries.2 ⟨key, ?_⟩, rfl⟩
  rw [split]
  exact List.mem_append_right _ List.mem_cons_self

/-- On a settled link a message that was handed over has been returned. -/
theorem Repays.reply (repays : link.Repays none ticket) (settled : Settled wiring link)
    (owned : link.Owned) : some ticket ∈ (replies link.history).map Prod.snd := by
  have returned : ∃ number message,
      .returned number (some ticket) (.replied message) ∈ link.history := by
    cases repays with
    | waits _ own fate =>
      subst own
      exact ⟨_, _, settled.returned_of_fate owned fate⟩
    | returned returned => exact ⟨_, _, returned⟩
  obtain ⟨number, message, returned⟩ := returned
  exact List.mem_map_of_mem (f := Prod.snd) (mem_replies.2 ⟨message, returned⟩)

/-- On a settled link the messages that were handed over are those that were returned, if no call
was cancelled before it could run. -/
theorem replies_length (run : follow? wiring fresh acts = some link)
    (settled : Settled wiring link) (cancels : CancelsSettled wiring fresh acts) :
    (replies link.history).length = link.stats.repliesMatched := by
  have delivered := delivered_of_run run
  have repay : link.AllRepay none :=
    allRepay_of_follow sound_fresh run cancels fun _ => (nomatch ·)
  have once : ((deliveries link.history).map some).Nodup :=
    delivered.once.map fun _ _ => Option.some.inj
  have same : ((replies link.history).map Prod.snd).Perm ((deliveries link.history).map some) := by
    refine (List.perm_ext_iff_of_nodup (reply_tickets_nodup run) once).2 fun ticket? => ?_
    constructor
    · intro member
      obtain ⟨⟨number, ticket?⟩, inside, rfl⟩ := List.mem_map.1 member
      exact List.mem_map.2 (delivered_of_reply run inside)
    · intro member
      obtain ⟨ticket, inside, rfl⟩ := List.mem_map.1 member
      exact (repay ticket inside).reply settled (sound_of_run run).owned
  have length := same.length_eq
  rwa [List.length_map, List.length_map, ← delivered.count] at length

end Link

end Multiplex
