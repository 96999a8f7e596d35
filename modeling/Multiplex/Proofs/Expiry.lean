import Multiplex.Proofs.Stillness
import Multiplex.Proofs.Turns

/-!
# Calls that run out of time

A call that runs out of time takes along its own entry, or what was left under its key by another
caller who is gone; all else stays as it is (`withdrawn_of_turn`). If the clock of a link that waits
goes on, nothing happens but that calls run out of time, until none is left whose deadline has
passed (`Lull.follow`).
-/

namespace Multiplex.Link

variable {M : Type}

/-- A call has run out of time, and `left` is the link before it is released. Nothing has changed
but that the call and the entry of its request are gone, and perhaps an abandoned entry. -/
structure Withdrawn (wiring : Wiring M) (link left : Link M) (number : Nat) (request : Request)
    (handed : Bool) : Prop where
  stats : left.stats = link.stats
  phase : left.phase = link.phase
  stopAsked : left.stopAsked = link.stopAsked
  loops : left.reader = link.reader ∧ left.writer = link.writer
  transport : left.transport = link.transport
  queueOpen : left.queueOpen = link.queueOpen
  numbers : left.stan = link.stan ∧ left.made = link.made
  clock : left.clock = link.clock
  unmatched : left.unmatched = link.unmatched ∧ left.receiver = link.receiver
  handle : left.handle = link.handle
  calls : left.calls = link.calls.filter fun call => call.number ≠ number
  /-- A request that was still in line may have been handed over just before. -/
  queue : left.queue = link.queue ∨
    handed = false ∧ link.queue.length < max wiring.config.writeQueueDepth 1 ∧
      left.queue = link.queue ++ [request]
  own : ∀ key, (key, request.ticket) ∉ left.table.slots
  /-- Whoever else waits has been told nothing, and its entry is where it was. -/
  others : ∀ ticket, ticket ≠ request.ticket → link.exchanges.isAbandoned ticket = false →
    left.exchanges.isAbandoned ticket = false ∧
      left.exchanges.poll ticket = link.exchanges.poll ticket ∧
      ∀ key, (key, ticket) ∈ left.table.slots ↔ (key, ticket) ∈ link.table.slots

variable {wiring : Wiring M} {act : Act M} {acts : List (Act M)} {link next final : Link M}
  {number : Nat} {request : Request} {handed : Bool} {timer : Option Timer} {first : Bool}
  {deadline : Timer}

/-! ## Nobody is told to have run out of time -/

/-- No exchange comes to an expired deadline. -/
def Untimed (link : Link M) : Prop :=
  ∀ ticket key millis, link.exchanges.poll ticket ≠ some (.error (.timedOut key millis))

theorem Untimed.change (change : Change wiring act link next) (sound : link.Sound)
    (untimed : link.Untimed) : next.Untimed := by
  intro ticket key millis seen
  rcases outcome_of_change change sound seen with before | given
  · exact untimed ticket key millis before
  · cases given

theorem Untimed.follow (sound : link.Sound) (run : follow? wiring link acts = some final)
    (untimed : link.Untimed) : final.Untimed :=
  sound.follow_keeps (fun change sound => Untimed.change change sound) run untimed

theorem Untimed.after (sound : link.Sound) (moved : act? wiring link act = some next)
    (untimed : link.Untimed) : next.Untimed :=
  sound.keeps (fun change sound => Untimed.change change sound) moved untimed

theorem untimed_of_run (run : follow? wiring fresh acts = some link) : link.Untimed :=
  Untimed.follow sound_fresh run fun _ _ _ => by simp [fresh, Exchanges.poll]

theorem Untimed.verdict? (untimed : link.Untimed) {key : String} {millis : Nat} :
    link.verdict? request handed ≠ some (.failed (.timedOut key millis)) := by
  intro verdict
  cases handed with
  | false =>
    obtain ⟨-, same⟩ := verdict?_line_eq_some_iff.1 verdict
    cases same
  | true =>
    rw [verdict?_handed] at verdict
    obtain ⟨outcome, seen, same⟩ := Option.map_eq_some_iff.1 verdict
    cases outcome with
    | ok message => cases same
    | error error =>
      cases same
      exact untimed _ _ _ seen

/-! ## What goes with a call that runs out of time -/

/-- A caller whose deadline passes takes along its own entry, and touches nobody who waits. -/
theorem expire_spares (link : Link M) (request : Request) (handed : Bool) (timer : Timer)
    (keys : link.table.UniqueKeys)
    (named : ∀ key, (key, request.ticket) ∈ link.table.slots → key = request.key) :
    ∃ table exchanges told remarks, (link.expire request handed timer).1 =
        { link with table, exchanges, told, history := remarks ++ link.history } ∧
      (∀ key, (key, request.ticket) ∉ table.slots) ∧
      ∀ ticket, ticket ≠ request.ticket → link.exchanges.isAbandoned ticket = false →
        exchanges.isAbandoned ticket = false ∧
          exchanges.poll ticket = link.exchanges.poll ticket ∧
          ∀ key, (key, ticket) ∈ table.slots ↔ (key, ticket) ∈ link.table.slots := by
  obtain ⟨told, remarks, -, expired⟩ := expire_eq link request handed timer
  have found_own {key : String} (own : (key, request.ticket) ∈ link.table.slots) :
      key = request.key ∧ link.table.find? request.key = some request.ticket := by
    obtain rfl := named key own
    exact ⟨rfl, (Table.find?_eq_some_iff keys).2 own⟩
  have left : (link.exchanges.quit request.ticket handed).isAbandoned request.ticket = true := by
    rw [Exchanges.isAbandoned_quit, if_pos rfl]
  have spared {ticket : Ticket} (other : ticket ≠ request.ticket)
      (live : link.exchanges.isAbandoned ticket = false) :
      (link.exchanges.quit request.ticket handed).isAbandoned ticket = false ∧
        (link.exchanges.quit request.ticket handed).poll ticket = link.exchanges.poll ticket := by
    rw [Exchanges.isAbandoned_quit, if_neg other, Exchanges.poll_quit,
      if_neg fun both => other both.2.1]
    exact ⟨live, rfl⟩
  rcases expired with ⟨holder, found, gone, eq⟩ | ⟨alive, eq⟩
  · refine ⟨_, _, told, remarks, eq, fun key own => ?_, fun ticket other live => ?_⟩
    · obtain ⟨own, differs⟩ := Table.mem_erase.1 own
      exact differs (found_own own).1
    · obtain ⟨live', seen⟩ := spared other live
      have differs : ticket ≠ holder := by
        rintro rfl
        rw [live'] at gone
        cases gone
      refine ⟨(Exchanges.isAbandoned_drop _ _ _).trans live', ?_, fun key => ?_⟩
      · rw [Exchanges.poll_drop, if_neg fun both => differs both.1, seen]
      · refine Table.mem_erase.trans (and_iff_left_of_imp fun filed same => ?_)
        cases same
        rw [(Table.find?_eq_some_iff keys).2 filed] at found
        exact differs (Option.some.inj found)
  -- its own entry, if it were filed, would count as abandoned
  · refine ⟨link.table, _, told, remarks, eq, fun key own => ?_, fun ticket other live => ?_⟩
    · have alive' := alive _ (found_own own).2
      rw [left] at alive'
      cases alive'
    · exact ⟨(spared other live).1, (spared other live).2, fun key => Iff.rfl⟩

theorem withdrawn_of_strikes (deadline : Timer) (consistent : link.Consistent wiring)
    (member : ⟨number, .send request handed timer⟩ ∈ link.calls) {struck : Link M}
    {handed' : Bool} (strikes : Strikes wiring link request handed first struck handed') :
    Withdrawn wiring link
      (((struck.expire request handed' deadline).1.removeCall
          ⟨number, .send request handed timer⟩).note
        (.returned number (some request.ticket)
          (.failed (.timedOut request.key deadline.millis)))) number request handed := by
  obtain ⟨original, known⟩ := consistent.recorded.carried (.call member rfl)
  have keys := consistent.sound.owned.uniqueKeys
  have named (key : String) (own : (key, request.ticket) ∈ link.table.slots) :
      key = request.key := (consistent.key_of_slot own known).symm
  cases strikes with
  | asItIs =>
    obtain ⟨table, exchanges, told, remarks, eq, own, others⟩ :=
      expire_spares link request handed deadline keys named
    rw [eq]
    exact ⟨rfl, rfl, rfl, ⟨rfl, rfl⟩, rfl, rfl, ⟨rfl, rfl⟩, rfl, ⟨rfl, rfl⟩, rfl, rfl, .inl rfl,
      own, others⟩
  | ahead line front room =>
    obtain ⟨table, exchanges, told, remarks, eq, own, others⟩ :=
      expire_spares (link.handOver request) request true deadline keys named
    rw [eq]
    exact ⟨rfl, rfl, rfl, ⟨rfl, rfl⟩, rfl, rfl, ⟨rfl, rfl⟩, rfl, ⟨rfl, rfl⟩, rfl, rfl,
      .inr ⟨line, room, rfl⟩, own, others⟩

/-- What the turn of a call that runs out of time leaves. -/
theorem withdrawn_of_turn (consistent : link.Consistent wiring) (untimed : link.Untimed)
    (member : ⟨number, .send request handed timer⟩ ∈ link.calls)
    (moved : act? wiring link (.turn number first) = some next) {key : String} {millis : Nat}
    (returned : .returned number (some request.ticket) (.failed (.timedOut key millis)) ∈
      next.history) :
    ∃ left, Withdrawn wiring link left number request handed ∧ next = left.release := by
  have once := (consistent.after moved).accounted
  cases sendTurn_of_act consistent.sound member moved with
  | handsOver =>
    rcases List.mem_cons.1 returned with new | old
    · cases new
    · exact absurd rfl ((consistent.accounted.number old).2 _ member)
  | learns told verdict =>
    obtain ⟨-, rfl⟩ := once.unique (finish_mem_history _ _ _) returned
    exact absurd verdict untimed.verdict?
  | expires timed passed undecided strikes =>
    exact ⟨_, withdrawn_of_strikes _ consistent member strikes, rfl⟩

theorem Withdrawn.release_eq {left : Link M}
    (withdrawn : Withdrawn wiring link left number request handed)
    (held : link.handle = true ∨ ∃ call ∈ link.calls, call.number ≠ number) :
    left.release = left := by
  refine release_of_held (held.imp (withdrawn.handle.trans ·) ?_)
  rintro ⟨call, member, other⟩
  rw [withdrawn.calls]
  exact List.ne_nil_of_mem (List.mem_filter.2 ⟨member, by simpa using other⟩)

/-! ## The clock reaches a deadline -/

/-- Since `base` some calls have run out of time, and nothing else has happened. -/
structure Lull (base link : Link M) : Prop where
  phase : link.phase = base.phase
  loops : link.reader = base.reader ∧ link.writer = base.writer
  transport : link.transport = base.transport
  queueOpen : link.queueOpen = base.queueOpen
  queue : link.queue = base.queue
  calls : ∀ call ∈ link.calls, call ∈ base.calls
  untold : ∀ call ∈ link.calls, ∀ ticket, call.ticket? = some ticket →
    link.exchanges.poll ticket = none

section Lull

variable {base : Link M} (waiting : Waiting wiring base) (lull : Lull base link)
include waiting lull

/-- The reader cannot move. -/
theorem Lull.readStep?_eq_none (synced : link.Synced) : readStep? wiring link = none := by
  have stuck : readStep? wiring base = none := waiting.settled .read rfl
  have unasked := synced.unasked_iff.2 (lull.phase.trans waiting.active)
  have unasked' := waiting.sound.phased.synced.unasked_iff.2 waiting.active
  unfold readStep? at stuck ⊢
  rw [lull.loops.1, lull.transport, unasked]
  rw [unasked'] at stuck
  split
  · rfl
  · next running =>
    simp only [running, Bool.false_eq_true, if_false] at stuck ⊢
    split
    · next empty =>
      simp only [empty, if_true] at stuck
      split
      · rfl
      · next arrived =>
        simp only [arrived] at stuck
        split at stuck <;> cases stuck
    · next filled => simp [filled] at stuck

/-- A loop runs, so the supervisor cannot move. -/
theorem Lull.superviseStep?_eq_none : link.superviseStep? = none := by
  refine Link.superviseStep?_eq_none ?_
  rw [lull.loops.1, lull.loops.2]
  cases reader : base.reader.isEnded with
  | false => exact .inl rfl
  | true =>
    cases writer : base.writer.isEnded with
    | false => exact .inr rfl
    | true =>
      have closed := (waiting.settled.closed_of_ended waiting.sound reader writer).1
      rw [waiting.active] at closed
      cases closed

/-- A call that moves has run out of time, and its request was not handed over just then. -/
theorem Lull.expires_of_turn (sound : link.Sound)
    (member : ⟨number, .send request handed timer⟩ ∈ link.calls)
    (moved : act? wiring link (.turn number first) = some next) :
    ∃ deadline, timer = some deadline ∧
      next = (link.expire request handed deadline).1.finish ⟨number, .send request handed timer⟩
        (.failed (.timedOut request.key deadline.millis)) := by
  have active := lull.phase.trans waiting.active
  obtain ⟨-, -, full⟩ := waiting.settled.send_waits waiting.sound.owned
    (lull.calls _ member) rfl
  rw [← lull.queueOpen, ← lull.queue] at full
  cases sendTurn_of_act sound member moved with
  | handsOver line front room => exact absurd room (Nat.not_lt.2 (full line).2)
  | learns told verdict =>
    cases handed with
    | false =>
      rw [verdict?_line_eq_none_iff.2 ⟨active, (full rfl).1⟩] at verdict
      cases verdict
    | true =>
      rw [verdict?_handed, lull.untold _ member _ rfl] at verdict
      cases verdict
  | expires timed passed undecided strikes =>
    cases strikes with
    | asItIs => exact ⟨_, timed, rfl⟩
    | ahead line front room => exact absurd room (Nat.not_lt.2 (full line).2)

/-- What becomes of the lull when another call runs out of time. -/
theorem Lull.withdrawn (sound : link.Sound) {left : Link M}
    (member : ⟨number, .send request handed timer⟩ ∈ link.calls)
    (withdrawn : Withdrawn wiring link left number request handed) : Lull base left := by
  obtain ⟨-, -, full⟩ := waiting.settled.send_waits waiting.sound.owned
    (lull.calls _ member) rfl
  have kept {call : Call} (inside : call ∈ left.calls) :
      call ∈ link.calls ∧ call.number ≠ number := by
    rw [withdrawn.calls] at inside
    simpa using inside
  refine ⟨withdrawn.phase.trans lull.phase, ?_, withdrawn.transport.trans lull.transport,
    withdrawn.queueOpen.trans lull.queueOpen, ?_, fun call inside => lull.calls _ (kept inside).1,
    fun call inside ticket own => ?_⟩
  · rw [withdrawn.loops.1, withdrawn.loops.2]
    exact lull.loops
  · rcases withdrawn.queue with same | ⟨line, room, -⟩
    · exact same.trans lull.queue
    · rw [lull.queue] at room
      exact absurd room (Nat.not_lt.2 (full line).2)
  · obtain ⟨there, other⟩ := kept inside
    obtain ⟨request', handed', timer', task, rfl⟩ := task_of_ticket? own
    have differs : request'.ticket ≠ request.ticket := fun same =>
      other (sound.owned.eq_of_ticket member rfl there (own.trans (congrArg some same)))
    have live := (sound.owned.waiting there task).1
    rw [(withdrawn.others _ differs live).2.1]
    exact lull.untold call there _ own

/-- A step in a lull is the turn of a call that runs out of time. -/
theorem Lull.after (consistent : link.Consistent wiring)
    (ours : ⟨number, .send request handed (some deadline)⟩ ∈ link.calls)
    (step : act.isStep = true) (moved : act? wiring link act = some next) :
    (Lull base next ∧ ⟨number, .send request handed (some deadline)⟩ ∈ next.calls) ∨
      .returned number (some request.ticket)
        (.failed (.timedOut request.key deadline.millis)) ∈ next.history := by
  have sound := consistent.sound
  have synced := sound.phased.synced
  have active := lull.phase.trans waiting.active
  cases act with
  | play operation => cases step
  | read => exact nomatch moved.symm.trans (lull.readStep?_eq_none waiting synced)
  | write =>
    have stuck : writerStep? wiring link = none :=
      waiting.writerStep?_eq_none (synced.unasked_iff.2 active) lull.loops.2 lull.queue
        (congrArg Transport.sink lull.transport)
    exact nomatch moved.symm.trans stuck
  | supervise => exact nomatch moved.symm.trans (lull.superviseStep?_eq_none waiting)
  | turn number' first =>
    obtain ⟨⟨other, task⟩, found, turned⟩ := Option.bind_eq_some_iff.1 moved
    obtain rfl : other = number' := by simpa using List.find?_some found
    have member := List.mem_of_find?_eq_some found
    cases task with
    | close => simp [turnOf?, turn?, active] at turned
    | watch => simp [turnOf?, turn?, active] at turned
    | send request' handed' timer' =>
      obtain ⟨deadline', timed, rfl⟩ := lull.expires_of_turn waiting sound member moved
      by_cases own : other = number
      · subst own
        cases sound.owned.eq_of_number member ours rfl
        cases timed
        exact .inr (finish_mem_history _ _ _)
      · have strikes : Strikes wiring link request' handed' first link handed' := .asItIs
        have withdrawn := withdrawn_of_strikes deadline' consistent member strikes
        have whole := withdrawn.release_eq (.inr ⟨_, ours, Ne.symm own⟩)
        rw [finish, Call.ticket?, whole]
        refine .inl ⟨lull.withdrawn waiting sound member withdrawn, ?_⟩
        rw [withdrawn.calls]
        exact List.mem_filter.2 ⟨ours, by simpa using Ne.symm own⟩

theorem Lull.follow (consistent : link.Consistent wiring)
    (ours : ⟨number, .send request handed (some deadline)⟩ ∈ link.calls)
    (steps : ∀ act ∈ acts, act.isStep = true) (run : follow? wiring link acts = some final) :
    (Lull base final ∧ ⟨number, .send request handed (some deadline)⟩ ∈ final.calls) ∨
      .returned number (some request.ticket)
        (.failed (.timedOut request.key deadline.millis)) ∈ final.history := by
  induction acts generalizing link with
  | nil =>
    cases run
    exact .inl ⟨lull, ours⟩
  | cons act rest ih =>
    obtain ⟨next, moved, later⟩ := follow?_cons.1 run
    have consistent' := consistent.after moved
    rcases lull.after waiting consistent ours (steps act List.mem_cons_self) moved with
      ⟨lull', ours'⟩ | returned
    · exact ih lull' consistent' ours' (fun act member => steps act (List.mem_cons_of_mem _ member))
        later
    · exact .inr ((Grows.of_follow consistent'.sound later).mem_history returned)

end Lull

/-- When the clock of a link that waits goes on, nothing has happened yet. -/
theorem Waiting.lull (waiting : Waiting wiring link) (millis : Nat) :
    Lull link { link with clock := link.clock + millis } := by
  refine ⟨rfl, ⟨rfl, rfl⟩, rfl, rfl, rfl, fun _ => id, fun call member ticket own => ?_⟩
  obtain ⟨request, handed, timer, task, rfl⟩ := task_of_ticket? own
  exact (waiting.settled.send_waits waiting.sound.owned member task).1

end Multiplex.Link
