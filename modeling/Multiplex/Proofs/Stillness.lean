import Multiplex.Proofs.Dispatch
import Multiplex.Proofs.Settled

/-!
# Links that wait for replies

On a settled link that is active nothing moves until something arrives, and then nothing moves but
the reader and the calls that it answers: the writer stays where it is, nothing enters the table, no
call takes a place in the queue or runs out of time (`Link.Still`). This lasts until the link leaves
its active phase. So what a call comes to is told by the frames that are read (`Link.Expects`).
-/

namespace Multiplex.Link

variable {M : Type} {wiring : Wiring M} {act : Act M} {acts : List (Act M)}
  {base link next final : Link M} {call : Call} {request : Request} {handed : Bool}
  {timer : Option Timer} {ticket : Ticket}

/-- A frame goes no further exactly if the transport stalls at once. -/
theorem writeStep?_eq_none_iff {rest : Bytes} :
    writeStep? wiring link request rest = none ↔
      rest ≠ [] ∧ link.transport.accepts rest.length = 0 ∧ link.transport.stop = .stalled := by
  unfold writeStep?
  split
  · next done => simp [List.isEmpty_iff.1 done]
  · next more =>
    have more : rest ≠ [] := by simpa using more
    dsimp only
    split
    · next positive => simp [Nat.ne_of_gt positive]
    · next full =>
      have full : link.transport.accepts rest.length = 0 := Nat.eq_zero_of_not_pos full
      cases link.transport.stop <;> simp [more, full]

theorem flushStep?_eq_none_iff :
    flushStep? wiring link request = none ↔ link.transport.flush = .stalled := by
  unfold flushStep?
  cases link.transport.flush <;> simp

/-- Since `base` only the reader and the calls have moved. -/
structure Still (base link : Link M) : Prop where
  calls : ∀ call ∈ link.calls, call ∈ base.calls
  queue : link.queue = base.queue
  isOpen : link.queueOpen = base.queueOpen
  writer : link.writer = base.writer
  sink : link.transport.sink = base.transport.sink
  clock : link.clock = base.clock
  slots : ∀ slot ∈ link.table.slots, slot ∈ base.table.slots

theorem Still.refl (base : Link M) : base.Still base :=
  ⟨fun _ inside => inside, rfl, rfl, rfl, rfl, rfl, fun _ inside => inside⟩

/-- A link that waits for replies. -/
structure Waiting (wiring : Wiring M) (base : Link M) : Prop where
  sound : base.Sound
  settled : Settled wiring base
  active : base.phase = .active

/-- The writer of a link that waits cannot move, and no more can it on another link where it stands
at the same place. -/
theorem Waiting.writerStep?_eq_none (waiting : Waiting wiring base)
    (unasked : link.stopAsked = false) (writer : link.writer = base.writer)
    (queue : link.queue = base.queue) (sink : link.transport.sink = base.transport.sink) :
    writerStep? wiring link = none := by
  have unasked' := waiting.sound.phased.synced.unasked_iff.2 waiting.active
  have stuck : writerStep? wiring base = none := waiting.settled .write rfl
  simp only [Transport.sink, Prod.mk.injEq] at sink
  obtain ⟨room, stop, flush, -⟩ := sink
  unfold writerStep? at stuck ⊢
  rw [writer, queue]
  cases position : base.writer with
  | idle =>
    simp only [position, unasked'] at stuck
    cases queued : base.queue with
    | nil => simp [unasked]
    | cons request rest => simp [queued] at stuck
  | writing request rest =>
    simp only [position, unasked', Bool.false_eq_true, if_false, writeStep?_eq_none_iff] at stuck
    simpa only [unasked, Bool.false_eq_true, if_false, writeStep?_eq_none_iff, Transport.accepts,
      room, stop] using stuck
  | flushing request =>
    simp only [position, unasked', Bool.false_eq_true, if_false, flushStep?_eq_none_iff] at stuck
    simpa only [unasked, Bool.false_eq_true, if_false, flushStep?_eq_none_iff, flush] using stuck
  | closing =>
    have shut := waiting.sound.phased.inactive_of_closing
    rw [position] at shut
    exact absurd waiting.active (shut rfl rfl)
  | ended how => rfl

section Still

variable (waiting : Waiting wiring base) (still : Still base link)
include waiting still

/-- A call that sends still waits for its outcome. -/
theorem Still.send_waits (member : call ∈ link.calls)
    (task : call.task = .send request handed timer) :
    (∀ deadline, timer = some deadline → link.clock < deadline.due) ∧
      (handed = false → link.queueOpen = true ∧
        max wiring.config.writeQueueDepth 1 ≤ link.queue.length) := by
  obtain ⟨-, early, full⟩ := waiting.settled.send_waits waiting.sound.owned
    (still.calls call member) task
  rw [still.clock, still.isOpen, still.queue]
  exact ⟨early, full⟩

/-- A call returns nothing but the outcome of its exchange. -/
theorem Still.outcome_of_returns (active : link.phase = .active) (member : call ∈ link.calls)
    (task : call.task = .send request handed timer) {result : Result M}
    (returns : Returns link request timer handed result) :
    ∃ outcome, link.exchanges.poll request.ticket = some outcome := by
  obtain ⟨early, full⟩ := still.send_waits waiting member task
  cases returns with
  | outcome there => exact ⟨_, there⟩
  | turnedAway shut =>
    rw [active, (full rfl).1] at shut
    simp at shut
  | late timed passed nothing => exact absurd passed (Nat.not_le_of_lt (early _ timed))

/-- The writer cannot move. -/
theorem Still.writerStep?_eq_none (synced : link.Synced) (active : link.phase = .active) :
    writerStep? wiring link = none :=
  waiting.writerStep?_eq_none (synced.unasked_iff.2 active) still.writer still.queue still.sink

/-- A call that has no outcome goes on waiting. -/
theorem Still.call_stays (active : link.phase = .active) (quiet : act.isQuiet = true)
    (owned : link.Owned) (change : Change wiring act link next) (member : call ∈ link.calls)
    (task : call.task = .send request handed timer)
    (unseen : link.exchanges.poll request.ticket = none) : call ∈ next.calls := by
  cases change with
  | send asked | await asked => exact List.mem_append_left _ member
  | abort asked there =>
    subst asked
    cases quiet
  | @enqueue other _ _ there line _ isOpen room =>
    have full := (still.send_waits waiting there line).2 rfl
    omega
  | @finish other _ _ _ _ _ asked there task' returns =>
    refine List.mem_filter.2 ⟨member, ?_⟩
    have differs : call.number ≠ other.number := by
      intro same
      have equal := owned.eq_of_number member there same
      subst equal
      rw [task] at task'
      cases task'
      obtain ⟨outcome, seen⟩ := still.outcome_of_returns waiting active member task returns
      rw [unseen] at seen
      cases seen
    simpa using differs
  | conclude there wait closed =>
    rw [active] at closed
    cases closed
  | _ => exact member

/-- Nothing moves but the reader and the calls. -/
theorem Still.change (quiet : act.isQuiet = true) (elsewhere : act ≠ .write)
    (change : Change wiring act link next) : Still base next := by
  cases change with
  | aside only wire poisoned sink =>
    refine { still with sink := (sink fun change asked => ?_).trans still.sink }
    subst asked
    cases quiet
  | advance asked =>
    subst asked
    cases quiet
  | drain => exact { still with slots := fun _ inside => nomatch inside }
  | send asked | reject asked | await asked =>
    rw [quiet] at asked
    cases asked
  | abort asked =>
    subst asked
    cases quiet
  -- a call that is still in line is there because the queue is full
  | enqueue member line _ isOpen room =>
    have full := (still.send_waits waiting member line).2 rfl
    omega
  | finish | conclude =>
    exact { still with calls := fun call inside => still.calls call (List.mem_filter.1 inside).1 }
  | withdraw | claimed | late =>
    exact { still with slots := fun slot inside => still.slots slot (Table.mem_erase.1 inside).1 }
  | stopWriting | refuse | skip | register | accept | flush | sent | fail | interrupt
  | crashWriting | crashClosing | endWriting => exact absurd (by assumption) elsewhere
  | _ => exact { still with }

/-- A request that is in the queue or with its call stays there. -/
theorem Still.unfiled_stays (active : link.phase = .active) (quiet : act.isQuiet = true)
    (elsewhere : act ≠ .write) (owned : link.Owned) (change : Change wiring act link next)
    (member : ticket ∈ link.unfiled) : ticket ∈ next.unfiled := by
  have still' := still.change waiting quiet elsewhere change
  rcases List.mem_append.1 member with queued | line
  · apply List.mem_append_left
    rwa [still'.queue, ← still.queue]
  · obtain ⟨call, inside, request, timer, task, rfl⟩ := mem_line_iff.1 line
    have stays := still.call_stays waiting active quiet owned change inside task
      (owned.poll_of_line inside task)
    exact List.mem_append_right _ (mem_line_iff.2 ⟨call, stays, request, timer, task, rfl⟩)

end Still

/-! ## What a call comes to -/

/-- What becomes of a call that waits for the outcome of a ticket, `new` being what has happened
since `base`. -/
inductive Expects (wiring : Wiring M) (base link : Link M) (new : List (Event M)) (call : Call)
    (ticket : Ticket) : Prop
  /-- It waits, and no frame for it has been read. -/
  | waits (active : link.phase = .active) (still : base.Still link) (member : call ∈ link.calls)
      (unseen : link.exchanges.poll ticket = none)
      (placed : ∀ key, base.table.find? key = some ticket → link.table.find? key = some ticket)
      (unheard : ∀ key message, base.table.find? key = some ticket →
        ¬Heard wiring new key message)
  /-- A frame for it has been read. -/
  | answered {key : String} {message : M} (found : base.table.find? key = some ticket)
      (heard : Heard wiring new key message)
      (seen : link.exchanges.poll ticket = some (.ok message))
  /-- The link left its active phase before a frame for it was read. -/
  | shut (inactive : link.phase ≠ .active)
      (closed : ∀ outcome, link.exchanges.poll ticket = some outcome → outcome = .error .closed)
      (unheard : ∀ key message, base.table.find? key = some ticket →
        ¬Heard wiring new key message)

/-- A link leaves its active phase by a drain, which closes the entries in the table. -/
theorem closed_of_left (change : Change wiring act link next) (active : link.phase = .active)
    (left : next.phase ≠ .active) :
    (∀ ticket outcome, link.exchanges.poll ticket = none →
        next.exchanges.poll ticket = some outcome → outcome = .error .closed) ∧
      ∃ reason, next.history = .draining reason :: link.history := by
  cases change with
  | drain =>
    refine ⟨?_, _, rfl⟩
    intro ticket outcome unseen seen
    rw [Exchanges.poll_closeAll, unseen] at seen
    split at seen
    · cases seen
      rfl
    · cases seen
  | closeDown draining =>
    rw [active] at draining
    cases draining
  | _ => exact absurd active left

/-- What is read by a change that leaves an entry in the table is not for that entry. -/
theorem unheard_of_change (change : Change wiring act link next) {key : String}
    (found : next.table.find? key = some ticket) :
    ∃ new, next.history = new ++ link.history ∧ ∀ message, ¬Heard wiring new key message := by
  obtain ⟨new, history, quiet⟩ := received_of_change change
  refine ⟨new, history, ?_⟩
  rintro message ⟨payload, member, read, derived⟩
  exact quiet payload message member read key ticket derived (Table.mem_of_find? found)

/-- What a change makes of a call that waits, if the link stays active. -/
theorem Expects.of_active (waiting : Waiting wiring base) (still : base.Still link)
    (active : next.phase = .active) (quiet : act.isQuiet = true) (elsewhere : act ≠ .write)
    (sound : link.Sound) (change : Change wiring act link next) (member : call ∈ link.calls)
    (task : call.task = .send request handed timer)
    (unseen : link.exchanges.poll request.ticket = none)
    (placed : ∀ key, base.table.find? key = some request.ticket →
      link.table.find? key = some request.ticket)
    {new : List (Event M)} (unheard : ∀ key message,
      base.table.find? key = some request.ticket → ¬Heard wiring new key message) :
    ∃ later, next.history = later ++ link.history ∧
      Expects wiring base next (later ++ new) call request.ticket := by
  have grows := Grows.of_change change sound.owned
  have before := grows.active active
  have still' := still.change waiting quiet elsewhere change
  have stays := still.call_stays waiting before quiet sound.owned change member task unseen
  -- its entry is in the table, where a frame may reach it, or it is not, and none can
  rcases List.mem_append.1 (sound.owned.held.mem_iff.2 unseen) with filed | unfiled
  · obtain ⟨⟨key, _⟩, slot, rfl⟩ := List.mem_map.1 filed
    have found := (Table.find?_eq_some_iff sound.owned.uniqueKeys).2 slot
    have found' := (Table.find?_eq_some_iff waiting.sound.owned.uniqueKeys).2 (still.slots _ slot)
    rcases entry_of_change change sound found with ⟨there, unseen'⟩ | ⟨outcome, given, seen⟩
    · obtain ⟨later, history, silent⟩ := unheard_of_change change there
      have only (key' : String) (found'' : base.table.find? key' = some request.ticket) :
          key' = key :=
        waiting.sound.owned.key_unique (Table.mem_of_find? found'') (Table.mem_of_find? found')
      refine ⟨later, history, .waits active still' stays unseen' ?_ ?_⟩
      · intro key' found''
        rw [only key' found'']
        exact there
      · intro key' message found'' heard
        rw [only key' found''] at heard
        exact heard.of_append.elim (silent message) (unheard key message found')
    · rcases given.of_found sound.owned found with
        ⟨payload, message, rfl, note, read, derived⟩ | ⟨source, rfl, busy, idle, -⟩ |
          ⟨rfl, gone | ⟨-, left⟩⟩
      · refine ⟨[_, _], note, .answered found' ⟨payload, ?_, read, derived⟩ seen⟩
        exact List.mem_append_left _ (List.mem_cons_of_mem _ List.mem_cons_self)
      -- the writer has not moved, so it has failed to write nothing
      · exact absurd (still.writer.trans (still'.writer.symm.trans idle)) busy
      · rw [(sound.owned.waiting member task).1] at gone
        cases gone
      · exact absurd active left
  · have elsewhere' := fun key found => sound.owned.not_filed unfiled
      (List.mem_map_of_mem (f := Prod.snd) (Table.mem_of_find? (placed key found)))
    have unfiled' := still.unfiled_stays waiting before quiet elsewhere sound.owned change unfiled
    have unseen' := (sound.owned.change change).held.mem_iff.1 (List.mem_append_right _ unfiled')
    obtain ⟨later, history⟩ := grows.history
    exact ⟨later, history, .waits active still' stays unseen'
      (fun key found => absurd found (elsewhere' key))
      fun key message found => absurd found (elsewhere' key)⟩

theorem Expects.change (waiting : Waiting wiring base) (quiet : act.isQuiet = true)
    (spares : act = .write → link.phase ≠ .active) (sound : link.Sound)
    (change : Change wiring act link next) (task : call.task = .send request handed timer)
    {new : List (Event M)} (expects : Expects wiring base link new call request.ticket) :
    ∃ later, next.history = later ++ link.history ∧
      Expects wiring base next (later ++ new) call request.ticket := by
  have grows := Grows.of_change change sound.owned
  obtain ⟨later, history⟩ := grows.history
  cases expects with
  | waits active still member unseen placed unheard =>
    by_cases stays : next.phase = .active
    · exact Expects.of_active waiting still stays quiet (fun asked => spares asked active) sound
        change member task unseen placed unheard
    · obtain ⟨closed, reason, history⟩ := closed_of_left change active stays
      refine ⟨[_], history, .shut stays (fun outcome => closed _ outcome unseen) ?_⟩
      rintro key message found ⟨payload, member, read, derived⟩
      rcases List.mem_cons.1 member with other | earlier
      · cases other
      · exact unheard key message found ⟨payload, earlier, read, derived⟩
  | answered found heard seen =>
    have inside := Exchanges.lt_length_of_replied seen
    exact ⟨later, history, .answered found heard.append (grows.exchanges.seen inside seen)⟩
  | shut inactive closed unheard =>
    obtain ⟨later, history, silent⟩ := readNothing_of_change change (.inr inactive)
    refine ⟨later, history, .shut (grows.inactive inactive) ?_ ?_⟩
    · intro outcome seen
      rcases outcome_of_change change sound seen with before | given
      · exact closed outcome before
      · exact given.eq_closed_of_inactive inactive
    · intro key message found heard
      rcases heard.of_append with ⟨payload, member, -⟩ | earlier
      · exact silent payload member
      · exact unheard key message found earlier

theorem Expects.after (waiting : Waiting wiring base) (quiet : act.isQuiet = true)
    (sound : link.Sound) (moved : act? wiring link act = some next)
    (task : call.task = .send request handed timer) {new : List (Event M)}
    (expects : Expects wiring base link new call request.ticket) :
    ∃ later, next.history = later ++ link.history ∧
      Expects wiring base next (later ++ new) call request.ticket := by
  -- the writer moves only if the link has left its active phase, or the call has its answer
  have chain (spares : act = .write → link.phase ≠ .active) : ∃ later,
      next.history = later ++ link.history ∧
        Expects wiring base next (later ++ new) call request.ticket := by
    refine (sound.keeps (motive := fun next => (act = .write → next.phase ≠ .active) ∧ ∃ later,
      next.history = later ++ link.history ∧
        Expects wiring base next (later ++ new) call request.ticket)
      (fun change sound during => ?_) moved ⟨spares, [], rfl, expects⟩).2
    obtain ⟨spares, later, history, expects⟩ := during
    obtain ⟨newer, history', expects⟩ := expects.change waiting quiet spares sound change task
    refine ⟨fun asked => (Grows.of_change change sound.owned).inactive (spares asked),
      newer ++ later, by rw [history', history, List.append_assoc], ?_⟩
    rwa [List.append_assoc]
  cases expects with
  | waits active still member unseen placed unheard =>
    apply chain
    intro asked
    subst asked
    rw [act?, still.writerStep?_eq_none waiting sound.phased.synced active] at moved
    cases moved
  | answered found heard seen =>
    have grows := Grows.of_act sound moved
    obtain ⟨later, history⟩ := grows.history
    have inside := Exchanges.lt_length_of_replied seen
    exact ⟨later, history, .answered found heard.append (grows.exchanges.seen inside seen)⟩
  | shut inactive closed unheard => exact chain fun _ => inactive

theorem Expects.follow (waiting : Waiting wiring base) (quiet : ∀ act ∈ acts, act.isQuiet = true)
    (sound : link.Sound) (run : follow? wiring link acts = some final)
    (task : call.task = .send request handed timer) {new : List (Event M)}
    (expects : Expects wiring base link new call request.ticket) :
    ∃ later, final.history = later ++ link.history ∧
      Expects wiring base final (later ++ new) call request.ticket := by
  induction acts generalizing link new with
  | nil =>
    cases run
    exact ⟨[], rfl, expects⟩
  | cons act rest ih =>
    obtain ⟨next, moved, onward⟩ := follow?_cons.1 run
    obtain ⟨later, history, expects⟩ :=
      expects.after waiting (quiet act List.mem_cons_self) sound moved task
    obtain ⟨newer, history', expects⟩ :=
      ih (fun act member => quiet act (List.mem_cons_of_mem _ member)) (sound.after moved) onward
        expects
    refine ⟨newer ++ later, by rw [history', history, List.append_assoc], ?_⟩
    rwa [List.append_assoc]

/-- A call that waits on a link that waits for replies expects one. -/
theorem Waiting.expects (waiting : Waiting wiring base) (member : call ∈ base.calls)
    (task : call.task = .send request handed timer) :
    Expects wiring base base [] call request.ticket := by
  obtain ⟨unseen, -⟩ := waiting.settled.send_waits waiting.sound.owned member task
  refine .waits waiting.active (.refl base) member unseen (fun _ found => found) ?_
  rintro key message - ⟨payload, member, -⟩
  cases member

/-- Time stands still while nothing happens but steps and arrivals. -/
theorem clock_of_quiet (quiet : ∀ act ∈ acts, act.isQuiet = true) (sound : link.Sound)
    (run : follow? wiring link acts = some final) : final.clock = link.clock := by
  induction acts generalizing link with
  | nil =>
    cases run
    rfl
  | cons act rest ih =>
    obtain ⟨next, moved, onward⟩ := follow?_cons.1 run
    refine (ih (fun act member => quiet act (List.mem_cons_of_mem _ member)) (sound.after moved)
      onward).trans ?_
    refine sound.keeps (motive := fun next => next.clock = link.clock)
      (fun change _ same => ?_) moved rfl
    cases change with
    | advance asked =>
      have still := quiet act List.mem_cons_self
      rw [asked] at still
      cases still
    | _ => exact same

/-! ## What a call has come to when the link has settled again -/

/-- On a settled link a call whose deadline is still ahead waits, or it has returned the outcome of
its exchange. -/
theorem Settled.returned_iff (settled : Settled wiring final) (consistent : final.Consistent wiring)
    {number : Nat} (fate : final.Fate number request timer none)
    (early : ∀ deadline, timer = some deadline → final.clock < deadline.due) :
    (final.phase = .active ∧ final.exchanges.poll request.ticket = none ∧
        ∀ ticket? result, .returned number ticket? result ∉ final.history) ∨
      ∃ outcome, final.exchanges.poll request.ticket = some outcome ∧
        ∀ ticket? result, .returned number ticket? result ∈ final.history ↔
          ticket? = some request.ticket ∧ result = .ofOutcome outcome := by
  cases fate with
  | waits member _ =>
    have active := settled.active_of_send consistent.sound member rfl
    obtain ⟨unseen, -⟩ := settled.send_waits consistent.sound.owned member rfl
    refine .inl ⟨active, unseen, ?_⟩
    intro ticket? result returned
    exact (consistent.accounted.number returned).2 _ member rfl
  | @learnt outcome inside returned seen _ =>
    refine .inr ⟨outcome, seen, fun ticket? result => ⟨fun returned' => ?_, ?_⟩⟩
    · exact consistent.accounted.unique returned' returned
    · rintro ⟨rfl, rfl⟩
      exact returned
  | expired inside unknown timed passed returned gone nothing =>
    exact absurd passed (Nat.not_le_of_lt (early _ timed))

/-- What a call that waits for a ticket returns in the end, if anything, is told by the frames that
are read and by whether the link stays active. -/
inductive Ending (wiring : Wiring M) (base final : Link M) (new : List (Event M))
    (ticket : Ticket) : Option (Result M) → Prop
  | waits (active : final.phase = .active) (unheard : ∀ key message,
      base.table.find? key = some ticket → ¬Heard wiring new key message) :
      Ending wiring base final new ticket none
  | answered {key : String} {message : M} (found : base.table.find? key = some ticket)
      (heard : Heard wiring new key message) :
      Ending wiring base final new ticket (some (.replied message))
  | shut (inactive : final.phase ≠ .active) (unheard : ∀ key message,
      base.table.find? key = some ticket → ¬Heard wiring new key message) :
      Ending wiring base final new ticket (some (.failed .closed))

theorem Waiting.ending (waiting : Waiting wiring base) (consistent : base.Consistent wiring)
    (quiet : ∀ act ∈ acts, act.isQuiet = true) (run : follow? wiring base acts = some final)
    (settled : Settled wiring final) {new : List (Event M)}
    (history : final.history = new ++ base.history) (member : call ∈ base.calls)
    (task : call.task = .send request handed timer) :
    ∃ result?, Ending wiring base final new request.ticket result? ∧
      ∀ ticket? result, .returned call.number ticket? result ∈ final.history ↔
        ticket? = some request.ticket ∧ result? = some result := by
  obtain ⟨unseen, early, -⟩ :=
    waiting.settled.send_waits waiting.sound.owned member task
  -- nothing in the run is the user's, so the call is not cancelled and no time passes
  have spared : .play (.abort call.number) ∉ acts := fun inside => nomatch quiet _ inside
  have member' : ⟨call.number, .send request handed timer⟩ ∈ base.calls := by
    rw [← task]
    exact member
  have fate : final.Fate call.number request timer none :=
    Fate.follow run consistent.sound spared (.waits member' fun _ none => nomatch none)
  rw [← clock_of_quiet quiet consistent.sound run] at early
  obtain ⟨later, history', expects⟩ :=
    (waiting.expects member task).follow waiting quiet waiting.sound run task
  rw [history, List.append_cancel_right_eq] at history'
  rw [List.append_nil, ← history'] at expects
  -- what the call has come to at rest agrees with what was to be expected of the frames
  rcases settled.returned_iff (consistent.follow run) fate early with
    ⟨active, unseen, nothing⟩ | ⟨outcome, seen, returned⟩
  · cases expects with
    | waits _ _ _ _ _ unheard =>
      exact ⟨none, .waits active unheard, fun ticket? result => by simp [nothing ticket? result]⟩
    | answered _ _ seen =>
      rw [unseen] at seen
      cases seen
    | shut inactive => exact absurd active inactive
  · cases expects with
    | waits _ _ _ unseen =>
      rw [unseen] at seen
      cases seen
    | @answered key message found heard seen' =>
      rw [seen] at seen'
      cases seen'
      exact ⟨some (.replied message), .answered found heard, fun ticket? result => by
        rw [returned, Option.some.injEq, eq_comm (a := result), Result.ofOutcome]⟩
    | shut inactive closed unheard =>
      cases closed outcome seen
      exact ⟨some (.failed .closed), .shut inactive unheard, fun ticket? result => by
        rw [returned, Option.some.injEq, eq_comm (a := result), Result.ofOutcome]⟩

/-- If the same frames are read, in whatever order, and no two of them are different replies for one
entry, then a call comes to the same. -/
theorem Ending.unique (owned : base.Owned) {final' : Link M} {new new' : List (Event M)}
    (frames : ∀ payload, .received payload ∈ new ↔ .received payload ∈ new')
    (apart : ∀ {key : String} {message message' : M}, base.table.find? key ≠ none →
      Heard wiring new key message → Heard wiring new key message' → message = message')
    (alike : final.phase = .active ↔ final'.phase = .active) {result? result?' : Option (Result M)}
    (ending : Ending wiring base final new ticket result?)
    (ending' : Ending wiring base final' new' ticket result?') : result? = result?' := by
  have forth {key : String} {message : M} (heard : Heard wiring new key message) :
      Heard wiring new' key message := by
    obtain ⟨payload, member, read, derived⟩ := heard
    exact ⟨payload, (frames payload).1 member, read, derived⟩
  have back {key : String} {message : M} (heard : Heard wiring new' key message) :
      Heard wiring new key message := by
    obtain ⟨payload, member, read, derived⟩ := heard
    exact ⟨payload, (frames payload).2 member, read, derived⟩
  cases ending with
  | waits active unheard =>
    cases ending' with
    | waits => rfl
    | answered found heard => exact absurd (back heard) (unheard _ _ found)
    | shut inactive => exact absurd (alike.1 active) inactive
  | answered found heard =>
    cases ending' with
    | waits _ unheard => exact absurd (forth heard) (unheard _ _ found)
    | answered found' heard' =>
      cases owned.key_unique (Table.mem_of_find? found) (Table.mem_of_find? found')
      rw [apart (by simp [found]) heard (back heard')]
    | shut _ unheard => exact absurd (forth heard) (unheard _ _ found)
  | shut inactive unheard =>
    cases ending' with
    | waits active => exact absurd (alike.2 active) inactive
    | answered found heard => exact absurd (back heard) (unheard _ _ found)
    | shut => rfl

end Multiplex.Link
