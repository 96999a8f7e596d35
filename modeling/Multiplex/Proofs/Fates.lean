import Multiplex.Proofs.Requests

/-!
# What becomes of a call

A call that sends waits until it returns, unless it is cancelled. It returns the outcome of its own
exchange; or its deadline has passed, and then no outcome but a closed link ever comes to the
exchange (`Link.Fate`). It returns once, and no other call returns for its ticket
(`Link.Accounted`).
-/

namespace Multiplex.Link

variable {M : Type}

/-- What has become of a call, of a number and with a deadline, that sends a request; `known` is an
outcome that its exchange had already come to, if there is one. -/
inductive Fate (link : Link M) (number : Nat) (request : Request) (timer : Option Timer)
    (known : Option (Except LinkError M)) : Prop
  | waits {handed : Bool} (member : ⟨number, .send request handed timer⟩ ∈ link.calls)
      (still : ∀ outcome, known = some outcome →
        link.exchanges.poll request.ticket = some outcome)
  | learnt {outcome : Except LinkError M} (inside : request.ticket < link.exchanges.length)
      (returned : .returned number (some request.ticket) (.ofOutcome outcome) ∈ link.history)
      (seen : link.exchanges.poll request.ticket = some outcome)
      (still : ∀ outcome', known = some outcome' → outcome = outcome')
  | expired {deadline : Timer} (inside : request.ticket < link.exchanges.length)
      (unknown : known = none) (timed : timer = some deadline)
      (passed : deadline.due ≤ link.clock)
      (returned : .returned number (some request.ticket)
        (.failed (.timedOut request.key deadline.millis)) ∈ link.history)
      (gone : link.exchanges.isAbandoned request.ticket = true)
      (nothing : ∀ outcome, link.exchanges.poll request.ticket = some outcome →
        outcome = .error .closed)

variable {wiring : Wiring M} {act : Act M} {link next final : Link M} {number : Nat}
  {call other : Call} {request : Request} {handed : Bool} {timer : Option Timer}
  {known : Option (Except LinkError M)}

/-- Calls of one number are one call. -/
theorem Owned.eq_of_number (owned : link.Owned) (member : call ∈ link.calls)
    (member' : other ∈ link.calls) (same : call.number = other.number) : call = other :=
  List.inj_on_of_nodup_map owned.numbers member member' same

/-- A call that sends waits for its ticket, whose exchange has been opened. -/
theorem Owned.waiting (owned : link.Owned) (member : call ∈ link.calls)
    (task : call.task = .send request handed timer) :
    link.exchanges.isAbandoned request.ticket = false ∧
      request.ticket < link.exchanges.length := by
  have awaits : request.ticket ∈ link.callers :=
    List.mem_filterMap.2 ⟨call, member, by rw [Call.ticket?, task]⟩
  have live := owned.awaited.mem_iff.1 awaits
  exact ⟨live, Exchanges.lt_length_of_waiting live⟩

/-- Whoever has a ticket waits for the outcome of its request. -/
theorem task_of_ticket? {ticket : Ticket} (own : call.ticket? = some ticket) :
    ∃ request handed timer, call.task = .send request handed timer ∧ request.ticket = ticket := by
  unfold Call.ticket? at own
  split at own
  · next request handed timer task => exact ⟨request, handed, timer, task, Option.some.inj own⟩
  · cases own
  · cases own

/-- A live entry has a caller. -/
theorem Owned.caller_of_live (owned : link.Owned) {ticket : Ticket}
    (live : link.exchanges.isAbandoned ticket = false) :
    ∃ number request handed timer, ⟨number, .send request handed timer⟩ ∈ link.calls ∧
      request.ticket = ticket := by
  obtain ⟨⟨number, task⟩, member, own⟩ := List.mem_filterMap.1 (owned.awaited.mem_iff.2 live)
  obtain ⟨request, handed, timer, rfl, same⟩ := task_of_ticket? own
  exact ⟨number, request, handed, timer, member, same⟩

/-- A call that is still in line has no outcome. -/
theorem Owned.poll_of_line (owned : link.Owned) (member : call ∈ link.calls)
    (task : call.task = .send request false timer) :
    link.exchanges.poll request.ticket = none :=
  owned.held.mem_iff.1 (List.mem_append_right _ (List.mem_append_right _
    (mem_line_iff.2 ⟨call, member, request, timer, task, rfl⟩)))

/-- Nor has a call that runs out of time. -/
theorem Owned.poll_of_late (owned : link.Owned) (member : call ∈ link.calls)
    (task : call.task = .send request handed timer) (nothing : handed = true →
      link.exchanges.poll request.ticket = none ∨ request ∈ link.queue) :
    link.exchanges.poll request.ticket = none := by
  cases handed with
  | false => exact owned.poll_of_line member task
  | true =>
    rcases nothing rfl with none | queued
    · exact none
    · exact owned.poll_of_queued (List.mem_map_of_mem queued)

/-- A caller who leaves without an outcome has lost its entry at most. -/
theorem eq_closed_of_quit (handed : Bool) {exchanges : Exchanges M} {ticket : Ticket}
    (none : exchanges.poll ticket = none) {outcome : Except LinkError M}
    (seen : (exchanges.quit ticket handed).poll ticket = some outcome) :
    outcome = .error .closed := by
  rw [Exchanges.poll_quit, none] at seen
  split at seen
  · cases seen
    rfl
  · cases seen

/-- What a call that returns has come to. -/
theorem Fate.of_returns {result : Result M} (owned : link.Owned) (member : call ∈ link.calls)
    (task : call.task = .send request handed timer)
    (returns : Returns link request timer handed result)
    (still : ∀ outcome, known = some outcome →
      link.exchanges.poll request.ticket = some outcome) :
    Fate { link with
        exchanges := link.exchanges.quit request.ticket handed
        calls := link.calls.filter fun other => other.number ≠ call.number
        history := .returned call.number (some request.ticket) result :: link.history }
      call.number request timer known := by
  obtain ⟨live, inside⟩ := owned.waiting member task
  have inside : request.ticket < (link.exchanges.quit request.ticket handed).length := by
    rwa [Exchanges.length_quit]
  cases returns with
  | outcome there =>
    refine .learnt inside List.mem_cons_self ?_ ?_
    · rw [Exchanges.poll_quit, if_neg (fun lost => nomatch lost.1)]
      exact there
    · intro outcome same
      exact Option.some.inj (there.symm.trans (still outcome same))
  | turnedAway shut =>
    -- its request goes with it, so its exchange comes to what it returns
    have none := owned.poll_of_line member task
    have closed : (link.exchanges.quit request.ticket false).poll request.ticket =
        some (.error .closed) := by
      rw [Exchanges.poll_quit, if_pos ⟨rfl, rfl, none⟩]
    refine .learnt inside List.mem_cons_self closed ?_
    intro outcome same
    rw [still outcome same] at none
    cases none
  | late timed passed nothing =>
    have none := owned.poll_of_late member task nothing
    have unknown : known = .none := by
      apply Option.eq_none_iff_forall_ne_some.2
      intro outcome same
      rw [still outcome same] at none
      cases none
    refine .expired inside unknown timed passed List.mem_cons_self ?_ ?_
    · rw [Exchanges.isAbandoned_quit, if_pos rfl]
    · intro outcome seen
      exact eq_closed_of_quit handed none seen

/-- A call goes on waiting until it returns, unless it is cancelled. -/
theorem Fate.change (change : Change wiring act link next) (sound : link.Sound)
    (spared : act ≠ .play (.abort number)) (fate : link.Fate number request timer known) :
    next.Fate number request timer known := by
  have grows := Grows.of_change change sound.owned
  cases fate with
  | learnt inside returned seen still =>
    exact .learnt (Nat.lt_of_lt_of_le inside grows.exchanges.length_le)
      (grows.mem_history returned) (grows.exchanges.seen inside seen) still
  | expired inside unknown timed passed returned gone nothing =>
    refine .expired (Nat.lt_of_lt_of_le inside grows.exchanges.length_le) unknown timed
      (Nat.le_trans passed grows.clock_le) (grows.mem_history returned)
      (grows.exchanges.abandoned _ inside gone) ?_
    intro outcome seen
    rcases outcome_of_change change sound seen with before | given
    · exact nothing outcome before
    · exact given.eq_closed gone
  | @waits handed member still =>
    have inside := (sound.owned.waiting member rfl).2
    have still' : ∀ outcome, known = some outcome →
        next.exchanges.poll request.ticket = some outcome :=
      fun outcome same => grows.exchanges.seen inside (still outcome same)
    cases change with
    | send | await => exact .waits (List.mem_append_left _ member) still'
    | @abort call asked there =>
      have differs : number ≠ call.number := by
        rintro rfl
        exact spared asked
      exact .waits (List.mem_filter.2 ⟨member, by simpa using differs⟩) still'
    | @enqueue call _ _ there task active isOpen room =>
      by_cases same : number = call.number
      · have equal := sound.owned.eq_of_number member there same
        subst equal
        cases task
        exact .waits (List.mem_map.2 ⟨_, there, if_pos rfl⟩) still'
      · exact .waits (List.mem_map.2 ⟨_, member, if_neg same⟩) still'
    | @finish call _ _ _ _ _ asked there task returns =>
      by_cases same : number = call.number
      · have equal := sound.owned.eq_of_number member there same
        subst equal
        cases task
        exact .of_returns sound.owned there rfl returns still
      · exact .waits (List.mem_filter.2 ⟨member, by simpa using same⟩) still'
    | @conclude call there wait closed =>
      have differs : number ≠ call.number := by
        intro same
        have equal := sound.owned.eq_of_number member there same
        subst equal
        rcases wait with task | task <;> cases task
      exact .waits (List.mem_filter.2 ⟨member, by simpa using differs⟩) still'
    | _ => exact .waits member still'

theorem Fate.after (h : act? wiring link act = some next) (sound : link.Sound)
    (spared : act ≠ .play (.abort number)) (fate : link.Fate number request timer known) :
    next.Fate number request timer known :=
  sound.keeps (motive := fun link => link.Fate number request timer known)
    (fun change sound fate => fate.change change sound spared) h fate

theorem Fate.follow {acts : List (Act M)} (run : follow? wiring link acts = some final)
    (sound : link.Sound) (spared : .play (.abort number) ∉ acts)
    (fate : link.Fate number request timer known) : final.Fate number request timer known := by
  -- along the run and not through `Sound.follow_keeps`, because each act has to spare the call
  induction acts generalizing link with
  | nil =>
    cases run
    exact fate
  | cons act rest ih =>
    obtain ⟨next, moved, later⟩ := follow?_cons.1 run
    simp only [List.mem_cons, not_or] at spared
    exact ih later (sound.after moved) spared.2 (fate.after moved sound (Ne.symm spared.1))

/-! ## Every call returns once -/

/-- A new result is that of a message that could not be sent, or that of a call that goes. -/
theorem result_of_change (change : Change wiring act link next) (sound : link.Sound)
    {ticket? : Option Ticket} {result : Result M}
    (member : .returned number ticket? result ∈ next.history) :
    .returned number ticket? result ∈ link.history ∨
      (next.history = .returned number ticket? result :: link.history ∧
        ((number = link.made ∧ ticket? = none ∧ next.made = link.made + 1 ∧
            next.calls = link.calls) ∨
          ∃ call ∈ link.calls, call.number = number ∧ call.ticket? = ticket? ∧
            next.made = link.made ∧
            next.calls = (link.calls.filter fun other => other.number ≠ number) ∧
            ∀ ticket, ticket? = some ticket → link.exchanges.isAbandoned ticket = false ∧
              next.exchanges.isAbandoned ticket = true)) := by
  cases change with
  | aside only wire same => exact .inl (only.mem_of_append rfl member)
  | reject asked =>
    rcases List.mem_cons.1 member with new | old
    · cases new
      exact .inr ⟨rfl, .inl ⟨rfl, rfl, rfl, rfl⟩⟩
    · exact .inl old
  | @finish call request handed _ _ _ asked inside task returns =>
    rcases List.mem_cons.1 member with new | old
    · cases new
      have own : call.ticket? = some request.ticket := by rw [Call.ticket?, task]
      refine .inr ⟨rfl, .inr ⟨call, inside, rfl, own, rfl, rfl, ?_⟩⟩
      intro ticket same
      cases same
      refine ⟨(sound.owned.waiting inside task).1, ?_⟩
      rw [Exchanges.isAbandoned_quit, if_pos rfl]
    · exact .inl old
  | @conclude call inside wait closed =>
    rcases List.mem_cons.1 member with new | old
    · cases new
      refine .inr ⟨rfl, .inr ⟨call, inside, rfl, (Call.tickets_of_wait _ wait).1, rfl, rfl, ?_⟩⟩
      intro ticket same
      cases same
    · exact .inl old
  | _ => exact .inl (by simpa using member)

/-- A call was there before, or it has just been made. -/
theorem caller_of_change (change : Change wiring act link next) (member : call ∈ next.calls) :
    (∃ before ∈ link.calls, before.number = call.number ∧ before.ticket? = call.ticket?) ∨
      (call.number = link.made ∧
        ∀ ticket, call.ticket? = some ticket → ticket = link.exchanges.length) := by
  have kept {other : Call} (inside : other ∈ link.calls) (same : other = call) :
      ∃ before ∈ link.calls, before.number = call.number ∧ before.ticket? = call.ticket? :=
    ⟨other, inside, by rw [same], by rw [same]⟩
  cases change with
  | send asked active ticket framed =>
    rcases List.mem_append.1 member with inside | new
    · exact .inl (kept inside rfl)
    · rw [List.mem_singleton.1 new]
      exact .inr ⟨rfl, fun other same => (Option.some.inj same).symm.trans ticket⟩
  | await asked wait =>
    rcases List.mem_append.1 member with inside | new
    · exact .inl (kept inside rfl)
    · rw [List.mem_singleton.1 new, (Call.tickets_of_wait _ wait).1]
      exact .inr ⟨rfl, fun other same => nomatch same⟩
  | @enqueue caller _ _ inside was active isOpen room =>
    obtain ⟨other, there, replaced⟩ := List.mem_map.1 member
    by_cases same : other.number = caller.number
    · rw [if_pos same] at replaced
      subst replaced
      exact .inl ⟨caller, inside, rfl, by rw [Call.ticket?, was, Call.ticket?]⟩
    · rw [if_neg same] at replaced
      exact .inl (kept there replaced)
  | abort | finish | conclude => exact .inl (kept (List.mem_filter.1 member).1 rfl)
  | _ => exact .inl (kept member rfl)

/-- Calls that have returned are gone, and no two results are for one call or for one ticket. -/
structure Accounted (link : Link M) : Prop where
  number : ∀ {number : Nat} {ticket? : Option Ticket} {result : Result M},
    .returned number ticket? result ∈ link.history →
      number < link.made ∧ ∀ call ∈ link.calls, call.number ≠ number
  unique : ∀ {number : Nat} {ticket? ticket?' : Option Ticket} {result result' : Result M},
    .returned number ticket? result ∈ link.history →
      .returned number ticket?' result' ∈ link.history → ticket? = ticket?' ∧ result = result'
  gone : ∀ {number : Nat} {ticket : Ticket} {result : Result M},
    .returned number (some ticket) result ∈ link.history →
      ticket < link.exchanges.length ∧ link.exchanges.isAbandoned ticket = true
  one : ∀ {number number' : Nat} {ticket : Ticket} {result result' : Result M},
    .returned number (some ticket) result ∈ link.history →
      .returned number' (some ticket) result' ∈ link.history → number = number'

theorem accounted_fresh : (fresh : Link M).Accounted where
  number member := by simp [fresh] at member
  unique member := by simp [fresh] at member
  gone member := by simp [fresh] at member
  one member := by simp [fresh] at member

/-- A call that has returned is gone, and its number is not given again, so it returns nothing
more. -/
theorem Accounted.before_of_number (accounted : link.Accounted)
    (change : Change wiring act link next) (sound : link.Sound) {ticket? ticket?' : Option Ticket}
    {result result' : Result M} (old : .returned number ticket? result ∈ link.history)
    (new : .returned number ticket?' result' ∈ next.history) :
    .returned number ticket?' result' ∈ link.history := by
  obtain ⟨below, gone⟩ := accounted.number old
  rcases result_of_change change sound new with old' | ⟨-, ⟨rfl, -⟩ | ⟨call, inside, same, -⟩⟩
  · exact old'
  · exact absurd below (Nat.lt_irrefl _)
  · exact absurd same (gone call inside)

/-- The caller of a ticket leaves when its call returns, so no other call returns for the ticket. -/
theorem Accounted.before_of_ticket (accounted : link.Accounted)
    (change : Change wiring act link next) (sound : link.Sound) {number' : Nat} {ticket : Ticket}
    {result result' : Result M} (old : .returned number (some ticket) result ∈ link.history)
    (new : .returned number' (some ticket) result' ∈ next.history) :
    .returned number' (some ticket) result' ∈ link.history := by
  rcases result_of_change change sound new with
    old' | ⟨-, ⟨-, none, -⟩ | ⟨call, inside, -, -, -, -, left⟩⟩
  · exact old'
  · cases none
  · have live := (left ticket rfl).1
    rw [(accounted.gone old).2] at live
    cases live

theorem Accounted.change (change : Change wiring act link next) (sound : link.Sound)
    (accounted : link.Accounted) : next.Accounted := by
  have grows := Grows.of_change change sound.owned
  refine ⟨?_, ?_, ?_, ?_⟩
  · intro number _ _ member
    rcases result_of_change change sound member with
      old | ⟨-, ⟨rfl, -, made, calls⟩ | ⟨call, inside, rfl, -, made, calls, -⟩⟩
    · obtain ⟨below, gone⟩ := accounted.number old
      refine ⟨Nat.lt_of_lt_of_le below grows.made_le, ?_⟩
      intro call inside same
      rcases caller_of_change change inside with ⟨before, there, eq, -⟩ | ⟨new, -⟩
      · exact gone before there (eq.trans same)
      · omega
    -- a message that cannot be sent uses up a number, and no call ever has it
    · rw [made, calls]
      exact ⟨Nat.lt_succ_self _, fun call inside =>
        Nat.ne_of_lt (sound.owned.number_lt call inside)⟩
    · rw [made, calls]
      refine ⟨sound.owned.number_lt call inside, ?_⟩
      intro other there
      simpa using (List.mem_filter.1 there).2
  -- one of two results was there before, or both are the one that the change adds
  · intro number _ _ _ _ member member'
    rcases result_of_change change sound member with old | ⟨new, -⟩
    · exact accounted.unique old (accounted.before_of_number change sound old member')
    · rcases result_of_change change sound member' with old' | ⟨new', -⟩
      · exact accounted.unique (accounted.before_of_number change sound old' member) old'
      · rw [new] at new'
        cases new'
        exact ⟨rfl, rfl⟩
  · intro number ticket result member
    rcases result_of_change change sound member with
      old | ⟨-, ⟨-, none, -⟩ | ⟨call, inside, -, -, -, -, left⟩⟩
    · obtain ⟨below, gone⟩ := accounted.gone old
      exact ⟨Nat.lt_of_lt_of_le below grows.exchanges.length_le,
        grows.exchanges.abandoned _ below gone⟩
    · cases none
    · obtain ⟨live, gone⟩ := left ticket rfl
      exact ⟨Nat.lt_of_lt_of_le (Exchanges.lt_length_of_waiting live) grows.exchanges.length_le,
        gone⟩
  · intro number number' ticket _ _ member member'
    rcases result_of_change change sound member with old | ⟨new, -⟩
    · exact accounted.one old (accounted.before_of_ticket change sound old member')
    · rcases result_of_change change sound member' with old' | ⟨new', -⟩
      · exact accounted.one (accounted.before_of_ticket change sound old' member) old'
      · rw [new] at new'
        cases new'
        rfl

/-- A call that has returned for a ticket has returned the outcome of the exchange, unless none but
a closed link comes to it. -/
def Honest (link : Link M) : Prop :=
  ∀ {number : Nat} {ticket : Ticket} {result : Result M},
    .returned number (some ticket) result ∈ link.history →
      (∃ outcome, link.exchanges.poll ticket = some outcome ∧ result = .ofOutcome outcome) ∨
        ∀ outcome, link.exchanges.poll ticket = some outcome → outcome = .error .closed

theorem honest_fresh : (fresh : Link M).Honest := by
  intro number ticket result member
  simp [fresh] at member

theorem Honest.change (change : Change wiring act link next) (sound : link.Sound)
    (accounted : link.Accounted) (honest : link.Honest) : next.Honest := by
  have grows := Grows.of_change change sound.owned
  intro number ticket result member
  have kept (old : .returned number (some ticket) result ∈ link.history) :
      (∃ outcome, next.exchanges.poll ticket = some outcome ∧ result = .ofOutcome outcome) ∨
        ∀ outcome, next.exchanges.poll ticket = some outcome → outcome = .error .closed := by
    obtain ⟨inside, gone⟩ := accounted.gone old
    refine (honest old).imp ?_ ?_
    · rintro ⟨outcome, seen, rfl⟩
      exact ⟨outcome, grows.exchanges.seen inside seen, rfl⟩
    · intro nothing outcome seen
      rcases outcome_of_change change sound seen with before | given
      · exact nothing outcome before
      · exact given.eq_closed gone
  cases change with
  | aside only wire same => exact kept (only.mem_of_append rfl member)
  | @finish call request handed timer result' first asked inside task returns =>
    rcases List.mem_cons.1 member with new | old
    · cases new
      cases returns with
      | outcome there =>
        refine .inl ⟨_, ?_, rfl⟩
        rw [Exchanges.poll_quit, if_neg (fun lost => nomatch lost.1)]
        exact there
      | turnedAway shut =>
        right
        intro outcome seen
        exact eq_closed_of_quit false (sound.owned.poll_of_line inside task) seen
      | late timed passed nothing =>
        right
        intro outcome seen
        exact eq_closed_of_quit handed (sound.owned.poll_of_late inside task nothing) seen
    · exact kept old
  | _ => exact kept (by simpa using member)

/-! ## Numbers and tickets -/

/-- The call of a number is the one that waits for the ticket, as long as it is there, and the one
that returns for it. -/
structure Belongs (link : Link M) (number : Nat) (ticket : Ticket) : Prop where
  made : number < link.made
  inside : ticket < link.exchanges.length
  calls : ∀ call ∈ link.calls, call.number = number ↔ call.ticket? = some ticket
  returned : ∀ {number' : Nat} {ticket? : Option Ticket} {result : Result M},
    .returned number' ticket? result ∈ link.history →
      (number' = number ↔ ticket? = some ticket)

/-- Calls that wait for one ticket are one call. -/
theorem Owned.eq_of_ticket (owned : link.Owned) (member : call ∈ link.calls)
    (task : call.task = .send request handed timer) (member' : other ∈ link.calls)
    (same : other.ticket? = some request.ticket) : other.number = call.number := by
  -- two calls would be two callers of one ticket, which is counted once
  apply Decidable.byContradiction
  intro differs
  have once := owned.awaited request.ticket
  rw [(owned.callers_perm member task).count_eq, List.count_cons_self] at once
  have twice : request.ticket ∈
      (link.calls.filter fun other => other.number ≠ call.number).filterMap Call.ticket? :=
    List.mem_filterMap.2 ⟨other, List.mem_filter.2 ⟨member', by simpa using differs⟩, same⟩
  have again := List.count_pos_iff.2 twice
  split at once <;> omega

theorem Belongs.of_member (owned : link.Owned) (accounted : link.Accounted)
    (member : call ∈ link.calls) (task : call.task = .send request handed timer) :
    link.Belongs call.number request.ticket := by
  obtain ⟨live, inside⟩ := owned.waiting member task
  refine ⟨owned.number_lt call member, inside, fun other there => ⟨fun same => ?_, fun same => ?_⟩,
    fun returned => ⟨?_, ?_⟩⟩
  · rw [owned.eq_of_number there member same, Call.ticket?, task]
  · exact owned.eq_of_ticket member task there same
  · rintro rfl
    exact absurd rfl ((accounted.number returned).2 call member)
  · rintro rfl
    rw [(accounted.gone returned).2] at live
    cases live

theorem Belongs.change {ticket : Ticket} (change : Change wiring act link next)
    (sound : link.Sound) (belongs : link.Belongs number ticket) : next.Belongs number ticket := by
  have grows := Grows.of_change change sound.owned
  refine ⟨Nat.lt_of_lt_of_le belongs.made grows.made_le,
    Nat.lt_of_lt_of_le belongs.inside grows.exchanges.length_le, ?_, ?_⟩
  · intro call member
    rcases caller_of_change change member with ⟨before, inside, eq, own⟩ | ⟨new, fresh⟩
    · rw [← eq, ← own]
      exact belongs.calls before inside
    · constructor
      · intro same
        exact absurd belongs.made (by omega)
      · intro own
        exact absurd (fresh ticket own) (Nat.ne_of_lt belongs.inside)
  · intro number' ticket? result returned
    rcases result_of_change change sound returned with
      old | ⟨-, ⟨rfl, rfl, -⟩ | ⟨call, inside, rfl, rfl, -⟩⟩
    · exact belongs.returned old
    · refine ⟨?_, fun own => nomatch own⟩
      intro same
      exact absurd belongs.made (by omega)
    · exact belongs.calls call inside

end Multiplex.Link
