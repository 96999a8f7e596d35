import Multiplex.Proofs.Phases

/-!
# Who holds an entry, and who waits for it

An entry whose caller sees nothing yet is held in exactly one place: by its call, which is still in
line, or in the writer's queue, or in the table. No other entry is held anywhere. A caller who has
not left belongs to exactly one call. Both hold after every run (`sound_of_run`), and with them that
keys in the table are unique, that numbers of calls are, and that what is filed under the key of the
request on which the writer works is that request's own entry.
-/

namespace Multiplex

variable {M : Type}

/-! ## Lists of tickets -/

namespace Exchanges

/-- The tickets, each once, whose entries are held. -/
def Held (exchanges : Exchanges M) (tickets : List Ticket) : Prop :=
  ∀ ticket, tickets.count ticket = if exchanges.poll ticket = none then 1 else 0

/-- The tickets, each once, whose callers have not left. -/
def Awaited (exchanges : Exchanges M) (tickets : List Ticket) : Prop :=
  ∀ ticket, tickets.count ticket = if exchanges.isAbandoned ticket then 0 else 1

variable {exchanges next : Exchanges M} {tickets gone rest : List Ticket} {ticket : Ticket}

theorem Held.perm (held : exchanges.Held tickets) (same : tickets.Perm rest) :
    exchanges.Held rest := by
  intro ticket
  rw [← same.count_eq]
  exact held ticket

theorem Held.mem_iff (held : exchanges.Held tickets) :
    ticket ∈ tickets ↔ exchanges.poll ticket = none := by
  rw [← List.count_pos_iff, held ticket]
  split <;> simp_all

theorem Held.nodup (held : exchanges.Held tickets) : tickets.Nodup := by
  rw [List.nodup_iff_count_le_one]
  intro ticket
  rw [held ticket]
  split <;> omega

theorem Held.congr (held : exchanges.Held tickets)
    (same : ∀ ticket, next.poll ticket = exchanges.poll ticket) : next.Held tickets := by
  intro ticket
  rw [same ticket]
  exact held ticket

/-- Entries that are consumed are no longer held; all others are where they were. -/
theorem Held.consume (gone : List Ticket) (held : exchanges.Held (gone ++ rest))
    (consumed : ∀ ticket ∈ gone, next.poll ticket ≠ none)
    (same : ∀ ticket, ticket ∉ gone → next.poll ticket = exchanges.poll ticket) :
    next.Held rest := by
  intro ticket
  have before := held ticket
  rw [List.count_append] at before
  by_cases member : ticket ∈ gone
  -- it was held once, among those that go, so it is not held among the others
  · have positive := List.count_pos_iff.2 member
    rw [if_neg (consumed ticket member)]
    split at before <;> omega
  · rw [List.count_eq_zero.2 member, Nat.zero_add] at before
    rw [same ticket member]
    exact before

theorem Held.fail (held : exchanges.Held (ticket :: rest)) (error : LinkError) :
    (exchanges.fail ticket error).1.Held rest := by
  refine Held.consume [ticket] held ?_ ?_
  · simp [poll_fail]
  · intro other differs
    rw [poll_fail, if_neg (by simpa using differs)]

theorem Held.resolve (held : exchanges.Held (ticket :: rest)) (message : M) :
    (exchanges.resolve ticket message).1.Held rest := by
  refine Held.consume [ticket] held ?_ ?_
  · simp [poll_resolve]
  · intro other differs
    rw [poll_resolve, if_neg (by simpa using differs)]

theorem Held.drop (held : exchanges.Held (ticket :: rest)) : (exchanges.drop ticket).Held rest := by
  refine Held.consume [ticket] held ?_ ?_
  · intro other member
    rw [List.mem_singleton.1 member, poll_drop]
    split <;> simp_all
  · intro other differs
    rw [poll_drop, if_neg (by simp_all)]

theorem Held.closeAll (held : exchanges.Held (gone ++ rest)) :
    (exchanges.closeAll gone).Held rest := by
  refine Held.consume gone held ?_ ?_
  · intro ticket member
    simp [poll_closeAll, member]
  · intro ticket outside
    simp [poll_closeAll, outside]

theorem Held.dropAll (held : exchanges.Held (gone ++ rest)) :
    (exchanges.dropAll gone).Held rest := by
  refine Held.consume gone held ?_ ?_
  · intro ticket member
    rw [poll_dropAll]
    split <;> simp_all
  · intro ticket outside
    simp [poll_dropAll, outside]

theorem Held.fresh (held : exchanges.Held tickets) :
    (exchanges ++ [Exchange.fresh] : Exchanges M).Held (exchanges.length :: tickets) := by
  intro ticket
  rw [List.count_cons, held ticket, poll_append_fresh]
  by_cases new : ticket = exchanges.length
  · subst new
    have outside : exchanges.poll exchanges.length ≠ none := fun inside =>
      Nat.lt_irrefl _ (lt_length_of_poll inside)
    simp [outside]
  · simp [new, Ne.symm new]

/-- The entry under a key is consumed with its place in the table. -/
theorem Held.vacate {table : Table} (unique : table.UniqueKeys) (key : String)
    (held : exchanges.Held (table.slots.map Prod.snd ++ rest)) :
    (exchanges.vacate table key).Held ((table.erase key).slots.map Prod.snd ++ rest) := by
  unfold Exchanges.vacate
  cases found : table.find? key with
  | none =>
    rw [Table.erase_eq_self found]
    exact held
  | some holder =>
    have split := ((Table.perm_erase unique found).map Prod.snd).append_right rest
    exact (held.perm split).drop

theorem Held.failAt {table : Table} (unique : table.UniqueKeys) (key : String)
    (error : LinkError) (held : exchanges.Held (table.slots.map Prod.snd ++ rest)) :
    (exchanges.failAt table key error).Held ((table.erase key).slots.map Prod.snd ++ rest) := by
  unfold Exchanges.failAt
  cases found : table.find? key with
  | none =>
    rw [Table.erase_eq_self found]
    exact held
  | some holder =>
    have split := ((Table.perm_erase unique found).map Prod.snd).append_right rest
    exact (held.perm split).fail error

theorem Held.leave (held : exchanges.Held tickets) (ticket : Ticket) :
    (exchanges.leave ticket).Held tickets :=
  held.congr fun other => poll_leave exchanges ticket other

theorem Awaited.perm (awaited : exchanges.Awaited tickets) (same : tickets.Perm rest) :
    exchanges.Awaited rest := by
  intro ticket
  rw [← same.count_eq]
  exact awaited ticket

theorem Awaited.mem_iff (awaited : exchanges.Awaited tickets) :
    ticket ∈ tickets ↔ exchanges.isAbandoned ticket = false := by
  rw [← List.count_pos_iff, awaited ticket]
  split <;> simp_all

theorem Awaited.nodup (awaited : exchanges.Awaited tickets) : tickets.Nodup := by
  rw [List.nodup_iff_count_le_one]
  intro ticket
  rw [awaited ticket]
  split <;> omega

theorem Awaited.congr (awaited : exchanges.Awaited tickets)
    (same : ∀ ticket, next.isAbandoned ticket = exchanges.isAbandoned ticket) :
    next.Awaited tickets := by
  intro ticket
  rw [same ticket]
  exact awaited ticket

theorem Awaited.quit (awaited : exchanges.Awaited (ticket :: rest)) (handed : Bool) :
    (exchanges.quit ticket handed).Awaited rest := by
  intro other
  have before := awaited other
  rw [List.count_cons] at before
  rw [isAbandoned_quit]
  by_cases same : other = ticket
  · subst same
    rw [if_pos rfl, if_pos rfl]
    rw [beq_self_eq_true, if_pos rfl] at before
    split at before <;> omega
  · rw [if_neg same]
    simpa [Ne.symm same] using before

theorem Awaited.fresh (awaited : exchanges.Awaited tickets) :
    (exchanges ++ [Exchange.fresh] : Exchanges M).Awaited (exchanges.length :: tickets) := by
  intro ticket
  rw [List.count_cons, awaited ticket, isAbandoned_append_fresh]
  by_cases new : ticket = exchanges.length
  · subst new
    have outside : exchanges.isAbandoned exchanges.length = true := by
      rw [← Bool.not_eq_false]
      exact fun inside => Nat.lt_irrefl _ (lt_length_of_waiting inside)
    simp [outside]
  · simp [new, Ne.symm new]

end Exchanges

/-! ## The holders and the callers of a link -/

/-- The ticket whose entry a call itself holds, as it does while it is in line. -/
def Call.lineTicket? (call : Call) : Option Ticket :=
  match call.task with
  | .send request false _ => some request.ticket
  | _ => none

theorem Call.tickets_of_wait (call : Call) (wait : call.task = .close ∨ call.task = .watch) :
    call.ticket? = none ∧ call.lineTicket? = none := by
  rcases wait with task | task <;> exact ⟨by rw [ticket?, task], by rw [lineTicket?, task]⟩

namespace Link

/-- The tickets of the entries in the table, in the queue, and with calls in line. -/
def holders (link : Link M) : List Ticket :=
  link.table.slots.map Prod.snd ++
    (link.queue.map Request.ticket ++ link.calls.filterMap Call.lineTicket?)

/-- The tickets whose outcome some call waits for. -/
def callers (link : Link M) : List Ticket :=
  link.calls.filterMap Call.ticket?

/-- Every entry has one holder until it is consumed, and one caller until that has left. -/
structure Owned (link : Link M) : Prop where
  uniqueKeys : link.table.UniqueKeys
  held : link.exchanges.Held link.holders
  awaited : link.exchanges.Awaited link.callers
  numbers : (link.calls.map Call.number).Nodup
  number_lt : ∀ call ∈ link.calls, call.number < link.made
  ownEntry : ∀ request holder, link.writer.request? = some request →
    link.table.find? request.key = some holder → holder = request.ticket

theorem owned_fresh : (fresh : Link M).Owned := by
  constructor
  · exact List.nodup_nil
  · intro ticket
    simp [fresh, holders, Table.empty, Exchanges.poll]
  · intro ticket
    simp [fresh, callers, Exchanges.isAbandoned]
  · exact List.nodup_nil
  · simp [fresh]
  · intro request holder working
    cases working

variable {wiring : Wiring M} {act : Act M} {link next : Link M}

/-! ### Calls that go -/

section Calls

variable {call : Call} {request : Request} {handed : Bool} {timer : Option Timer}

theorem Owned.perm_calls (owned : link.Owned) (member : call ∈ link.calls) :
    link.calls.Perm (call :: link.calls.filter fun other => other.number ≠ call.number) :=
  perm_cons_filter_ne owned.numbers member

theorem Owned.callers_perm (owned : link.Owned) (member : call ∈ link.calls)
    (task : call.task = .send request handed timer) :
    link.callers.Perm (request.ticket ::
      (link.calls.filter fun other => other.number ≠ call.number).filterMap Call.ticket?) := by
  have split := (owned.perm_calls member).filterMap Call.ticket?
  rwa [List.filterMap_cons_some (by rw [Call.ticket?, task])] at split

theorem Owned.callers_perm_of_wait (owned : link.Owned) (member : call ∈ link.calls)
    (wait : call.task = .close ∨ call.task = .watch) :
    link.callers.Perm
      ((link.calls.filter fun other => other.number ≠ call.number).filterMap Call.ticket?) := by
  have split := (owned.perm_calls member).filterMap Call.ticket?
  rwa [List.filterMap_cons_none (Call.tickets_of_wait _ wait).1] at split

/-- The places of all entries once a call in line has gone, its own before them. -/
theorem Owned.holders_perm (owned : link.Owned) (member : call ∈ link.calls)
    (task : call.task = .send request false timer) :
    link.holders.Perm (request.ticket :: (link.table.slots.map Prod.snd ++
      (link.queue.map Request.ticket ++
        (link.calls.filter fun other => other.number ≠ call.number).filterMap
          Call.lineTicket?))) := by
  have split := (owned.perm_calls member).filterMap Call.lineTicket?
  rw [List.filterMap_cons_some (by rw [Call.lineTicket?, task])] at split
  apply ((split.append_left _).append_left _).trans
  rw [← List.append_assoc, ← List.append_assoc]
  exact List.perm_middle

theorem Owned.holders_perm_of_none (owned : link.Owned) (member : call ∈ link.calls)
    (none : call.lineTicket? = none) :
    link.holders.Perm (link.table.slots.map Prod.snd ++ (link.queue.map Request.ticket ++
      (link.calls.filter fun other => other.number ≠ call.number).filterMap
        Call.lineTicket?)) := by
  have split := (owned.perm_calls member).filterMap Call.lineTicket?
  rw [List.filterMap_cons_none none] at split
  exact (split.append_left _).append_left _

/-- The places of all entries once the one under a key has gone, that one before them. -/
theorem Owned.holders_perm_erase (owned : link.Owned) {key : String} {holder : Ticket}
    (found : link.table.find? key = some holder) :
    link.holders.Perm (holder :: ((link.table.erase key).slots.map Prod.snd ++
      (link.queue.map Request.ticket ++ link.calls.filterMap Call.lineTicket?))) :=
  ((Table.perm_erase owned.uniqueKeys found).map Prod.snd).append_right _

/-- The places of all entries, those in the queue before the others. -/
theorem holders_perm_queue (link : Link M) :
    link.holders.Perm (link.queue.map Request.ticket ++ (link.table.slots.map Prod.snd ++
      link.calls.filterMap Call.lineTicket?)) := by
  rw [holders, ← List.append_assoc, ← List.append_assoc]
  exact List.perm_append_comm.append_right _

/-- The entries that are held after the caller of a call has left. -/
theorem Owned.held_quit (owned : link.Owned) (member : call ∈ link.calls)
    (task : call.task = .send request handed timer) :
    (link.exchanges.quit request.ticket handed).Held (link.table.slots.map Prod.snd ++
      (link.queue.map Request.ticket ++
        (link.calls.filter fun other => other.number ≠ call.number).filterMap
          Call.lineTicket?)) := by
  cases handed with
  | true =>
    have none : call.lineTicket? = none := by rw [Call.lineTicket?, task]
    exact (owned.held.perm (owned.holders_perm_of_none member none)).leave request.ticket
  | false =>
    have left := owned.held.perm (owned.holders_perm member task)
    exact (left.leave request.ticket).drop

theorem Owned.numbers_filter (owned : link.Owned) (number : Nat) :
    ((link.calls.filter fun other => other.number ≠ number).map Call.number).Nodup :=
  (List.filter_sublist.map Call.number).nodup owned.numbers

/-- The calls once one of them has got another task. -/
theorem Owned.perm_replaced (owned : link.Owned) (member : call ∈ link.calls) (task : Task) :
    (link.calls.map fun other =>
        if other.number = call.number then { call with task } else other).Perm
      ({ call with task } :: link.calls.filter fun other => other.number ≠ call.number) := by
  have split := (owned.perm_calls member).map fun other =>
    if other.number = call.number then { call with task } else other
  rw [List.map_cons, if_pos rfl] at split
  have kept : (link.calls.filter fun other => other.number ≠ call.number).map
      (fun other => if other.number = call.number then { call with task } else other) =
        link.calls.filter fun other => other.number ≠ call.number := by
    rw [List.map_congr_left (g := id), List.map_id]
    intro other inside
    have differs : other.number ≠ call.number := by simpa using (List.mem_filter.1 inside).2
    rw [if_neg differs, id]
  rwa [kept] at split

end Calls

theorem numbers_append (numbers : (link.calls.map Call.number).Nodup)
    (below : ∀ call ∈ link.calls, call.number < link.made) (task : Task) :
    ((link.calls ++ [(⟨link.made, task⟩ : Call)]).map Call.number).Nodup := by
  rw [List.map_append, List.nodup_append]
  refine ⟨numbers, List.nodup_singleton _, ?_⟩
  intro number member other last same
  obtain ⟨call, inside, rfl⟩ := List.mem_map.1 member
  have small := below call inside
  rw [List.map_singleton, List.mem_singleton] at last
  subst last
  exact Nat.ne_of_lt small same

theorem number_lt_append (below : ∀ call ∈ link.calls, call.number < link.made) (task : Task) :
    ∀ call ∈ link.calls ++ [(⟨link.made, task⟩ : Call)], call.number < link.made + 1 := by
  intro call member
  rcases List.mem_append.1 member with inside | last
  · exact Nat.lt_succ_of_lt (below call inside)
  · rw [List.mem_singleton.1 last]
    exact Nat.lt_succ_self _

/-! ### Preservation -/

/-- No entry but its own is under the key of the writer's request after others were taken out. -/
theorem Owned.ownEntry_erase (owned : link.Owned) (key : String) (request : Request)
    (holder : Ticket) (working : link.writer.request? = some request)
    (found : (link.table.erase key).find? request.key = some holder) :
    holder = request.ticket := by
  rw [Table.find?_erase] at found
  split at found
  · cases found
  · exact owned.ownEntry request holder working found

theorem Owned.change (change : Change wiring act link next) (owned : link.Owned) :
    next.Owned := by
  obtain ⟨unique, held, awaited, numbers, below, own⟩ := id owned
  have idle {writer : Writer} (none : writer.request? = none) (table : Table) :
      ∀ request holder, writer.request? = some request →
        table.find? request.key = some holder → holder = request.ticket := by
    intro request holder working
    rw [none] at working
    cases working
  cases change with
  | drain active =>
    -- the table is emptied, and every entry that was in it is failed
    refine ⟨Table.uniqueKeys_empty true, held.closeAll, ?_, numbers, below, ?_⟩
    · exact awaited.congr fun _ => Exchanges.isAbandoned_closeAll _ _ _
    · intro request holder _ found
      cases found
  | send asked active ticket framed =>
    refine ⟨unique, ?_, ?_, ?_, ?_, own⟩
    -- a new entry is held by its call, which is in line, and by nobody else
    · have fresh := held.fresh
      rw [← ticket] at fresh
      apply fresh.perm
      simp only [holders, List.filterMap_append, List.filterMap_cons, List.filterMap_nil,
        Call.lineTicket?, ← List.append_assoc]
      exact (List.perm_append_singleton _ _).symm
    · have fresh := awaited.fresh
      rw [← ticket] at fresh
      apply fresh.perm
      simp only [callers, List.filterMap_append, List.filterMap_cons, List.filterMap_nil,
        Call.ticket?]
      exact (List.perm_append_singleton _ _).symm
    · exact numbers_append numbers below _
    · exact number_lt_append below _
  | @await task asked wait =>
    have silent := Call.tickets_of_wait ⟨link.made, task⟩ wait
    refine ⟨unique, ?_, ?_, numbers_append numbers below _, number_lt_append below _, own⟩
    · simpa [holders, List.filterMap_append, silent.2] using held
    · simpa [callers, List.filterMap_append, silent.1] using awaited
  | reject asked =>
    exact ⟨unique, held, awaited, numbers,
      fun call member => Nat.lt_succ_of_lt (below call member), own⟩
  | @abort call asked member =>
    refine ⟨unique, ?_, ?_, owned.numbers_filter _,
      fun other inside => below other (List.mem_filter.1 inside).1, own⟩
    · cases task : call.task with
      | send request handed timer => exact owned.held_quit member task
      | close =>
        exact held.perm (owned.holders_perm_of_none member (by rw [Call.lineTicket?, task]))
      | watch =>
        exact held.perm (owned.holders_perm_of_none member (by rw [Call.lineTicket?, task]))
    · cases task : call.task with
      | send request handed timer =>
        exact (awaited.perm (owned.callers_perm member task)).quit handed
      | close => exact awaited.perm (owned.callers_perm_of_wait member (.inl task))
      | watch => exact awaited.perm (owned.callers_perm_of_wait member (.inr task))
  | finish asked member task returns =>
    exact ⟨unique, owned.held_quit member task,
      (awaited.perm (owned.callers_perm member task)).quit _, owned.numbers_filter _,
      fun other inside => below other (List.mem_filter.1 inside).1, own⟩
  | conclude member wait closed =>
    have none := (Call.tickets_of_wait _ wait).2
    exact ⟨unique, held.perm (owned.holders_perm_of_none member none),
      awaited.perm (owned.callers_perm_of_wait member wait), owned.numbers_filter _,
      fun other inside => below other (List.mem_filter.1 inside).1, own⟩
  | @enqueue call request timer member task active isOpen room =>
    have replaced := owned.perm_replaced member (.send request true timer)
    refine ⟨unique, held.perm ?_, awaited.perm ?_, ?_, ?_, own⟩
    -- the entry passes from the call to the queue: the same tickets in another order
    · apply (owned.holders_perm member task).trans
      have line := replaced.filterMap Call.lineTicket?
      rw [List.filterMap_cons_none (by rw [Call.lineTicket?])] at line
      apply List.perm_iff_count.2
      intro ticket
      have same := line.count_eq ticket
      simp only [holders, List.map_append, List.map_cons, List.map_nil, List.count_append,
        List.count_cons, List.count_nil] at same ⊢
      omega
    · apply (owned.callers_perm member task).trans
      have waiting := replaced.filterMap Call.ticket?
      rw [List.filterMap_cons_some (by rw [Call.ticket?])] at waiting
      exact waiting.symm
    · have same := replaced.map Call.number
      exact same.symm.nodup ((owned.perm_calls member).map Call.number |>.nodup numbers)
    · intro other inside
      rcases List.mem_cons.1 (replaced.mem_iff.1 inside) with rfl | kept
      · exact below call member
      · exact below other (List.mem_filter.1 kept).1
  | withdraw found gone =>
    exact ⟨unique.erase _, (held.perm (owned.holders_perm_erase found)).drop,
      awaited.congr fun _ => Exchanges.isAbandoned_drop _ _ _, numbers, below,
      owned.ownEntry_erase _⟩
  | claimed active running read derived found live =>
    exact ⟨unique.erase _, (held.perm (owned.holders_perm_erase found)).resolve _,
      awaited.congr fun _ => Exchanges.isAbandoned_resolve _ _ _ _, numbers, below,
      owned.ownEntry_erase _⟩
  | late active running read derived found gone =>
    exact ⟨unique.erase _, (held.perm (owned.holders_perm_erase found)).resolve _,
      awaited.congr fun _ => Exchanges.isAbandoned_resolve _ _ _ _, numbers, below,
      owned.ownEntry_erase _⟩
  | stopWriting inactive waits =>
    -- what is left in the queue is failed, and its entries are held nowhere after that
    exact ⟨unique, (held.perm link.holders_perm_queue).closeAll,
      awaited.congr fun _ => Exchanges.isAbandoned_closeAll _ _ _, numbers, below, idle rfl _⟩
  | crashWriting active working =>
    -- the queue goes with the writer, and every entry in it is dropped
    exact ⟨unique, (held.perm link.holders_perm_queue).dropAll,
      awaited.congr fun _ => Exchanges.isAbandoned_dropAll _ _ _, numbers, below, idle rfl _⟩
  | @refuse request rest holder active waits first found live =>
    -- the entry of the refused request was in the queue, and is held nowhere now
    refine ⟨unique, ?_, awaited.congr fun _ => Exchanges.isAbandoned_fail _ _ _ _, numbers, below,
      own⟩
    rw [holders, first] at held
    exact (held.perm List.perm_middle).fail _
  | @skip request rest active waits first free gone =>
    -- the entry goes into the table and out again, and what was under its key is gone too
    refine ⟨unique.erase _, ?_, ?_, numbers, below, owned.ownEntry_erase _⟩
    · rw [holders, first] at held
      exact ((held.vacate unique request.key).perm List.perm_middle).drop
    · exact awaited.congr fun _ =>
        (Exchanges.isAbandoned_drop _ _ _).trans (Exchanges.isAbandoned_vacate _ _ _ _)
  | @register request rest active waits first free live =>
    refine ⟨unique.file _ _, ?_, awaited.congr fun _ => Exchanges.isAbandoned_vacate _ _ _ _,
      numbers, below, ?_⟩
    · rw [holders, first] at held
      exact (held.vacate unique request.key).perm List.perm_middle
    -- the request that the writer begins with is the one whose entry has just been filed
    · intro other holder working found
      cases working
      rw [Table.find?_file] at found
      cases found
      rfl
  | fail active working =>
    exact ⟨unique.erase _, held.failAt unique _ _,
      awaited.congr fun _ => Exchanges.isAbandoned_failAt _ _ _ _ _, numbers, below, idle rfl _⟩
  | interrupt inactive working =>
    exact ⟨unique.erase _, held.failAt unique _ _,
      awaited.congr fun _ => Exchanges.isAbandoned_failAt _ _ _ _ _, numbers, below, idle rfl _⟩
  | accept active writing positive most =>
    refine ⟨unique, held, awaited, numbers, below, ?_⟩
    intro request holder working found
    exact own request holder (by rw [writing]; exact working) found
  | flush active written =>
    refine ⟨unique, held, awaited, numbers, below, ?_⟩
    intro request holder working found
    exact own request holder (by rw [written]; exact working) found
  | sent active flushing => exact ⟨unique, held, awaited, numbers, below, idle rfl _⟩
  | endWriting closing quiet => exact ⟨unique, held, awaited, numbers, below, idle rfl _⟩
  | crashClosing closing => exact ⟨unique, held, awaited, numbers, below, idle rfl _⟩
  | _ => exact ⟨unique, held, awaited, numbers, below, own⟩

/-! ### Runs -/

/-- The link is as every run leaves it. -/
structure Sound (link : Link M) : Prop where
  phased : link.Phased
  owned : link.Owned

theorem sound_fresh : (fresh : Link M).Sound :=
  ⟨phased_fresh, owned_fresh⟩

theorem Sound.change (change : Change wiring act link next) (sound : link.Sound) : next.Sound :=
  ⟨sound.phased.change change, sound.owned.change change⟩

theorem Sound.after (h : act? wiring link act = some next) (sound : link.Sound) : next.Sound :=
  (act?_changes sound.phased.synced h).keeps Sound.change sound

theorem Sound.follow {acts : List (Act M)} {final : Link M}
    (run : follow? wiring link acts = some final) (sound : link.Sound) : final.Sound :=
  follow?_invariant Sound.after run sound

theorem sound_of_run {acts : List (Act M)} {final : Link M}
    (run : follow? wiring fresh acts = some final) : final.Sound :=
  sound_fresh.follow run

/-- What every elementary change of a sound link keeps, every act keeps. -/
theorem Sound.keeps {motive : Link M → Prop} (sound : link.Sound)
    (keeps : ∀ {link next : Link M}, Change wiring act link next → link.Sound → motive link →
      motive next) (h : act? wiring link act = some next) (holds : motive link) : motive next :=
  ((act?_changes sound.phased.synced h).keeps (motive := fun link => link.Sound ∧ motive link)
    (fun change both => ⟨both.1.change change, keeps change both.1 both.2⟩)
    ⟨sound, holds⟩).2

/-- What every elementary change of a sound link keeps, every run keeps. -/
theorem Sound.follow_keeps {motive : Link M → Prop} {acts : List (Act M)} {final : Link M}
    (sound : link.Sound)
    (keeps : ∀ {act : Act M} {link next : Link M}, Change wiring act link next → link.Sound →
      motive link → motive next)
    (run : follow? wiring link acts = some final) (holds : motive link) : motive final :=
  (follow?_invariant (motive := fun link => link.Sound ∧ motive link)
    (fun h both => ⟨both.1.after h, both.1.keeps keeps h both.2⟩) run ⟨sound, holds⟩).2

end Link

end Multiplex
