import Multiplex.Proofs.Outcomes

/-!
# Requests and what the history knows of them

Every request that is on its way was made from a message, and its key and frame are those of that
message (`Link.Recorded`). It is registered at most once: not before the writer takes it from its
queue, and never again after that.
-/

namespace Multiplex.Link

variable {M : Type}

/-- The request waits with its call, or in the queue, or the writer works on it. -/
inductive Carries (link : Link M) (request : Request) : Prop
  | call {call : Call} {handed : Bool} {timer : Option Timer} (member : call ∈ link.calls)
      (task : call.task = .send request handed timer)
  | queue (member : request ∈ link.queue)
  | writer (working : link.writer.request? = some request)

/-- The tickets of the requests that the writer has not taken yet. -/
def unfiled (link : Link M) : List Ticket :=
  link.queue.map Request.ticket ++ link.calls.filterMap Call.lineTicket?

variable {wiring : Wiring M} {act : Act M} {link next : Link M}

/-! ## Who adds an event to the history -/

theorem prepared_of_change (change : Change wiring act link next) {message : M}
    {request : Request} (member : .prepared message request ∈ next.history) :
    .prepared message request ∈ link.history ∨
      (request.ticket = link.exchanges.length ∧ next.exchanges.length = link.exchanges.length + 1 ∧
        keyedFrame wiring message = .ok (request.key, request.frame) ∧
        next.history = .prepared message request :: link.history) := by
  cases change with
  | aside only wire same => exact .inl (only.mem_of_append rfl member)
  | send asked active ticket framed =>
    rcases List.mem_cons.1 member with new | old
    · cases new
      exact .inr ⟨ticket, by simp, framed, rfl⟩
    · exact .inl old
  | _ => exact .inl (by simpa using member)

theorem registered_of_change (change : Change wiring act link next) {ticket : Ticket}
    {key : String} (member : .registered ticket key ∈ next.history) :
    .registered ticket key ∈ link.history ∨
      ∃ request rest, link.queue = request :: rest ∧ request.ticket = ticket ∧
        request.key = key ∧ next.unfiled = rest.map Request.ticket ++
          link.calls.filterMap Call.lineTicket? := by
  cases change with
  | aside only wire same => exact .inl (only.mem_of_append rfl member)
  | skip active idle first free gone =>
    rcases List.mem_cons.1 (List.mem_of_ne_of_mem (by simp) member) with new | old
    · cases new
      exact .inr ⟨_, _, first, rfl, rfl, rfl⟩
    · exact .inl old
  | register active idle first free live =>
    rcases List.mem_cons.1 member with new | old
    · cases new
      exact .inr ⟨_, _, first, rfl, rfl, rfl⟩
    · exact .inl old
  | _ => exact .inl (by simpa using member)

/-- A result for a ticket is what its call may return at that moment. -/
theorem returned_of_change (change : Change wiring act link next) {number : Nat}
    {ticket : Ticket} {result : Result M}
    (member : .returned number (some ticket) result ∈ next.history) :
    .returned number (some ticket) result ∈ link.history ∨
      ∃ call request handed timer, call ∈ link.calls ∧ call.number = number ∧
        call.task = .send request handed timer ∧ request.ticket = ticket ∧
        Returns link request timer handed result := by
  cases change with
  | aside only wire same => exact .inl (only.mem_of_append rfl member)
  | finish asked inside task returns =>
    rcases List.mem_cons.1 member with new | old
    · cases new
      exact .inr ⟨_, _, _, _, inside, rfl, task, rfl, returns⟩
    · exact .inl old
  | _ => exact .inl (by simpa using member)

/-- A call that sends was there before, perhaps still in line, or it has just been made. -/
theorem call_of_change (change : Change wiring act link next) {call : Call} {request : Request}
    {handed : Bool} {timer : Option Timer} (member : call ∈ next.calls)
    (task : call.task = .send request handed timer) :
    (∃ before handed', before ∈ link.calls ∧ before.number = call.number ∧
        before.task = .send request handed' timer ∧ (handed' = true → handed = true)) ∨
      (call.number = link.made ∧ request.ticket = link.exchanges.length ∧
        ∃ message, .prepared message request ∈ next.history) := by
  have kept {other : Call} (inside : other ∈ link.calls) (same : other = call) :
      ∃ before handed', before ∈ link.calls ∧ before.number = call.number ∧
        before.task = .send request handed' timer ∧ (handed' = true → handed = true) :=
    ⟨call, handed, same ▸ inside, rfl, task, id⟩
  cases change with
  | send asked active ticket framed =>
    rcases List.mem_append.1 member with inside | new
    · exact .inl (kept inside rfl)
    · rw [List.mem_singleton.1 new] at task ⊢
      cases task
      exact .inr ⟨rfl, ticket, _, List.mem_cons_self⟩
  | await asked wait =>
    rcases List.mem_append.1 member with inside | new
    · exact .inl (kept inside rfl)
    · rw [List.mem_singleton.1 new] at task
      rcases wait with rfl | rfl <;> cases task
  | @enqueue caller _ _ inside was active isOpen room =>
    obtain ⟨other, there, replaced⟩ := List.mem_map.1 member
    by_cases same : other.number = caller.number
    · rw [if_pos same] at replaced
      subst replaced
      cases task
      exact .inl ⟨caller, false, inside, rfl, was, fun _ => rfl⟩
    · rw [if_neg same] at replaced
      exact .inl (kept there replaced)
  | abort | finish | conclude => exact .inl (kept (List.mem_filter.1 member).1 rfl)
  | _ => exact .inl (kept member rfl)

/-- A request in the queue was there before, or its call was first in line. -/
theorem queued_of_change (change : Change wiring act link next) {request : Request}
    (member : request ∈ next.queue) :
    request ∈ link.queue ∨ ∃ call ∈ link.calls, ∃ timer, call.task = .send request false timer := by
  cases change with
  | enqueue inside task active isOpen room =>
    rcases List.mem_append.1 member with before | new
    · exact .inl before
    · rw [List.mem_singleton.1 new]
      exact .inr ⟨_, inside, _, task⟩
  | stopWriting | crashWriting => cases member
  | refuse active idle first found live | skip active idle first free gone
  | register active idle first free live =>
    exact .inl (by rw [first]; exact List.mem_cons_of_mem _ member)
  | _ => exact .inl member

theorem working_of_change (change : Change wiring act link next) {request : Request}
    (working : next.writer.request? = some request) :
    link.writer.request? = some request ∨
      (request ∈ link.queue ∧ .registered request.ticket request.key ∈ next.history ∧
        next.table.find? request.key = some request.ticket) := by
  cases change with
  | register active idle first free live =>
    cases working
    exact .inr ⟨by rw [first]; exact List.mem_cons_self, List.mem_cons_self, Table.find?_file⟩
  | accept active writing positive most =>
    rw [writing]
    exact .inl working
  | flush active written =>
    rw [written]
    exact .inl working
  | sent | fail | interrupt | crashWriting | stopWriting | endWriting | crashClosing => cases working
  | _ => exact .inl working

theorem carries_of_change (change : Change wiring act link next) {request : Request}
    (carried : next.Carries request) :
    link.Carries request ∨ ∃ message, .prepared message request ∈ next.history := by
  cases carried with
  | call member task =>
    rcases call_of_change change member task with
      ⟨before, handed, inside, -, was, -⟩ | ⟨-, -, made⟩
    · exact .inl (.call inside was)
    · exact .inr made
  | queue member =>
    rcases queued_of_change change member with before | ⟨call, inside, timer, task⟩
    · exact .inl (.queue before)
    · exact .inl (.call inside task)
  | writer working =>
    rcases working_of_change change working with before | ⟨queued, -⟩
    · exact .inl (.writer before)
    · exact .inl (.queue queued)

/-- A ticket that the writer has not taken was not taken before either, or it is new. -/
theorem unfiled_of_change (change : Change wiring act link next) {ticket : Ticket}
    (member : ticket ∈ next.unfiled) :
    ticket ∈ link.unfiled ∨ ticket = link.exchanges.length := by
  rcases List.mem_append.1 member with queued | line
  · obtain ⟨request, inside, rfl⟩ := List.mem_map.1 queued
    rcases queued_of_change change inside with before | ⟨call, waits, timer, task⟩
    · exact .inl (List.mem_append_left _ (List.mem_map_of_mem before))
    · exact .inl (List.mem_append_right _ (mem_line_iff.2 ⟨call, waits, request, timer, task, rfl⟩))
  · obtain ⟨call, inside, request, timer, task, rfl⟩ := mem_line_iff.1 line
    rcases call_of_change change inside task with
      ⟨before, handed, waits, -, was, le⟩ | ⟨-, ticket, -⟩
    · cases handed with
      | true => exact absurd (le rfl) Bool.false_ne_true
      | false =>
        have line := mem_line_iff.2 ⟨before, waits, request, timer, was, rfl⟩
        exact .inl (List.mem_append_right _ line)
    · exact .inr ticket

theorem unfiled_of_first {request : Request} {rest : List Request}
    (first : link.queue = request :: rest) : request.ticket ∈ link.unfiled := by
  rw [unfiled, first]
  exact List.mem_cons_self

/-- Once the first request has been taken from the queue, its ticket is not held in it any more. -/
theorem Owned.not_mem_rest (owned : link.Owned) {request : Request} {rest : List Request}
    (first : link.queue = request :: rest) :
    request.ticket ∉ rest.map Request.ticket ++ link.calls.filterMap Call.lineTicket? := by
  intro again
  have once := owned.held request.ticket
  rw [holders, first, List.count_append, List.map_cons, List.cons_append,
    List.count_cons_self] at once
  have twice := List.count_pos_iff.2 again
  split at once <;> omega

/-! ## The record of requests -/

/-- The history knows the message of every request, and which of them have been registered. -/
structure Recorded (wiring : Wiring M) (link : Link M) : Prop where
  prepared : ∀ {message : M} {request : Request}, .prepared message request ∈ link.history →
    request.ticket < link.exchanges.length ∧
      keyedFrame wiring message = .ok (request.key, request.frame)
  unique : ∀ {message message' : M} {request request' : Request},
    .prepared message request ∈ link.history → .prepared message' request' ∈ link.history →
      request.ticket = request'.ticket → message = message' ∧ request = request'
  carried : ∀ {request : Request}, link.Carries request →
    ∃ message, .prepared message request ∈ link.history
  registered : ∀ {ticket : Ticket} {key : String}, .registered ticket key ∈ link.history →
    ∃ message request, .prepared message request ∈ link.history ∧ request.ticket = ticket ∧
      request.key = key
  unregistered : ∀ {ticket : Ticket} {key : String}, ticket ∈ link.unfiled →
    .registered ticket key ∉ link.history
  working : ∀ {request : Request}, link.writer.request? = some request →
    .registered request.ticket request.key ∈ link.history

theorem recorded_fresh : Recorded wiring (fresh : Link M) where
  prepared member := by simp [fresh] at member
  unique member := by simp [fresh] at member
  carried carried := by
    rcases carried with ⟨member, _⟩ | member | working
    · cases member
    · cases member
    · cases working
  registered member := by simp [fresh] at member
  unregistered member := by simp [fresh, unfiled] at member
  working working := by cases working

theorem Recorded.change (change : Change wiring act link next) (sound : link.Sound)
    (recorded : link.Recorded wiring) : next.Recorded wiring := by
  have grows := Grows.of_change change sound.owned
  refine ⟨fun member => ?_, fun member member' same => ?_, fun carried => ?_, fun member => ?_,
    fun waits member => ?_, fun working => ?_⟩
  · rcases prepared_of_change change member with old | ⟨ticket, length, framed, -⟩
    · obtain ⟨inside, framed⟩ := recorded.prepared old
      exact ⟨Nat.lt_of_lt_of_le inside grows.exchanges.length_le, framed⟩
    · rw [ticket, length]
      exact ⟨Nat.lt_succ_self _, framed⟩
  -- a new request has a new ticket, which no earlier one has
  · rcases prepared_of_change change member with old | ⟨ticket, -, -, new⟩ <;>
      rcases prepared_of_change change member' with old' | ⟨ticket', -, -, new'⟩
    · exact recorded.unique old old' same
    · exact absurd (same.trans ticket') (Nat.ne_of_lt (recorded.prepared old).1)
    · exact absurd (same.symm.trans ticket) (Nat.ne_of_lt (recorded.prepared old').1)
    · rw [new] at new'
      cases new'
      exact ⟨rfl, rfl⟩
  · rcases carries_of_change change carried with before | made
    · obtain ⟨message, known⟩ := recorded.carried before
      exact ⟨message, grows.mem_history known⟩
    · exact made
  · rcases registered_of_change change member with old | ⟨request, rest, first, rfl, rfl, -⟩
    · obtain ⟨message, request, known, ticket, key⟩ := recorded.registered old
      exact ⟨message, request, grows.mem_history known, ticket, key⟩
    · obtain ⟨message, known⟩ := recorded.carried (.queue (first ▸ List.mem_cons_self))
      exact ⟨message, request, grows.mem_history known, rfl, rfl⟩
  -- what is still to be taken was not taken before, nor is it what the writer has just taken
  · rcases registered_of_change change member with old | ⟨request, rest, first, rfl, rfl, later⟩
    · rcases unfiled_of_change change waits with before | rfl
      · exact recorded.unregistered before old
      · obtain ⟨message, request, known, ticket, -⟩ := recorded.registered old
        exact absurd ticket (Nat.ne_of_lt (recorded.prepared known).1)
    · rw [later] at waits
      exact absurd waits (sound.owned.not_mem_rest first)
  · rcases working_of_change change working with before | ⟨-, registered, -⟩
    · exact grows.mem_history (recorded.working before)
    · exact registered

end Multiplex.Link
