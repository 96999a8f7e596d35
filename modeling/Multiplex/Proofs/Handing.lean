import Multiplex.Proofs.Consistent

/-!
# The order in which requests are handed over

Every request is handed over to the writer at most once (`Link.Lined`). When a place in the queue
always goes to the call that is first in line, requests are handed over in the order in which they
were made (`Link.ascending_of_fair`).
-/

namespace Multiplex

variable {M : Type}

/-- The ticket that an event puts into the writer's queue. -/
def Event.queued? : Event M → Option Ticket
  | .queued ticket => some ticket
  | _ => none

/-- The tickets of the requests that have been handed over to the writer, in order. -/
def handedOver (history : List (Event M)) : List Ticket :=
  (history.filterMap Event.queued?).reverse

theorem handedOver_append (new history : List (Event M)) :
    handedOver (new ++ history) = handedOver history ++ handedOver new := by
  rw [handedOver, List.filterMap_append, List.reverse_append, handedOver, handedOver]

/-- Events that put nothing into the queue. -/
theorem handedOver_of_quiet (events : List (Event M))
    (quiet : ∀ event ∈ events, event.queued? = none) (history : List (Event M)) :
    handedOver (events ++ history) = handedOver history := by
  have none : handedOver events = [] := by
    rw [handedOver, List.reverse_eq_nil_iff, List.filterMap_eq_nil_iff]
    exact quiet
  rw [handedOver_append, none, List.append_nil]

theorem Remarks.handedOver {remarks : List (Event M)} (only : Remarks remarks)
    (history : List (Event M)) :
    Multiplex.handedOver (remarks ++ history) = Multiplex.handedOver history := by
  apply handedOver_of_quiet remarks
  intro event member
  have remark := only event member
  cases event with
  | queued ticket => cases remark
  | _ => rfl

/-- The call whose turn it is to hand its request over. -/
def Act.favoured? : Act M → Option Nat
  | .turn number true => some number
  | _ => none

namespace Link

/-- The tickets of the requests that wait for a place in the queue, in the order of their calls. -/
def line (link : Link M) : List Ticket :=
  link.calls.filterMap Call.lineTicket?

variable {wiring : Wiring M} {act : Act M} {acts : List (Act M)} {link next final : Link M}

/-- A call that hands its request over leaves the line. -/
theorem line_replaced (calls : List Call) (call : Call) (request : Request)
    (timer : Option Timer) :
    ((calls.map fun other => if other.number = call.number then
        { call with task := .send request true timer } else other).filterMap Call.lineTicket?) =
      (calls.filter fun other => other.number ≠ call.number).filterMap Call.lineTicket? := by
  induction calls with
  | nil => rfl
  | cons other rest ih =>
    by_cases same : other.number = call.number
    · rw [List.map_cons, if_pos same, List.filterMap_cons_none rfl, ih,
        List.filter_cons_of_neg (by simpa using same)]
    · rw [List.map_cons, if_neg same, List.filter_cons_of_pos (by simpa using same),
        List.filterMap_cons, List.filterMap_cons, ih]

/-- What a change does to the requests that are to be handed over. -/
inductive HandsOver (act : Act M) (link next : Link M) : Prop
  /-- None is handed over, and none is added. -/
  | nothing (same : handedOver next.history = handedOver link.history)
      (line : next.line.Sublist link.line)
  /-- A new request comes last. -/
  | joins (same : handedOver next.history = handedOver link.history)
      (line : next.line = link.line ++ [link.exchanges.length])
      (length : next.exchanges.length = link.exchanges.length + 1)
  /-- The call whose turn it is hands its request over. -/
  | hands {call : Call} {request : Request} {timer : Option Timer}
      (asked : act = .turn call.number true) (member : call ∈ link.calls)
      (task : call.task = .send request false timer)
      (more : handedOver next.history = handedOver link.history ++ [request.ticket])
      (line : next.line =
        (link.calls.filter fun other => other.number ≠ call.number).filterMap Call.lineTicket?)

theorem handsOver_of_change (change : Change wiring act link next) : HandsOver act link next := by
  have quiet (event : Event M) (none : event.queued? = none) :
      handedOver (event :: link.history) = handedOver link.history :=
    handedOver_of_quiet [event] (by simpa using none) _
  have filtered (call : Call) :
      ((link.calls.filter fun other => other.number ≠ call.number).filterMap
        Call.lineTicket?).Sublist link.line :=
    List.filter_sublist.filterMap _
  cases change with
  | aside only => exact .nothing (only.handedOver _) (List.Sublist.refl _)
  | send asked active ticket =>
    refine .joins (quiet _ rfl) ?_ (by simp)
    rw [line, List.filterMap_append, ← ticket]
    rfl
  | @await task asked wait =>
    have none := (Call.tickets_of_wait ⟨link.made, task⟩ wait).2
    refine .nothing rfl ?_
    rw [line, List.filterMap_append, List.filterMap_cons_none none]
    simp [line]
  | enqueue member task active isOpen room asked =>
    exact .hands asked member task (handedOver_append [_] _) (line_replaced _ _ _ _)
  | abort => exact .nothing rfl (filtered _)
  | finish | conclude => exact .nothing (quiet _ rfl) (filtered _)
  | drain | issue | reject | undecoded | unclaimed | late | refuse | register | sent | fail =>
    exact .nothing (quiet _ rfl) (List.Sublist.refl _)
  | claimed | skip =>
    exact .nothing (handedOver_of_quiet [_, _] (by simp [Event.queued?]) _)
      (List.Sublist.refl _)
  | _ => exact .nothing rfl (List.Sublist.refl _)

/-- Every request is handed over once at most, and not while it is still in line. -/
structure Lined (link : Link M) : Prop where
  once : (handedOver link.history).Nodup
  inside : ∀ ticket ∈ handedOver link.history, ticket < link.exchanges.length
  apart : ∀ ticket ∈ handedOver link.history, ticket ∉ link.line

theorem lined_fresh : (fresh : Link M).Lined := by
  constructor
  · exact List.nodup_nil
  · intro ticket member
    cases member
  · intro ticket member
    cases member

theorem Lined.change (change : Change wiring act link next) (sound : link.Sound)
    (lined : link.Lined) : next.Lined := by
  have length := (Grows.of_change change sound.owned).exchanges.length_le
  obtain ⟨once, inside, apart⟩ := lined
  cases handsOver_of_change change with
  | nothing same line =>
    rw [← same] at once inside apart
    exact ⟨once, fun ticket member => Nat.lt_of_lt_of_le (inside ticket member) length,
      fun ticket member waits => apart ticket member (line.subset waits)⟩
  | joins same line =>
    rw [← same] at once inside apart
    refine ⟨once, fun ticket member => Nat.lt_of_lt_of_le (inside ticket member) length, ?_⟩
    intro ticket member waits
    rw [line, List.mem_append, List.mem_singleton] at waits
    rcases waits with before | rfl
    · exact apart ticket member before
    · exact Nat.lt_irrefl _ (inside _ member)
  | @hands call request timer asked member task more line =>
    have waits : request.ticket ∈ link.line :=
      mem_line_iff.2 ⟨call, member, request, timer, task, rfl⟩
    have fresh : request.ticket ∉ handedOver link.history := fun before => apart _ before waits
    refine ⟨?_, ?_, ?_⟩
    · rw [more]
      exact List.nodup_append.2 ⟨once, List.nodup_singleton _, fun other before ticket last same =>
        fresh (List.mem_singleton.1 last ▸ same ▸ before)⟩
    · intro ticket handed
      rw [more, List.mem_append, List.mem_singleton] at handed
      apply Nat.lt_of_lt_of_le _ length
      rcases handed with before | rfl
      · exact inside ticket before
      · exact (sound.owned.waiting member task).2
    · intro ticket handed waits'
      rw [more, List.mem_append, List.mem_singleton] at handed
      rw [line] at waits'
      rcases handed with before | rfl
      · exact apart ticket before ((List.filter_sublist.filterMap _).subset waits')
      -- two calls in line with one ticket would be one call
      · obtain ⟨other, there, request', timer', task', same⟩ := mem_line_iff.1 waits'
        obtain ⟨there, differs⟩ := List.mem_filter.1 there
        have own : other.ticket? = some request.ticket := by
          rw [← same, Call.ticket?, task']
        rw [sound.owned.eq_of_ticket member task there own] at differs
        simp at differs

/-! ## A fair queue -/

/-- In this run, from this link on, a place in the queue goes only to the call that is first in
line. -/
def Fair (wiring : Wiring M) : Link M → List (Act M) → Prop
  | _, [] => True
  | link, act :: rest =>
    (∀ number ∈ act.favoured?, link.next? = some number) ∧
      ∀ next ∈ act? wiring link act, Fair wiring next rest

instance decidableFair (wiring : Wiring M) :
    ∀ (link : Link M) (acts : List (Act M)), Decidable (Fair wiring link acts)
  | _, [] => .isTrue trivial
  | link, act :: rest =>
    have (next : Link M) : Decidable (Fair wiring next rest) := decidableFair wiring next rest
    inferInstanceAs (Decidable ((∀ number ∈ act.favoured?, link.next? = some number) ∧
      ∀ next ∈ act? wiring link act, Fair wiring next rest))

theorem fair_append {before later : List (Act M)} {mid : Link M}
    (run : follow? wiring link before = some mid) :
    Fair wiring link (before ++ later) ↔ Fair wiring link before ∧ Fair wiring mid later := by
  induction before generalizing link with
  | nil =>
    cases run
    exact ⟨fun fair => ⟨trivial, fair⟩, And.right⟩
  | cons act rest ih =>
    obtain ⟨next, moved, onward⟩ := follow?_cons.1 run
    simp only [List.cons_append, Fair, moved, Option.mem_some_iff, forall_eq', ih onward, and_assoc]

/-- The requests that have been handed over, followed by those in line, are in the order in which
they were made. -/
structure Ascending (link : Link M) : Prop where
  order : (handedOver link.history ++ link.line).Pairwise (· < ·)
  inside : ∀ ticket ∈ handedOver link.history ++ link.line, ticket < link.exchanges.length

theorem ascending_fresh : (fresh : Link M).Ascending := by
  constructor
  · exact List.Pairwise.nil
  · intro ticket member
    cases member

/-- The request of the call that is first in line comes first. -/
theorem line_of_first {calls : List Call} {call : Call} {request : Request}
    {timer : Option Timer} (found : calls.find? Call.inLine = some call)
    (numbers : (calls.map Call.number).Nodup) (task : call.task = .send request false timer) :
    calls.filterMap Call.lineTicket? = request.ticket ::
      (calls.filter fun other => other.number ≠ call.number).filterMap Call.lineTicket? := by
  induction calls with
  | nil => cases found
  | cons other rest ih =>
    rw [List.map_cons, List.nodup_cons] at numbers
    cases waits : other.inLine with
    | true =>
      rw [List.find?_cons_of_pos waits] at found
      cases found
      have others : (rest.filter fun other => other.number ≠ call.number) = rest := by
        apply List.filter_eq_self.2
        intro other member
        have differs : other.number ≠ call.number := fun same =>
          numbers.1 (same ▸ List.mem_map_of_mem member)
        simpa using differs
      rw [List.filterMap_cons_some (by rw [Call.lineTicket?, task]),
        List.filter_cons_of_neg (by simp), others]
    | false =>
      -- a call that is not in line has no place in the list, whether it is left out or not
      have none : other.lineTicket? = .none := by
        unfold Call.lineTicket?
        split
        · next request timer other =>
          rw [Call.inLine, other] at waits
          cases waits
        · rfl
      rw [List.find?_cons_of_neg (by simp [waits])] at found
      rw [List.filterMap_cons_none none, ih found numbers.2, List.filter_cons]
      split
      · rw [List.filterMap_cons_none none]
      · rfl

/-- If the call whose turn it is, is in line, then it is first. -/
def Leads (act : Act M) (link : Link M) : Prop :=
  ∀ number, act = .turn number true → ∀ call ∈ link.calls, call.number = number →
    call.inLine = true → link.calls.find? Call.inLine = some call

/-- A call of this number, whose turn it is, leaves the line for good. -/
theorem Leads.change (change : Change wiring act link next) (leads : Leads act link) :
    Leads act next := by
  intro number asked call member same waits
  have kept (calls : next.calls = link.calls) : next.calls.find? Call.inLine = some call := by
    rw [calls] at member ⊢
    exact leads number asked call member same waits
  have gone {other : Call} {first : Bool} (asked' : act = .turn other.number first)
      (member : call ∈ link.calls.filter fun another => another.number ≠ other.number) : False := by
    have differs := (List.mem_filter.1 member).2
    rw [asked] at asked'
    cases asked'
    simp [same] at differs
  cases change with
  | send _ _ _ _ origin =>
    obtain ⟨original, given, stan, asked', -⟩ := origin
    rw [asked] at asked'
    cases asked'
  | await asked' wait =>
    rw [asked] at asked'
    cases asked'
  | @enqueue caller request timer inside task active isOpen room asked' =>
    -- it is not in line any more
    rw [asked] at asked'
    cases asked'
    obtain ⟨other, there, replaced⟩ := List.mem_map.1 member
    by_cases own : other.number = caller.number
    · rw [if_pos own] at replaced
      subst replaced
      cases waits
    · rw [if_neg own] at replaced
      subst replaced
      exact absurd same own
  | abort asked' =>
    rw [asked] at asked'
    cases asked'
  | finish asked' => exact (gone asked' member).elim
  | conclude _ _ _ asked' =>
    obtain ⟨first, asked'⟩ := asked'
    exact (gone asked' member).elim
  | _ => exact kept rfl

theorem Ascending.change (change : Change wiring act link next) (sound : link.Sound)
    (leads : Leads act link) (ascending : link.Ascending) : next.Ascending := by
  have length := (Grows.of_change change sound.owned).exchanges.length_le
  obtain ⟨order, inside⟩ := ascending
  cases handsOver_of_change change with
  | nothing same line =>
    have fewer : (handedOver next.history ++ next.line).Sublist
        (handedOver link.history ++ link.line) := by
      rw [same]
      exact (List.Sublist.refl _).append line
    exact ⟨order.sublist fewer, fun ticket member =>
      Nat.lt_of_lt_of_le (inside ticket (fewer.subset member)) length⟩
  | joins same line grown =>
    rw [← same] at order inside
    constructor
    · rw [line, ← List.append_assoc, List.pairwise_append]
      refine ⟨order, List.pairwise_singleton _ _, ?_⟩
      intro ticket member last new
      rw [List.mem_singleton.1 new]
      exact inside ticket member
    · intro ticket member
      rw [line, ← List.append_assoc, List.mem_append, List.mem_singleton] at member
      rw [grown]
      rcases member with before | rfl
      · exact Nat.lt_succ_of_lt (inside ticket before)
      · exact Nat.lt_succ_self _
  | hands asked member task more line =>
    have found := leads _ asked _ member rfl (by rw [Call.inLine, task]; rfl)
    have first := line_of_first found sound.owned.numbers task
    have all : handedOver next.history ++ next.line = handedOver link.history ++ link.line := by
      rw [more, line, Link.line, first, List.append_assoc, List.singleton_append]
    rw [← all] at order inside
    exact ⟨order, fun ticket member => Nat.lt_of_lt_of_le (inside ticket member) length⟩

theorem Ascending.follow (sound : link.Sound) (run : follow? wiring link acts = some final)
    (fair : Fair wiring link acts) (ascending : link.Ascending) : final.Ascending := by
  induction acts generalizing link with
  | nil =>
    cases run
    exact ascending
  | cons act rest ih =>
    obtain ⟨next, moved, later⟩ := follow?_cons.1 run
    obtain ⟨first, fair⟩ := fair
    have leads : Leads act link := by
      intro number asked call member same waits
      have turn := first number (by rw [asked, Act.favoured?]; rfl)
      rw [next?, Option.map_eq_some_iff] at turn
      obtain ⟨other, found, number'⟩ := turn
      have inside := List.mem_of_find?_eq_some found
      rw [sound.owned.eq_of_number member inside (same.trans number'.symm)]
      exact found
    refine ih (sound.after moved) later (fair next moved) ?_
    exact (sound.keeps (motive := fun link => Leads act link ∧ link.Ascending)
      (fun change sound both => ⟨both.1.change change, both.2.change change sound both.1⟩)
      moved ⟨leads, ascending⟩).2

/-- In a fair run requests are handed over in the order in which they were made. -/
theorem ascending_of_fair (run : follow? wiring fresh acts = some link)
    (fair : Fair wiring fresh acts) : (handedOver link.history).Pairwise (· < ·) :=
  (List.pairwise_append.1 (ascending_fresh.follow sound_fresh run fair).order).1

end Link

end Multiplex
