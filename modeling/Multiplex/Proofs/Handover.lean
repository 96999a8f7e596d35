import Multiplex.Proofs.Entries

/-!
# Where replies come from

Every entry in the table was registered at some point of the history, and no frame with its key has
been read since (`Filed`). A reply is the message of the first frame with the key that was read
after that point (`Handover`); the call that waits for the ticket sees nothing else, and returns
nothing else (`Link.Answered`).
-/

namespace Multiplex

variable {M : Type}

/-- A request that was made of a message has been registered under its key, and no frame whose
message has that key has been read since. -/
inductive Filed (wiring : Wiring M) (history : List (Event M)) (key : String) (ticket : Ticket) :
    Prop
  | intro {since before : List (Event M)} {asked : M} {frame : Bytes}
      (split : history = since ++ .registered ticket key :: before)
      (prepared : .prepared asked ⟨ticket, key, frame⟩ ∈ before)
      (derived : wiring.key asked = .ok key)
      (framed : Link.keyedFrame wiring asked = .ok (key, frame))
      (unanswered : ∀ payload message, .received payload ∈ since →
        wiring.codec.unpack payload = .message message → wiring.key message ≠ .ok key)

/-- The frame that was read after `before` holds a message for the caller of a ticket, whose entry
was filed under the message's key. -/
inductive Handover (wiring : Wiring M) (history before : List (Event M)) (ticket : Ticket)
    (message : M) : Prop
  | intro {later : List (Event M)} {payload : Bytes} {key : String}
      (split : history = later ++ .delivered ticket key :: .received payload :: before)
      (read : wiring.codec.unpack payload = .message message)
      (derived : wiring.key message = .ok key)
      (filed : Filed wiring before key ticket)

variable {wiring : Wiring M} {history before : List (Event M)} {key : String}
  {ticket ticket' : Ticket} {message message' : M}

theorem Filed.append (filed : Filed wiring history key ticket) {new : List (Event M)}
    (quiet : ∀ payload message, .received payload ∈ new →
      wiring.codec.unpack payload = .message message → wiring.key message ≠ .ok key) :
    Filed wiring (new ++ history) key ticket := by
  obtain @⟨since, before, asked, frame, split, prepared, derived, framed, unanswered⟩ := filed
  have split' : new ++ history = (new ++ since) ++ .registered ticket key :: before := by
    rw [split, List.append_assoc]
  refine .intro split' prepared derived framed ?_
  intro payload message member read
  rcases List.mem_append.1 member with recent | earlier
  · exact quiet payload message recent read
  · exact unanswered payload message earlier read

theorem Handover.append (handover : Handover wiring history before ticket message)
    (new : List (Event M)) : Handover wiring (new ++ history) before ticket message := by
  obtain @⟨later, payload, key, split, read, derived, filed⟩ := handover
  have split' : new ++ history =
      (new ++ later) ++ .delivered ticket key :: .received payload :: before := by
    rw [split, List.append_assoc]
  exact .intro split' read derived filed

/-- One frame is handed over to one caller. -/
theorem Handover.unique (first : Handover wiring history before ticket message)
    (second : Handover wiring history before ticket' message') :
    ticket = ticket' ∧ message = message' := by
  obtain ⟨split, read, derived, -⟩ := first
  obtain ⟨split', read', derived', -⟩ := second
  -- both frames were the first to be read after the same events
  have same := split.symm.trans split'
  have ends := (List.append_inj' same rfl).2
  cases ends
  rw [read] at read'
  cases read'
  exact ⟨rfl, rfl⟩

namespace Link

variable {act : Act M} {link next : Link M}

theorem key_of_keyedFrame {asked : M} {frame : Bytes}
    (framed : keyedFrame wiring asked = .ok (key, frame)) : wiring.key asked = .ok key := by
  unfold keyedFrame at framed
  split at framed
  · cases framed
  · next derived =>
    split at framed
    · cases framed
    · cases framed
      exact derived

/-! ## Entries and the frames read -/

/-- Once a message has been read, no entry is left under its key. -/
theorem received_of_change (change : Change wiring act link next) :
    ∃ new, next.history = new ++ link.history ∧ ∀ payload message, .received payload ∈ new →
      wiring.codec.unpack payload = .message message → ∀ key ticket,
        wiring.key message = .ok key → (key, ticket) ∉ next.table.slots := by
  have silent {new : List (Event M)} (none : ∀ payload, .received payload ∉ new) :
      ∀ payload message, .received payload ∈ new →
        wiring.codec.unpack payload = .message message → ∀ key ticket,
          wiring.key message = .ok key → (key, ticket) ∉ next.table.slots :=
    fun payload _ member => absurd member (none payload)
  cases change with
  | aside only wire same =>
    refine ⟨_, rfl, silent ?_⟩
    intro payload member
    have remark := only _ member
    cases remark
  | undecoded active running unread =>
    refine ⟨[_], rfl, ?_⟩
    intro payload message member read
    cases List.mem_singleton.1 member
    exact absurd read (unread message)
  | unclaimed active running read nobody =>
    refine ⟨[_], rfl, ?_⟩
    intro payload message member read' key ticket derived filed
    cases List.mem_singleton.1 member
    rw [read] at read'
    cases read'
    exact Table.find?_eq_none_iff.1 (nobody key derived) _ filed rfl
  | claimed active running read derived found live =>
    refine ⟨[_, _], rfl, ?_⟩
    intro payload message member read' key ticket derived' filed
    rcases List.mem_cons.1 member with other | last
    · cases other
    cases List.mem_singleton.1 last
    rw [read] at read'
    cases read'
    rw [derived] at derived'
    cases derived'
    exact (Table.mem_erase.1 filed).2 rfl
  | late active running read derived found gone =>
    refine ⟨[_], rfl, ?_⟩
    intro payload message member read' key ticket derived' filed
    cases List.mem_singleton.1 member
    rw [read] at read'
    cases read'
    rw [derived] at derived'
    cases derived'
    exact (Table.mem_erase.1 filed).2 rfl
  | skip => exact ⟨[_, _], rfl, silent (by simp)⟩
  | drain | issue | send | reject | enqueue | finish | conclude | refuse | register | sent | fail =>
    exact ⟨[_], rfl, silent (by simp)⟩
  | _ => exact ⟨[], rfl, silent (by simp)⟩

/-! ## Replies -/

/-- Every entry in the table is filed, and every reply was handed over. -/
structure Answered (wiring : Wiring M) (link : Link M) : Prop where
  filed : ∀ {key : String} {ticket : Ticket}, (key, ticket) ∈ link.table.slots →
    Filed wiring link.history key ticket
  replied : ∀ {ticket : Ticket} {message : M},
    link.exchanges.poll ticket = some (.ok message) →
      ∃ before, Handover wiring link.history before ticket message
  returned : ∀ {number : Nat} {ticket? : Option Ticket} {message : M},
    .returned number ticket? (.replied message) ∈ link.history →
      ∃ ticket before, ticket? = some ticket ∧ Handover wiring link.history before ticket message

theorem answered_fresh : Answered wiring (fresh : Link M) where
  filed member := by cases member
  replied seen := by simp [fresh, Exchanges.poll] at seen
  returned member := by simp [fresh] at member

/-- A call returns a reply only if it sees one. -/
theorem replied_of_returns {request : Request} {timer : Option Timer} {handed : Bool}
    (returns : Returns link request timer handed (.replied message)) :
    link.exchanges.poll request.ticket = some (.ok message) := by
  generalize result : Result.replied message = outcome at returns
  cases returns with
  | @outcome seen there =>
    cases seen with
    | ok reply =>
      cases result
      exact there
    | error error => cases result
  | turnedAway shut => cases result
  | late timed passed nothing => cases result

/-- The end of a link is no reply. -/
theorem conclusion_ne_replied (link : Link M) (task : Task) (message : M) :
    link.conclusion task ≠ .replied message := by
  unfold conclusion
  split
  · split <;> exact fun same => nomatch same
  · exact fun same => nomatch same

/-- Whoever has no ticket gets no reply. -/
theorem unreplied_of_change (change : Change wiring act link next) {number : Nat}
    (member : .returned number none (.replied message) ∈ next.history) :
    .returned number none (.replied message) ∈ link.history := by
  cases change with
  | aside only wire same => exact only.mem_of_append rfl member
  | @conclude call inside wait closed =>
    rcases List.mem_cons.1 member with new | old
    · exact absurd (Event.returned.inj new).2.2.symm (conclusion_ne_replied link call.task message)
    · exact old
  | _ => simpa using member

theorem Answered.change (change : Change wiring act link next) (sound : link.Sound)
    (recorded : link.Recorded wiring) (answered : link.Answered wiring) :
    next.Answered wiring := by
  obtain ⟨new, history, quiet⟩ := received_of_change change
  have kept {before : List (Event M)} {ticket : Ticket} {message : M}
      (handover : Handover wiring link.history before ticket message) :
      ∃ before, Handover wiring next.history before ticket message :=
    ⟨before, history ▸ handover.append new⟩
  refine ⟨?_, ?_, ?_⟩
  · intro key ticket member
    rcases slot_of_change change member with before | ⟨request, rest, first, rfl, rfl, registered⟩
    -- a frame with the key would have taken the entry out
    · rw [history]
      apply (answered.filed before).append
      intro payload message recent read derived
      exact quiet payload message recent read key ticket derived member
    · obtain ⟨asked, known⟩ := recorded.carried (.queue (first ▸ List.mem_cons_self))
      obtain ⟨-, framed⟩ := recorded.prepared known
      have split : next.history = [] ++ .registered request.ticket request.key :: link.history :=
        registered
      refine .intro split known (key_of_keyedFrame framed) framed ?_
      intro payload message recent
      cases recent
  · intro ticket message seen
    rcases outcome_of_change change sound seen with before | given
    · obtain ⟨_, handover⟩ := answered.replied before
      exact kept handover
    · cases given with
      | reply active history read derived found live =>
        have split : next.history = [] ++ _ := history
        exact ⟨_, .intro split read derived (answered.filed (Table.mem_of_find? found))⟩
  -- what a call returns is what it saw, which was handed over before
  · intro number ticket? message member
    cases ticket? with
    | none =>
      obtain ⟨ticket, _, same, -⟩ := answered.returned (unreplied_of_change change member)
      cases same
    | some ticket =>
      rcases returned_of_change change member with
        old | ⟨call, request, handed, timer, -, -, -, rfl, returns⟩
      · obtain ⟨_, _, same, handover⟩ := answered.returned old
        cases same
        obtain ⟨before, handover⟩ := kept handover
        exact ⟨_, before, rfl, handover⟩
      · obtain ⟨_, handover⟩ := answered.replied (replied_of_returns returns)
        obtain ⟨before, handover⟩ := kept handover
        exact ⟨_, before, rfl, handover⟩

end Link

end Multiplex
