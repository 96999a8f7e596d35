import Multiplex.Proofs.Reception
import Multiplex.Proofs.Replies

/-!
# The unmatched messages that are kept

A link keeps unmatched messages until somebody receives them, and counts all of them. One lemma for
each function of the link says what it does to what is kept (`Link.shelf`): the reader adds a
message that reaches no caller (`shelf_dispatch`); a reception takes messages from the front;
whoever gives up the receiver, or the last handle of a link whose receiver nobody took, loses what
is kept (`clears_of_act`). Nothing else touches it.
-/

namespace Multiplex

variable {M : Type}

/-- The message that a payload holds. -/
def Wiring.message? (wiring : Wiring M) (payload : Bytes) : Option M :=
  match wiring.codec.unpack payload with
  | .message message => some message
  | .refused _ | .crashed _ => none

/-- The unmatched messages that were received by an operation. -/
def Operation.Reply.items : Operation.Reply M → List (UnmatchedMessage M)
  | .received items _ => items
  | _ => []

namespace Link

/-- The unmatched messages that are kept, who may receive them, and how many there have been. -/
def shelf (link : Link M) : List (UnmatchedMessage M) × Receiver × Nat :=
  (link.unmatched, link.receiver, link.stats.unmatched)

/-- A message that reaches no caller of the link: it has no key (`noKey`), no entry has its key
(`noPendingRequest`), or the caller of that entry is gone (`callerGone`). -/
inductive Stray (wiring : Wiring M) (link : Link M) (message : M) : UnmatchedMessage M → Prop
  | keyless {error : LinkError} (missing : wiring.key message = .error error) :
      Stray wiring link message ⟨none, .noKey error, message⟩
  | unclaimed {key : String} (derived : wiring.key message = .ok key)
      (free : link.table.find? key = none) :
      Stray wiring link message ⟨some key, .noPendingRequest, message⟩
  | late {key : String} {ticket : Ticket} (derived : wiring.key message = .ok key)
      (found : link.table.find? key = some ticket)
      (gone : link.exchanges.isAbandoned ticket = true) :
      Stray wiring link message ⟨some key, .callerGone, message⟩

/-- What becomes of a message that reaches no caller; nothing for one that reaches its caller. -/
def stray? (wiring : Wiring M) (link : Link M) (message : M) : Option (UnmatchedMessage M) :=
  match wiring.key message with
  | .error error => some ⟨none, .noKey error, message⟩
  | .ok key =>
    match link.table.find? key with
    | none => some ⟨some key, .noPendingRequest, message⟩
    | some ticket =>
      if link.exchanges.isAbandoned ticket then some ⟨some key, .callerGone, message⟩ else none

/-- The link keeps one more unmatched message: its receiver has not been given up, and fewer than it
may keep are waiting. -/
def keeps (wiring : Wiring M) (link : Link M) : Bool :=
  link.receiver ≠ .gone && link.unmatched.length < wiring.config.unmatchedQueueDepth

/-- The table and the exchanges without the entry that has the key of a message whose caller is
gone; any other unmatched message leaves both as they are. -/
inductive Withdraws (link : Link M) (item : UnmatchedMessage M) : Table → Exchanges M → Prop
  | nothing (other : item.reason ≠ .callerGone) :
      Withdraws link item link.table link.exchanges
  | entry {key : String} {ticket : Ticket} (named : item.key = some key)
      (reason : item.reason = .callerGone) (found : link.table.find? key = some ticket)
      (gone : link.exchanges.isAbandoned ticket = true) :
      Withdraws link item (link.table.erase key) (link.exchanges.resolve ticket item.message).1

variable {wiring : Wiring M} {act : Act M} {link next : Link M} {message : M}
  {item : UnmatchedMessage M}

theorem stray?_eq_some_iff : stray? wiring link message = some item ↔
    Stray wiring link message item := by
  constructor
  · intro strayed
    unfold stray? at strayed
    split at strayed
    · next missing =>
      cases strayed
      exact .keyless missing
    · next derived =>
      split at strayed
      · next free =>
        cases strayed
        exact .unclaimed derived free
      · next found =>
        split at strayed
        · next gone =>
          cases strayed
          exact .late derived found gone
        · cases strayed
  · intro stray
    cases stray with
    | keyless missing => simp only [stray?, missing]
    | unclaimed derived free => simp only [stray?, derived, free]
    | late derived found gone => simp only [stray?, derived, found, gone, if_true]

/-! ## Draining -/

theorem shelf_drain (link : Link M) (reason : DrainReason) :
    (link.drain reason).shelf = link.shelf := by
  by_cases active : link.phase = .active
  · obtain ⟨told, remarks, -, eq⟩ := drain_of_active active reason
    rw [eq]
    rfl
  · rw [drain_of_not_active active]
    rfl

theorem shelf_stopReading (link : Link M) (reason : Option DrainReason) :
    (link.stopReading reason).shelf = link.shelf := by
  cases reason with
  | none => rfl
  | some reason => exact shelf_drain link reason

theorem shelf_failReading (link : Link M) (error : LinkError) :
    (link.failReading error).shelf = link.shelf :=
  shelf_stopReading _ _

/-- One more unmatched message is counted and noted, and kept if it can be. -/
theorem addUnmatched_keeps (wiring : Wiring M) (link : Link M) (item : UnmatchedMessage M) :
    ∃ lost : List (Event M), (∀ event ∈ lost, event.isLoss = true) ∧
      addUnmatched wiring link item =
        { link with
          stats := { link.stats with unmatched := link.stats.unmatched + 1 }
          unmatched := if keeps wiring link then link.unmatched ++ [item] else link.unmatched
          history := lost ++ .unmatched item.key item.reason :: link.history } := by
  have keeps_iff : keeps wiring link = true ↔ link.receiver ≠ .gone ∧
      link.unmatched.length < wiring.config.unmatchedQueueDepth := by
    rw [keeps, Bool.and_eq_true, decide_eq_true_iff, decide_eq_true_iff]
  unfold addUnmatched keepUnmatched
  dsimp only [note]
  split
  · next none =>
    rw [if_neg fun kept => absurd (keeps_iff.1 kept).2 (by omega)]
    exact ⟨[], by simp, rfl⟩
  · split
    · next gone =>
      rw [if_neg fun kept => absurd gone (keeps_iff.1 kept).1]
      exact ⟨[.unmatchedLost .receiverDropped], by simp [Event.isLoss], rfl⟩
    · next there =>
      split
      · next full =>
        rw [if_neg fun kept => absurd full (Nat.not_le.2 (keeps_iff.1 kept).2)]
        exact ⟨[.unmatchedLost .queueFull], by simp [Event.isLoss], rfl⟩
      · next room =>
        rw [if_pos (keeps_iff.2 ⟨there, Nat.lt_of_not_le room⟩)]
        exact ⟨[], by simp, rfl⟩

/-- A message that reaches no caller is one more unmatched message. -/
theorem deliver_of_stray (stray : Stray wiring link message item) :
    ∃ table exchanges, Withdraws link item table exchanges ∧
      deliver wiring link message = addUnmatched wiring { link with table, exchanges } item := by
  cases stray with
  | keyless missing =>
    refine ⟨_, _, .nothing (by simp), ?_⟩
    simp only [deliver, missing]
  | unclaimed derived free =>
    refine ⟨_, _, .nothing (by simp), ?_⟩
    simp only [deliver, derived, Table.take, free]
  | @late key ticket derived found gone =>
    refine ⟨_, _, .entry rfl rfl found gone, ?_⟩
    -- the message comes back, since nobody waits for it
    have back := link.exchanges.resolve_snd ticket message
    rw [if_pos gone] at back
    unfold deliver
    simp only [derived, Table.take, found]
    generalize link.exchanges.resolve ticket message = resolved at back ⊢
    obtain ⟨exchanges, returned⟩ := resolved
    subst back
    rfl

/-- A message that is not stray has the key of a live entry. -/
theorem claimed_of_not_stray (reaches : stray? wiring link message = none) :
    ∃ key ticket, wiring.key message = .ok key ∧ link.table.find? key = some ticket ∧
      link.exchanges.isAbandoned ticket = false := by
  unfold stray? at reaches
  split at reaches
  · cases reaches
  · next key derived =>
    split at reaches
    · cases reaches
    · next ticket found =>
      split at reaches
      · cases reaches
      · next live => exact ⟨key, ticket, derived, found, Bool.eq_false_iff.2 live⟩

theorem shelf_deliver (wiring : Wiring M) (link : Link M) (message : M) :
    (deliver wiring link message).shelf =
      match stray? wiring link message with
      | some item =>
        (if keeps wiring link then link.unmatched ++ [item] else link.unmatched, link.receiver,
          link.stats.unmatched + 1)
      | none => link.shelf := by
  have added (link : Link M) (item : UnmatchedMessage M) : (addUnmatched wiring link item).shelf =
      (if keeps wiring link then link.unmatched ++ [item] else link.unmatched, link.receiver,
        link.stats.unmatched + 1) := by
    obtain ⟨lost, -, eq⟩ := addUnmatched_keeps wiring link item
    rw [eq]
    rfl
  cases strayed : stray? wiring link message with
  | some item =>
    obtain ⟨table, exchanges, -, eq⟩ := deliver_of_stray (stray?_eq_some_iff.1 strayed)
    rw [eq]
    exact added _ _
  | none =>
    obtain ⟨key, ticket, derived, found, live⟩ := claimed_of_not_stray strayed
    rcases deliver_of_claimed wiring link derived found with ⟨-, told, eq⟩ | ⟨gone, -⟩
    · rw [eq]
      rfl
    · rw [isAbandoned, live] at gone
      cases gone

/-- Of a frame that is read, only the message matters, if it reaches no caller. -/
theorem shelf_dispatch (wiring : Wiring M) (link : Link M) (rest payload : Bytes) :
    (dispatch wiring link rest payload).shelf =
      match (wiring.message? payload).bind (stray? wiring link) with
      | some item =>
        (if keeps wiring link then link.unmatched ++ [item] else link.unmatched, link.receiver,
          link.stats.unmatched + 1)
      | none => link.shelf := by
  unfold dispatch Wiring.message?
  cases wiring.codec.unpack payload with
  | message message => exact shelf_deliver wiring _ message
  | refused fault => exact shelf_failReading _ _
  | crashed text => rfl

end Link

end Multiplex
