import Multiplex.Proofs.Exchanges

/-!
# The senders of an entry

An entry owns two senders, and a verdict on it is told by what has become of both
(`Verdict.senders`): the one that was used, and the one that went with it unused. A caller reads the
verdict off them (`Exchanges.poll_of_verdict`). Nobody can tell that the two senders go one after
the other (`Exchange.discreet_of_held`).

Of the entries in some places a step leaves some there and drops the others (`Exchanges.Sheds`).
-/

namespace Multiplex

variable {M : Type}

/-- How an entry was consumed. -/
inductive Verdict (M : Type) where
  | resolved (message : M)
  | failed (error : LinkError)
  /-- It was dropped with no outcome. -/
  | dropped
  deriving DecidableEq

namespace Verdict

/-- What a caller who waits for the entry sees. -/
def result : Verdict M → Except LinkError M
  | resolved message => .ok message
  | failed error => .error error
  | dropped => .error .closed

/-- What has become of the senders of the entry, if its caller waited. -/
def senders : Verdict M → Sender M × Sender LinkError
  | resolved message => (.sent message, .dropped)
  | failed error => (.dropped, .sent error)
  | dropped => (.dropped, .dropped)

theorem result_eq_ok_iff {verdict : Verdict M} {message : M} :
    verdict.result = .ok message ↔ verdict = .resolved message := by
  cases verdict <;> simp [result]

theorem result_eq_error_iff {verdict : Verdict M} {error : LinkError} :
    verdict.result = .error error ↔
      verdict = .failed error ∨ (error = .closed ∧ verdict = .dropped) := by
  cases verdict <;> simp [result, eq_comm]

end Verdict

namespace Exchange

/-- The senders that the entry owns. -/
def senders (exchange : Exchange M) : Sender M × Sender LinkError :=
  (exchange.reply.sender, exchange.error.sender)

/-- A caller who looks while the entry is being consumed sees what it would see before, or what it
will see afterwards. -/
structure Discreet (exchange : Exchange M) : Prop where
  resolve : ∀ message, exchange.isAbandoned = false →
    (exchange.sendReply message).1.poll = (exchange.resolve message).1.poll
  fail : ∀ error, exchange.isAbandoned = false →
    (exchange.sendError error).1.poll = (exchange.fail error).1.poll
  drop : exchange.hangUpReply.poll = exchange.poll

variable {exchange : Exchange M}

theorem poll_of_verdict {verdict : Verdict M} (told : exchange.senders = verdict.senders) :
    exchange.poll = some verdict.result := by
  obtain ⟨reply, error⟩ := Prod.mk.inj told
  rw [poll, reply, error]
  cases verdict <;> rfl

theorem poll_of_held (held : exchange.senders = (.held, .held)) : exchange.poll = none := by
  obtain ⟨reply, error⟩ := Prod.mk.inj held
  rw [poll, reply, error]

/-- A caller who waits has both receivers. -/
theorem receiving_of_live (live : exchange.isAbandoned = false) :
    exchange.reply.receiving = true ∧ exchange.error.receiving = true := by
  rw [← exchange.together, and_self]
  simpa [isAbandoned] using live

theorem senders_resolve (live : exchange.isAbandoned = false) (message : M) :
    (exchange.resolve message).1.senders = (Verdict.resolved message).senders := by
  obtain ⟨receiving, -⟩ := receiving_of_live live
  simp [resolve, sendReply, hangUpError, Oneshot.hangUp, Oneshot.send, senders, receiving,
    Verdict.senders]

theorem senders_fail (live : exchange.isAbandoned = false) (error : LinkError) :
    (exchange.fail error).1.senders = (Verdict.failed error : Verdict M).senders := by
  obtain ⟨-, receiving⟩ := receiving_of_live live
  simp [fail, sendError, hangUpReply, Oneshot.hangUp, Oneshot.send, senders, receiving,
    Verdict.senders]

theorem senders_drop (held : exchange.senders = (.held, .held)) :
    exchange.drop.senders = (Verdict.dropped : Verdict M).senders := by
  rewrite [drop, poll_of_held held]
  rfl

/-- As long as both senders are held, one of them alone makes no difference unless it sends. -/
theorem discreet_of_held (held : exchange.senders = (.held, .held)) : exchange.Discreet := by
  obtain ⟨reply, error⟩ := Prod.mk.inj held
  refine ⟨fun message live => ?_, fun error live => ?_, ?_⟩
  · obtain ⟨receiving, -⟩ := receiving_of_live live
    rw [poll_of_verdict (senders_resolve live message)]
    simp [poll, sendReply, Oneshot.send, receiving, Verdict.result]
  · obtain ⟨-, receiving⟩ := receiving_of_live live
    rw [poll_of_verdict (senders_fail live error)]
    simp [poll, sendError, Oneshot.send, receiving, reply, Verdict.result]
  · rw [poll_of_held held]
    simp [poll, hangUpReply, Oneshot.hangUp, error]

end Exchange

namespace Exchanges

/-- What has become of the senders of an entry. -/
def senders (exchanges : Exchanges M) (ticket : Ticket) : Option (Sender M × Sender LinkError) :=
  exchanges[ticket]?.map Exchange.senders

variable {exchanges others : Exchanges M} {ticket other : Ticket}

theorem poll_of_verdict {verdict : Verdict M}
    (told : exchanges.senders ticket = some verdict.senders) :
    exchanges.poll ticket = some verdict.result := by
  obtain ⟨exchange, found, told⟩ := Option.map_eq_some_iff.1 told
  simp only [poll, found, Exchange.poll_of_verdict told]

theorem poll_of_held (held : exchanges.senders ticket = some (.held, .held)) :
    exchanges.poll ticket = none := by
  obtain ⟨exchange, found, held⟩ := Option.map_eq_some_iff.1 held
  simp only [poll, found, Exchange.poll_of_held held]

theorem lt_length_of_senders {both : Sender M × Sender LinkError}
    (found : exchanges.senders ticket = some both) : ticket < exchanges.length := by
  obtain ⟨exchange, inside, -⟩ := Option.map_eq_some_iff.1 found
  exact (List.getElem?_eq_some_iff.1 inside).1

theorem senders_set (inside : ticket < exchanges.length) (exchange : Exchange M) :
    senders (exchanges.set ticket exchange) other =
      if other = ticket then some exchange.senders else exchanges.senders other := by
  by_cases same : other = ticket
  · subst same
    simp [senders, inside]
  · simp [senders, same, List.getElem?_set_ne (Ne.symm same)]

theorem senders_resolve (live : exchanges.isAbandoned ticket = false) (message : M) :
    (exchanges.resolve ticket message).1.senders other =
      if other = ticket then some (Verdict.resolved message).senders
      else exchanges.senders other := by
  have inside := lt_length_of_waiting live
  have found := List.getElem?_eq_getElem inside
  rw [isAbandoned_of_getElem? found] at live
  simp only [resolve, found, senders_set inside, Exchange.senders_resolve live]

theorem senders_resolve_of_ne (differs : other ≠ ticket) (message : M) :
    (exchanges.resolve ticket message).1.senders other = exchanges.senders other := by
  unfold resolve
  split
  · exact congrArg (Option.map _) (List.getElem?_set_ne (Ne.symm differs))
  · rfl

theorem senders_fail (live : exchanges.isAbandoned ticket = false) (error : LinkError) :
    (exchanges.fail ticket error).1.senders other =
      if other = ticket then some (Verdict.failed error : Verdict M).senders
      else exchanges.senders other := by
  have inside := lt_length_of_waiting live
  have found := List.getElem?_eq_getElem inside
  rw [isAbandoned_of_getElem? found] at live
  simp only [fail, found, senders_set inside, Exchange.senders_fail live]

theorem senders_fail_of_ne (differs : other ≠ ticket) (error : LinkError) :
    (exchanges.fail ticket error).1.senders other = exchanges.senders other := by
  unfold fail
  split
  · exact congrArg (Option.map _) (List.getElem?_set_ne (Ne.symm differs))
  · rfl

theorem senders_drop (held : exchanges.senders ticket = some (.held, .held)) :
    (exchanges.drop ticket).senders other =
      if other = ticket then some (Verdict.dropped : Verdict M).senders
      else exchanges.senders other := by
  obtain ⟨exchange, found, intact⟩ := Option.map_eq_some_iff.1 held
  by_cases same : other = ticket
  · subst same
    simp [senders, drop, found, Exchange.senders_drop intact]
  · simp [senders, drop, same, Ne.symm same]

@[simp] theorem senders_leave :
    (exchanges.leave ticket).senders other = exchanges.senders other := by
  unfold senders leave
  by_cases same : other = ticket
  · subst same
    cases found : exchanges[other]? <;> simp [found, Exchange.leave, Exchange.senders,
      Oneshot.close]
  · simp [Ne.symm same]

theorem senders_append_fresh :
    (exchanges ++ [Exchange.fresh] : Exchanges M).senders ticket =
      if ticket = exchanges.length then some (.held, .held) else exchanges.senders ticket := by
  unfold senders
  rcases Nat.lt_trichotomy ticket exchanges.length with before | same | after
  · rw [List.getElem?_append_left before, if_neg (Nat.ne_of_lt before)]
  · subst same
    simp [Exchange.fresh, Exchange.senders]
  · have none : (exchanges ++ [Exchange.fresh])[ticket]? = none :=
      List.getElem?_eq_none (by rw [List.length_append, List.length_singleton]; exact after)
    rw [none, if_neg (Nat.ne_of_gt after), List.getElem?_eq_none (Nat.le_of_lt after)]

/-! ## Entries that are dropped -/

/-- Some of these entries are left, and nothing has happened to them; the others have been
dropped. -/
structure Sheds (exchanges others : Exchanges M) (before after : List Ticket) : Prop where
  kept : ∀ ticket ∈ after, ticket ∈ before
  same : ∀ ticket, (ticket ∈ before → ticket ∈ after) →
    others.senders ticket = exchanges.senders ticket
  dropped : ∀ ticket ∈ before, ticket ∉ after →
    others.senders ticket = some (Verdict.dropped : Verdict M).senders

namespace Sheds

variable {last : Exchanges M} {before between after places : List Ticket}

/-- Entries that move to other places. -/
theorem of_perm (moved : before.Perm after)
    (same : ∀ ticket, others.senders ticket = exchanges.senders ticket) :
    Sheds exchanges others before after where
  kept _ member := moved.mem_iff.2 member
  same ticket _ := same ticket
  dropped _ member gone := absurd (moved.mem_iff.1 member) gone

theorem refl (exchanges : Exchanges M) (places : List Ticket) :
    Sheds exchanges exchanges places places :=
  .of_perm (.refl _) fun _ => rfl

/-- A caller who leaves takes no entry along. -/
theorem of_leave (exchanges : Exchanges M) (ticket : Ticket) (places : List Ticket) :
    Sheds exchanges (exchanges.leave ticket) places places :=
  .of_perm (.refl _) fun _ => senders_leave

/-- One entry is dropped. -/
theorem of_drop (held : exchanges.senders ticket = some (.held, .held)) (once : before.Nodup)
    (left : before.Perm (ticket :: after)) :
    Sheds exchanges (exchanges.drop ticket) before after where
  kept other inside := left.mem_iff.2 (List.mem_cons_of_mem _ inside)
  same other stays := by
    rw [senders_drop held, if_neg]
    rintro rfl
    exact (List.nodup_cons.1 (left.nodup_iff.1 once)).1 (stays (left.mem_iff.2 List.mem_cons_self))
  dropped other inside gone := by
    have own : other = ticket := (List.mem_cons.1 (left.mem_iff.1 inside)).resolve_right gone
    rw [senders_drop held, if_pos own]

theorem trans (first : Sheds exchanges others before between)
    (second : Sheds others last between after) : Sheds exchanges last before after where
  kept ticket member := first.kept ticket (second.kept ticket member)
  same ticket stays := by
    rw [second.same ticket fun inside => stays (first.kept ticket inside)]
    exact first.same ticket fun inside => second.kept ticket (stays inside)
  dropped ticket member gone := by
    by_cases inside : ticket ∈ between
    · exact second.dropped ticket inside gone
    · rw [second.same ticket fun inside' => absurd inside' inside]
      exact first.dropped ticket member inside

/-- Entries elsewhere stay there. -/
theorem append_left (sheds : Sheds exchanges others before after)
    (apart : ∀ ticket ∈ places, ticket ∉ before) :
    Sheds exchanges others (places ++ before) (places ++ after) where
  kept ticket member := by
    rcases List.mem_append.1 member with elsewhere | inside
    · exact List.mem_append_left _ elsewhere
    · exact List.mem_append_right _ (sheds.kept ticket inside)
  same ticket stays := by
    refine sheds.same ticket fun inside => ?_
    rcases List.mem_append.1 (stays (List.mem_append_right _ inside)) with elsewhere | left
    · exact absurd inside (apart ticket elsewhere)
    · exact left
  dropped ticket member gone := by
    rw [List.mem_append, not_or] at gone
    exact sheds.dropped ticket ((List.mem_append.1 member).resolve_left gone.1) gone.2

/-- The entries that are left have both their senders, if all had them before. -/
theorem held (sheds : Sheds exchanges others before after)
    (held : ∀ ticket ∈ before, exchanges.senders ticket = some (.held, .held)) :
    ∀ ticket ∈ after, others.senders ticket = some (.held, .held) := by
  intro ticket member
  rw [sheds.same ticket fun _ => member]
  exact held ticket (sheds.kept ticket member)

end Sheds

end Exchanges

end Multiplex
