import Multiplex.Proofs.Growth

/-!
# How an exchange comes to its outcome

The outcomes that an elementary change can give to the caller of a ticket (`Link.Given`), each with
what brings it about. Whatever a caller sees after a change it saw before, or the change gave it
(`outcome_of_change`).
-/

namespace Multiplex.Link

variable {M : Type}

/-- A change from `link` to `next` gives this outcome to the caller of a ticket. -/
inductive Given (wiring : Wiring M) (link next : Link M) (ticket : Ticket) :
    Except LinkError M → Prop
  /-- A frame has been read whose message has the key under which the ticket is filed. -/
  | reply {payload : Bytes} {message : M} {key : String} (active : link.phase = .active)
      (history : next.history = .delivered ticket key :: .received payload :: link.history)
      (read : wiring.codec.unpack payload = .message message)
      (derived : wiring.key message = .ok key) (found : link.table.find? key = some ticket)
      (live : link.exchanges.isAbandoned ticket = false) :
      Given wiring link next ticket (.ok message)
  /-- The frame of the ticket's own request could not be written. -/
  | writeFailure {request : Request} {error : IoError} (active : link.phase = .active)
      (own : request.ticket = ticket) (idle : next.writer = .idle)
      (working : link.writer.request? = some request)
      (found : link.table.find? request.key = some ticket)
      (history : next.history = .writeFailed ticket request.key error :: link.history)
      (live : link.exchanges.isAbandoned ticket = false) :
      Given wiring link next ticket (.error (.writeFailed request.key error))
  /-- The ticket's own request has been refused because a live entry holds its key. -/
  | refusal {request : Request} {rest : List Request} (active : link.phase = .active)
      (own : request.ticket = ticket) (first : link.queue = request :: rest)
      (history : next.history =
        .unregistered ticket request.key (.duplicateKey request.key) :: link.history)
      (live : link.exchanges.isAbandoned ticket = false) :
      Given wiring link next ticket (.error (.duplicateKey request.key))
  /-- The entry was lost: nobody waited for it, or it was not in the table, or all entries that
  were there are failed because the link leaves its active phase. -/
  | closed (why : link.exchanges.isAbandoned ticket = true ∨
        ticket ∉ link.table.slots.map Prod.snd ∨
          (link.phase = .active ∧ next.phase ≠ .active)) :
      Given wiring link next ticket (.error .closed)

variable {wiring : Wiring M} {act : Act M} {link next : Link M} {ticket : Ticket}

/-- An entry that is in the queue or with its call is not in the table. -/
theorem Owned.not_filed (owned : link.Owned)
    (unfiled : ticket ∈ link.queue.map Request.ticket ++ link.calls.filterMap Call.lineTicket?) :
    ticket ∉ link.table.slots.map Prod.snd := by
  intro filed
  -- no ticket has two places among the holders
  have once := owned.held ticket
  rw [holders, List.count_append] at once
  have here := List.count_pos_iff.2 unfiled
  have there := List.count_pos_iff.2 filed
  split at once <;> omega

theorem Phased.not_filed (phased : link.Phased) (inactive : link.phase ≠ .active) :
    ticket ∉ link.table.slots.map Prod.snd := by
  rw [phased.slots_eq_nil inactive]
  exact List.not_mem_nil

theorem mem_line_iff {calls : List Call} :
    ticket ∈ calls.filterMap Call.lineTicket? ↔
      ∃ call ∈ calls, ∃ request timer, call.task = .send request false timer ∧
        request.ticket = ticket := by
  rw [List.mem_filterMap]
  refine exists_congr fun call => and_congr_right fun _ => ?_
  unfold Call.lineTicket?
  split
  · next request timer task => simp [task]
  · next other =>
    simp only [reduceCtorEq, false_iff, not_exists, not_and]
    exact fun request timer task => absurd task (other request timer)

/-- A caller who leaves loses an entry only if its request is still with its call. -/
theorem outcome_of_quit (owned : link.Owned) {call : Call} {request : Request} {handed : Bool}
    {timer : Option Timer} (member : call ∈ link.calls)
    (task : call.task = .send request handed timer) {outcome : Except LinkError M}
    (seen : (link.exchanges.quit request.ticket handed).poll ticket = some outcome) :
    link.exchanges.poll ticket = some outcome ∨ Given wiring link next ticket outcome := by
  rw [Exchanges.poll_quit] at seen
  split at seen
  · next lost =>
    obtain ⟨rfl, rfl, -⟩ := lost
    cases seen
    have line := mem_line_iff.2 ⟨call, member, request, timer, task, rfl⟩
    exact .inr (.closed (.inr (.inl (owned.not_filed (List.mem_append_right _ line)))))
  · exact .inl seen

theorem outcome_of_change (change : Change wiring act link next) (sound : link.Sound)
    {outcome : Except LinkError M} (seen : next.exchanges.poll ticket = some outcome) :
    link.exchanges.poll ticket = some outcome ∨ Given wiring link next ticket outcome := by
  cases change with
  | drain active =>
    rw [Exchanges.poll_closeAll] at seen
    split at seen
    · cases seen
      -- here the outcome may reach a caller whose entry was in the table
      exact .inr (.closed (.inr (.inr ⟨active, by simp⟩)))
    · exact .inl seen
  | send asked active new framed =>
    rw [Exchanges.poll_append_fresh] at seen
    split at seen
    · cases seen
    · exact .inl seen
  | @abort call asked member =>
    cases task : call.task with
    | send request handed timer =>
      simp only [task] at seen
      exact outcome_of_quit sound.owned member task seen
    | close | watch =>
      simp only [task] at seen
      exact .inl seen
  | finish asked member task returns => exact outcome_of_quit sound.owned member task seen
  | withdraw found gone =>
    rw [Exchanges.poll_drop] at seen
    split at seen
    · next both =>
      cases seen
      exact .inr (.closed (.inl (both.1 ▸ gone)))
    · exact .inl seen
  | claimed active running read derived found live =>
    rw [Exchanges.poll_resolve, live] at seen
    split at seen
    · next same =>
      cases seen
      subst same
      exact .inr (.reply active rfl read derived found live)
    · exact .inl seen
  | late active running read derived found gone =>
    rw [Exchanges.poll_resolve, gone] at seen
    split at seen
    · next same =>
      cases seen
      exact .inr (.closed (.inl (same ▸ gone)))
    · exact .inl seen
  -- the table of a link that is not active is empty, so nothing that is lost was in it
  | stopWriting inactive idle =>
    rw [Exchanges.poll_closeAll] at seen
    split at seen
    · cases seen
      exact .inr (.closed (.inr (.inl (sound.phased.not_filed inactive))))
    · exact .inl seen
  | refuse active idle first found live =>
    rw [Exchanges.poll_fail] at seen
    split at seen
    · next same =>
      subst same
      cases seen
      split
      · next gone => exact .inr (.closed (.inl gone))
      · next here => exact .inr (.refusal active rfl first rfl (Bool.not_eq_true _ ▸ here))
    · exact .inl seen
  | @skip request rest active idle first free gone =>
    rw [Exchanges.poll_drop] at seen
    split at seen
    · next both =>
      cases seen
      exact .inr (.closed (.inl (both.1 ▸ gone)))
    -- what made room for the request was abandoned
    · rw [Exchanges.poll_vacate] at seen
      split at seen
      · next both =>
        cases seen
        exact .inr (.closed (.inl (free _ both.1)))
      · exact .inl seen
  | register active idle first free live =>
    rw [Exchanges.poll_vacate] at seen
    split at seen
    · next both =>
      cases seen
      exact .inr (.closed (.inl (free _ both.1)))
    · exact .inl seen
  | fail active working =>
    rw [Exchanges.poll_failAt] at seen
    split at seen
    · next found =>
      -- the entry under the key of the writer's request is that request's own
      have own := sound.owned.ownEntry _ _ working found
      cases seen
      split
      · next gone => exact .inr (.closed (.inl gone))
      · next here =>
        exact .inr (.writeFailure active own.symm rfl working found (by rw [own])
          (Bool.not_eq_true _ ▸ here))
    · exact .inl seen
  | interrupt inactive working =>
    rw [Exchanges.poll_failAt] at seen
    split at seen
    · cases seen
      rw [ite_self]
      exact .inr (.closed (.inr (.inl (sound.phased.not_filed inactive))))
    · exact .inl seen
  | crashWriting active working =>
    rw [Exchanges.poll_dropAll] at seen
    split at seen
    · next both =>
      cases seen
      exact .inr (.closed (.inr (.inl (sound.owned.not_filed (List.mem_append_left _ both.1)))))
    · exact .inl seen
  | _ => exact .inl seen

/-- Whoever has left is given nothing but a closed link. -/
theorem Given.eq_closed {outcome : Except LinkError M}
    (given : Given wiring link next ticket outcome)
    (gone : link.exchanges.isAbandoned ticket = true) : outcome = .error .closed := by
  cases given with
  | reply active history read derived found live =>
    rw [gone] at live
    cases live
  | writeFailure active own idle working found history live =>
    rw [gone] at live
    cases live
  | refusal active own first history live =>
    rw [gone] at live
    cases live
  | closed why => rfl

/-- After the active phase nothing is given but a closed link. -/
theorem Given.eq_closed_of_inactive {outcome : Except LinkError M}
    (given : Given wiring link next ticket outcome) (inactive : link.phase ≠ .active) :
    outcome = .error .closed := by
  cases given with
  | reply active history read derived found live => exact absurd active inactive
  | writeFailure active own idle working found history live => exact absurd active inactive
  | refusal active own first history live => exact absurd active inactive
  | closed why => rfl

end Multiplex.Link
