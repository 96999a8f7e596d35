import Multiplex.Proofs.Requests

/-!
# What becomes of an entry in the table

An entry stays in the table, under its key, until it is given its outcome (`entry_of_change`). Five
ways to take an entry out know it by its key alone; that none of them takes the wrong one out rests
on every entry having one place, and on what is under the key of the writer's request being that
request's own entry.
-/

namespace Multiplex.Link

variable {M : Type} {wiring : Wiring M} {act : Act M} {link next : Link M} {key : String}
  {ticket : Ticket}

/-- An entry in the table was there before, or the writer has just registered it. -/
theorem slot_of_change (change : Change wiring act link next)
    (member : (key, ticket) ∈ next.table.slots) :
    (key, ticket) ∈ link.table.slots ∨
      ∃ request rest, link.queue = request :: rest ∧ request.key = key ∧
        request.ticket = ticket ∧ next.history = .registered ticket key :: link.history := by
  cases change with
  | drain active => cases member
  | @register request rest active idle first free live =>
    rcases List.mem_cons.1 member with new | kept
    · cases new
      exact .inr ⟨request, rest, first, rfl, rfl, rfl⟩
    · exact .inl (Table.mem_erase.1 kept).1
  | skip | withdraw | claimed | late | fail | interrupt =>
    exact .inl (Table.mem_erase.1 member).1
  | _ => exact .inl member

/-- A ticket is in the table under one key. -/
theorem Owned.key_unique (owned : link.Owned) {key' : String}
    (filed : (key, ticket) ∈ link.table.slots) (filed' : (key', ticket) ∈ link.table.slots) :
    key = key' := by
  -- each ticket has one place among the holders, of which the table's are a part
  have nodup : (link.table.slots.map Prod.snd).Nodup :=
    (List.sublist_append_left _ _).nodup owned.held.nodup
  have same := List.inj_on_of_nodup_map nodup filed filed' rfl
  rw [Prod.mk.injEq] at same
  exact same.1

/-- An entry in the table is still there after a change, or the change has given it its outcome. -/
theorem entry_of_change (change : Change wiring act link next) (sound : link.Sound)
    (found : link.table.find? key = some ticket) :
    (next.table.find? key = some ticket ∧ next.exchanges.poll ticket = none) ∨
      ∃ outcome, Given wiring link next ticket outcome ∧
        next.exchanges.poll ticket = some outcome := by
  have unseen := sound.owned.poll_of_find? found
  have filed := Table.mem_of_find? found
  have placed : ticket ∉ link.unfiled := fun unfiled =>
    sound.owned.not_filed unfiled (List.mem_map_of_mem filed)
  cases seen : next.exchanges.poll ticket with
  | some outcome =>
    rcases outcome_of_change change sound seen with before | given
    · rw [unseen] at before
      cases before
    · exact .inr ⟨outcome, given, rfl⟩
  | none =>
    -- the entry is held somewhere, and there is no way back to the queue or to a call
    have owned := sound.owned.change change
    rcases List.mem_append.1 (owned.held.mem_iff.2 seen) with stays | back
    · obtain ⟨⟨key', other⟩, member, rfl⟩ := List.mem_map.1 stays
      rcases slot_of_change change member with before | ⟨request, rest, first, -, rfl, -⟩
      · rw [sound.owned.key_unique filed before]
        exact .inl ⟨(Table.find?_eq_some_iff owned.uniqueKeys).2 member, rfl⟩
      · refine absurd (List.mem_append_left _ ?_) placed
        rw [first]
        exact List.mem_cons_self
    · rcases unfiled_of_change change back with unfiled | rfl
      · exact absurd unfiled placed
      · exact absurd (Exchanges.lt_length_of_poll unseen) (Nat.lt_irrefl _)

/-- What can be given to an entry in the table: a reply with its key, the failure of its own write,
or, unless its caller has left, the end of the active phase. -/
theorem Given.of_found (owned : link.Owned) (found : link.table.find? key = some ticket)
    {outcome : Except LinkError M} (given : Given wiring link next ticket outcome) :
    (∃ payload message, outcome = .ok message ∧
        next.history = .delivered ticket key :: .received payload :: link.history ∧
        wiring.codec.unpack payload = .message message ∧ wiring.key message = .ok key) ∨
      (∃ source, outcome = .error (.writeFailed key source) ∧ link.writer ≠ .idle ∧
        next.writer = .idle ∧ next.history = .writeFailed ticket key source :: link.history) ∨
      (outcome = .error .closed ∧ (link.exchanges.isAbandoned ticket = true ∨
        (link.phase = .active ∧ next.phase ≠ .active))) := by
  have filed := Table.mem_of_find? found
  have placed := List.mem_map_of_mem (f := Prod.snd) filed
  cases given with
  | reply active history read derived found' live =>
    cases owned.key_unique filed (Table.mem_of_find? found')
    exact .inl ⟨_, _, rfl, history, read, derived⟩
  | writeFailure active own idle working found' history live =>
    cases owned.key_unique filed (Table.mem_of_find? found')
    refine .inr (.inl ⟨_, rfl, ?_, idle, history⟩)
    intro before
    rw [before] at working
    cases working
  -- a request that is refused has its entry in the queue
  | refusal active own first history live =>
    refine absurd placed (owned.not_filed (List.mem_append_left _ ?_))
    rw [first, ← own]
    exact List.mem_cons_self
  | closed why =>
    refine .inr (.inr ⟨rfl, ?_⟩)
    rcases why with gone | elsewhere | drained
    · exact .inl gone
    · exact absurd placed elsewhere
    · exact .inr drained

end Multiplex.Link
