import Multiplex.Proofs.Entries

/-!
# Where errors come from

The error that the caller of a ticket sees is a closed link, or the failure of its own request's
write, or the refusal of its own request. If the write of a request fails, its caller sees exactly
that, unless it has left or already has its reply (`Link.Blamed`).
-/

namespace Multiplex.Link

variable {M : Type} {wiring : Wiring M} {act : Act M} {link next : Link M}

/-- The history accounts for the errors that callers see. -/
structure Blamed (link : Link M) : Prop where
  error : ∀ {ticket : Ticket} {error : LinkError},
    link.exchanges.poll ticket = some (.error error) →
      error = .closed ∨
        (∃ key source, error = .writeFailed key source ∧
          .writeFailed ticket key source ∈ link.history) ∨
        ∃ key, error = .duplicateKey key ∧ .unregistered ticket key error ∈ link.history
  working : ∀ {request : Request}, link.writer.request? = some request → link.phase = .active →
    link.exchanges.isAbandoned request.ticket = true ∨
      link.table.find? request.key = some request.ticket ∨
      ∃ message, link.exchanges.poll request.ticket = some (.ok message)
  failed : ∀ {ticket : Ticket} {key : String} {source : IoError},
    .writeFailed ticket key source ∈ link.history → ticket < link.exchanges.length ∧
      (link.exchanges.isAbandoned ticket = true ∨
        link.exchanges.poll ticket = some (.error (.writeFailed key source)) ∨
        ∃ message, link.exchanges.poll ticket = some (.ok message))

theorem blamed_fresh : (fresh : Link M).Blamed where
  error seen := by
    simp only [fresh, Exchanges.poll, List.getElem?_nil, Option.some.injEq, Except.error.injEq]
      at seen
    exact .inl seen.symm
  working working := by cases working
  failed member := by simp [fresh] at member

/-- A failed write is that of the request on which the writer works. -/
theorem writeFailed_of_change (change : Change wiring act link next) {ticket : Ticket}
    {key : String} {source : IoError} (member : .writeFailed ticket key source ∈ next.history) :
    .writeFailed ticket key source ∈ link.history ∨
      ∃ request, link.writer.request? = some request ∧ request.ticket = ticket ∧
        request.key = key ∧ link.phase = .active ∧
        next.exchanges = link.exchanges.failAt link.table key (.writeFailed key source) := by
  cases change with
  | aside only wire same => exact .inl (only.mem_of_append rfl member)
  | fail active working =>
    rcases List.mem_cons.1 member with new | old
    · cases new
      exact .inr ⟨_, working, rfl, rfl, active, rfl⟩
    · exact .inl old
  | _ => exact .inl (by simpa using member)

/-- The request on which the writer works has been made, so its ticket is in range. -/
theorem Recorded.inside (recorded : link.Recorded wiring) {request : Request}
    (working : link.writer.request? = some request) :
    request.ticket < link.exchanges.length := by
  obtain ⟨message, known⟩ := recorded.carried (.writer working)
  exact (recorded.prepared known).1

/-- As long as the writer works on a request, its entry is in the table, or its caller is gone or
has been answered early. -/
theorem Blamed.working_of_change (change : Change wiring act link next) (sound : link.Sound)
    (recorded : link.Recorded wiring) (blamed : link.Blamed) {request : Request}
    (working : next.writer.request? = some request) (active : next.phase = .active) :
    next.exchanges.isAbandoned request.ticket = true ∨
      next.table.find? request.key = some request.ticket ∨
      ∃ message, next.exchanges.poll request.ticket = some (.ok message) := by
  have grows := Grows.of_change change sound.owned
  rcases Link.working_of_change change working with before | ⟨-, -, filed⟩
  · have inside := recorded.inside before
    rcases blamed.working before (grows.active active) with gone | found | ⟨message, seen⟩
    · exact .inl (grows.exchanges.abandoned _ inside gone)
    · rcases entry_of_change change sound found with ⟨stays, -⟩ | ⟨outcome, given, seen⟩
      · exact .inr (.inl stays)
      · rcases given.of_found sound.owned found with
          ⟨payload, message, rfl, -⟩ | ⟨source, rfl, -, idle, -⟩ | ⟨rfl, gone | ⟨-, inactive⟩⟩
        · exact .inr (.inr ⟨message, seen⟩)
        -- once the write has failed the writer does not work on the request any more
        · rw [idle] at working
          cases working
        · exact .inl (grows.exchanges.abandoned _ inside gone)
        · exact absurd active inactive
    · exact .inr (.inr ⟨message, grows.exchanges.seen inside seen⟩)
  · exact .inr (.inl filed)

theorem Blamed.change (change : Change wiring act link next) (sound : link.Sound)
    (recorded : link.Recorded wiring) (blamed : link.Blamed) : next.Blamed := by
  have grows := Grows.of_change change sound.owned
  refine ⟨?_, blamed.working_of_change change sound recorded, ?_⟩
  · intro ticket error seen
    rcases outcome_of_change change sound seen with before | given
    · rcases blamed.error before with closed | ⟨key, source, same, known⟩ | ⟨key, same, known⟩
      · exact .inl closed
      · exact .inr (.inl ⟨key, source, same, grows.mem_history known⟩)
      · exact .inr (.inr ⟨key, same, grows.mem_history known⟩)
    -- a reply is no error, and each error comes with its event
    · cases given with
      | writeFailure active own idle working found history live =>
        exact .inr (.inl ⟨_, _, rfl, by rw [history]; exact List.mem_cons_self⟩)
      | refusal active own first history live =>
        exact .inr (.inr ⟨_, rfl, by rw [history]; exact List.mem_cons_self⟩)
      | closed why => exact .inl rfl
  · intro ticket key source member
    rcases writeFailed_of_change change member with
      old | ⟨request, working, rfl, rfl, active, failed⟩
    · obtain ⟨inside, gone | seen | ⟨message, seen⟩⟩ := blamed.failed old
      all_goals refine ⟨Nat.lt_of_lt_of_le inside grows.exchanges.length_le, ?_⟩
      · exact .inl (grows.exchanges.abandoned _ inside gone)
      · exact .inr (.inl (grows.exchanges.seen inside seen))
      · exact .inr (.inr ⟨message, grows.exchanges.seen inside seen⟩)
    -- the write fails now: the entry is still there, or its caller does not need it
    · have inside := recorded.inside working
      refine ⟨Nat.lt_of_lt_of_le inside grows.exchanges.length_le, ?_⟩
      cases gone : link.exchanges.isAbandoned request.ticket with
      | true => exact .inl (grows.exchanges.abandoned _ inside gone)
      | false =>
        rcases blamed.working working active with gone' | found | ⟨message, seen⟩
        · rw [gone] at gone'
          cases gone'
        · refine .inr (.inl ?_)
          rw [failed, Exchanges.poll_failAt, if_pos found, gone]
          rfl
        · exact .inr (.inr ⟨message, grows.exchanges.seen inside seen⟩)

end Multiplex.Link
