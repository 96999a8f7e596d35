import Multiplex.Proofs.Ownership

/-!
# What never changes back

Once an exchange has an outcome it keeps it, once a caller has left it does not come back, what is
in the history stays there, time does not run back, and a link that has left its active phase never
returns to it (`Link.Grows`).
-/

namespace Multiplex

variable {M : Type}

namespace Exchanges

/-- The second exchanges can be a later state of the first. -/
structure Grow (exchanges next : Exchanges M) : Prop where
  length_le : exchanges.length ≤ next.length
  poll_eq : ∀ ticket, ticket < exchanges.length → exchanges.poll ticket ≠ none →
    next.poll ticket = exchanges.poll ticket
  abandoned : ∀ ticket, ticket < exchanges.length → exchanges.isAbandoned ticket = true →
    next.isAbandoned ticket = true

variable {exchanges next final : Exchanges M} {ticket : Ticket}

theorem Grow.refl (exchanges : Exchanges M) : exchanges.Grow exchanges :=
  ⟨Nat.le_refl _, fun _ _ _ => rfl, fun _ _ gone => gone⟩

theorem Grow.trans (first : exchanges.Grow next) (second : next.Grow final) :
    exchanges.Grow final := by
  refine ⟨Nat.le_trans first.length_le second.length_le, ?_, ?_⟩
  · intro ticket inside some
    -- an outcome that was there first is there in between, so the second step keeps it too
    have same := first.poll_eq ticket inside some
    rw [← same]
    exact second.poll_eq ticket (Nat.lt_of_lt_of_le inside first.length_le) (same ▸ some)
  · intro ticket inside gone
    exact second.abandoned ticket (Nat.lt_of_lt_of_le inside first.length_le)
      (first.abandoned ticket inside gone)

theorem Grow.seen (grow : exchanges.Grow next) (inside : ticket < exchanges.length)
    {outcome : Except LinkError M} (seen : exchanges.poll ticket = some outcome) :
    next.poll ticket = some outcome := by
  rw [grow.poll_eq ticket inside (by simp [seen])]
  exact seen

/-- Consuming entries that are held changes no outcome, and it makes nobody come back. -/
theorem Grow.of_consume (length : next.length = exchanges.length)
    (same : ∀ ticket, exchanges.poll ticket ≠ none → next.poll ticket = exchanges.poll ticket)
    (callers : ∀ ticket, next.isAbandoned ticket = exchanges.isAbandoned ticket) :
    exchanges.Grow next :=
  ⟨Nat.le_of_eq length.symm, fun ticket _ => same ticket,
    fun ticket _ gone => (callers ticket).trans gone⟩

theorem Grow.fail (held : exchanges.poll ticket = none) (error : LinkError) :
    exchanges.Grow (exchanges.fail ticket error).1 := by
  refine .of_consume (length_fail _ _ _) ?_ fun other => isAbandoned_fail _ _ _ _
  intro other some
  rw [poll_fail, if_neg]
  rintro rfl
  exact some held

theorem Grow.resolve (held : exchanges.poll ticket = none) (message : M) :
    exchanges.Grow (exchanges.resolve ticket message).1 := by
  refine .of_consume (length_resolve _ _ _) ?_ fun other => isAbandoned_resolve _ _ _ _
  intro other some
  rw [poll_resolve, if_neg]
  rintro rfl
  exact some held

theorem Grow.drop (exchanges : Exchanges M) (ticket : Ticket) :
    exchanges.Grow (exchanges.drop ticket) := by
  refine .of_consume (length_drop _ _) ?_ fun other => isAbandoned_drop _ _ _
  intro other some
  rw [poll_drop, if_neg]
  rintro ⟨rfl, none⟩
  exact some none

theorem Grow.vacate (exchanges : Exchanges M) (table : Table) (key : String) :
    exchanges.Grow (exchanges.vacate table key) := by
  unfold Exchanges.vacate
  split
  · exact .drop _ _
  · exact .refl _

theorem Grow.failAt {table : Table} {key : String}
    (held : ∀ holder, table.find? key = some holder → exchanges.poll holder = none)
    (error : LinkError) : exchanges.Grow (exchanges.failAt table key error) := by
  unfold Exchanges.failAt
  split
  · next holder found => exact .fail (held holder found) _
  · exact .refl _

theorem Grow.closeAll {tickets : List Ticket}
    (held : ∀ ticket ∈ tickets, exchanges.poll ticket = none) :
    exchanges.Grow (exchanges.closeAll tickets) := by
  refine .of_consume (length_closeAll _ _) ?_ fun other => isAbandoned_closeAll _ _ _
  intro other some
  rw [poll_closeAll, if_neg]
  exact fun member => some (held other member)

theorem Grow.dropAll (exchanges : Exchanges M) (tickets : List Ticket) :
    exchanges.Grow (exchanges.dropAll tickets) := by
  refine .of_consume (length_dropAll _ _) ?_ fun other => isAbandoned_dropAll _ _ _
  intro other some
  rw [poll_dropAll, if_neg]
  exact fun both => some both.2

theorem Grow.quit (exchanges : Exchanges M) (ticket : Ticket) (handed : Bool) :
    exchanges.Grow (exchanges.quit ticket handed) := by
  refine ⟨Nat.le_of_eq (length_quit _ _ _).symm, ?_, ?_⟩
  · intro other _ some
    rw [poll_quit, if_neg]
    rintro ⟨-, rfl, none⟩
    exact some none
  · intro other _ gone
    rw [isAbandoned_quit, gone]
    split <;> rfl

theorem Grow.fresh (exchanges : Exchanges M) :
    exchanges.Grow (exchanges ++ [Exchange.fresh] : Exchanges M) := by
  refine ⟨by simp, ?_, ?_⟩
  · intro ticket inside _
    rw [poll_append_fresh, if_neg (Nat.ne_of_lt inside)]
  · intro ticket inside gone
    rw [isAbandoned_append_fresh, if_neg (Nat.ne_of_lt inside)]
    exact gone

end Exchanges

namespace Link

/-- The second link can be a later state of the first. -/
structure Grows (link next : Link M) : Prop where
  exchanges : link.exchanges.Grow next.exchanges
  history : ∃ new, next.history = new ++ link.history
  clock_le : link.clock ≤ next.clock
  made_le : link.made ≤ next.made
  inactive : link.phase ≠ .active → next.phase ≠ .active

variable {wiring : Wiring M} {act : Act M} {link next final : Link M}

theorem Grows.refl (link : Link M) : link.Grows link :=
  ⟨.refl _, ⟨[], rfl⟩, Nat.le_refl _, Nat.le_refl _, id⟩

theorem Grows.trans (first : link.Grows next) (second : next.Grows final) : link.Grows final where
  exchanges := first.exchanges.trans second.exchanges
  history := by
    obtain ⟨new, eq⟩ := first.history
    obtain ⟨newer, eq'⟩ := second.history
    exact ⟨newer ++ new, by rw [eq', eq, List.append_assoc]⟩
  clock_le := Nat.le_trans first.clock_le second.clock_le
  made_le := Nat.le_trans first.made_le second.made_le
  inactive left := second.inactive (first.inactive left)

theorem Grows.mem_history (grows : link.Grows next) {event : Event M}
    (member : event ∈ link.history) : event ∈ next.history := by
  obtain ⟨new, eq⟩ := grows.history
  rw [eq]
  exact List.mem_append_right _ member

theorem Grows.active (grows : link.Grows next) (active : next.phase = .active) :
    link.phase = .active :=
  Decidable.not_not.1 fun left => grows.inactive left active

/-- Entries in the table and in the queue have no outcome yet. -/
theorem Owned.poll_of_find? (owned : link.Owned) {key : String} {ticket : Ticket}
    (found : link.table.find? key = some ticket) : link.exchanges.poll ticket = none :=
  owned.held.mem_iff.1
    (List.mem_append_left _ (List.mem_map_of_mem (Table.mem_of_find? found)))

theorem Owned.poll_of_slot (owned : link.Owned) {ticket : Ticket}
    (member : ticket ∈ link.table.slots.map Prod.snd) : link.exchanges.poll ticket = none :=
  owned.held.mem_iff.1 (List.mem_append_left _ member)

theorem Owned.poll_of_queued (owned : link.Owned) {ticket : Ticket}
    (member : ticket ∈ link.queue.map Request.ticket) : link.exchanges.poll ticket = none :=
  owned.held.mem_iff.1 (List.mem_append_right _ (List.mem_append_left _ member))

theorem grow_of_change (change : Change wiring act link next) (owned : link.Owned) :
    link.exchanges.Grow next.exchanges := by
  cases change with
  -- what is failed was held in the table or in the queue, so it had no outcome to lose
  | drain active => exact .closeAll fun ticket member => owned.poll_of_slot member
  | send asked active ticket framed => exact .fresh _
  | @abort call asked member =>
    cases task : call.task with
    | send request handed timer => exact .quit _ _ _
    | close => exact .refl _
    | watch => exact .refl _
  | finish asked member task returns => exact .quit _ _ _
  | withdraw found gone => exact .drop _ _
  | claimed active running read derived found live => exact .resolve (owned.poll_of_find? found) _
  | late active running read derived found gone => exact .resolve (owned.poll_of_find? found) _
  | stopWriting inactive idle => exact .closeAll fun ticket member => owned.poll_of_queued member
  | refuse active idle first found live =>
    exact .fail (owned.poll_of_queued (by simp [first])) _
  | skip active idle first free gone => exact (Exchanges.Grow.vacate _ _ _).trans (.drop _ _)
  | register active idle first free live => exact .vacate _ _ _
  | fail active working => exact .failAt (fun holder found => owned.poll_of_find? found) _
  | interrupt inactive working => exact .failAt (fun holder found => owned.poll_of_find? found) _
  | crashWriting active working => exact .dropAll _ _
  | _ => exact .refl _

theorem Grows.of_change (change : Change wiring act link next) (owned : link.Owned) :
    link.Grows next := by
  refine ⟨grow_of_change change owned, ?_, ?_, ?_, ?_⟩
  · cases change with
    | aside only wire same => exact ⟨_, rfl⟩
    | claimed | skip => exact ⟨[_, _], rfl⟩
    | drain | issue | send | reject | enqueue | finish | conclude | undecoded | unclaimed | late
    | refuse | register | sent | fail => exact ⟨[_], rfl⟩
    | _ => exact ⟨[], rfl⟩
  · cases change with
    | advance asked => exact Nat.le_add_right _ _
    | _ => exact Nat.le_refl _
  · cases change with
    | send | reject | await => exact Nat.le_succ _
    | _ => exact Nat.le_refl _
  · cases change with
    | drain active => exact fun _ => by simp
    | closeDown draining writer reader => exact fun _ => by simp
    | _ => exact id

/-- Every act leads from a link to a later state of it. -/
theorem Grows.of_act (sound : link.Sound) (h : act? wiring link act = some next) :
    link.Grows next :=
  sound.keeps (motive := link.Grows)
    (fun change sound grows => grows.trans (.of_change change sound.owned)) h (.refl link)

theorem Grows.of_follow {acts : List (Act M)} (sound : link.Sound)
    (run : follow? wiring link acts = some final) : link.Grows final :=
  sound.follow_keeps (motive := link.Grows)
    (fun change sound grows => grows.trans (.of_change change sound.owned)) run (.refl link)

end Link

end Multiplex
