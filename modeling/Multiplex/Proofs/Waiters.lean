import Multiplex.Proofs.Custody

/-!
# Waiters

The waiter for an entry is there from the step that makes both until a step takes it away
(`Releases`): it is dropped, or replaced under its name, or has seen the result. This is what it
means that a caller has stopped waiting (`waiting_after`).
-/

namespace Multiplex.Desk

variable {M : Type}

/-- The step makes an entry and its waiter. -/
def Step.isCreate : Step M → Bool
  | .create _ => true
  | _ => false

/-- The step takes away the waiter for an entry. -/
inductive Releases (desk : Desk M) (ticket : Ticket) : Step M → Prop
  | dropped {name : String} (held : desk.waiters.lookup name = some ticket) :
      Releases desk ticket (.dropWaiter name)
  /-- Another waiter is held under its name. -/
  | replaced {name : String} (held : desk.waiters.lookup name = some ticket) :
      Releases desk ticket (.create name)
  /-- It has seen the result. -/
  | answered {name : String} {result : Except LinkError M}
      (held : desk.waiters.lookup name = some ticket)
      (ready : (desk.step (.poll name)).1 = .ready result) : Releases desk ticket (.poll name)

variable {desk : Desk M} {step : Step M} {name : String} {ticket : Ticket}

/-- The entry of a ticket has been made, and its waiter is gone. -/
def Unattended (desk : Desk M) (ticket : Ticket) : Prop :=
  ticket < desk.exchanges.length ∧ desk.exchanges.isAbandoned ticket = true

theorem length_step (desk : Desk M) (step : Step M) :
    (desk.step step).2.exchanges.length =
      desk.exchanges.length + if step.isCreate then 1 else 0 := by
  cases made : step.isCreate with
  | true =>
    cases step with
    | create name =>
      simp only [Desk.step]
      rw [length_holdWaiter, (sameCallers_holdEntry _ _ _).length, List.length_append]
      rfl
    | _ => cases made
  | false =>
    have effect := effect_of_step desk step
    generalize (desk.step step).2 = next, desk.marks step = new at effect
    cases effect with
    | none => rfl
    | create => cases made
    | file held unsealed free same => exact same.length
    | handOut => exact (sameCallers_holdEntry { desk with table := _ } _ _).length
    | drain => exact (holdAll_frame { desk with table := ⟨[], true⟩ } _ _).2.2.length
    | consume same => exact same.length
    | leave => exact Exchanges.length_leave _ _

/-- A step that takes no waiter away changes nothing for anybody who waits. -/
theorem sameCallers_step (desk : Desk M) (made : step.isCreate = false)
    (drops : ∀ name, step ≠ .dropWaiter name) (polls : ∀ name, step ≠ .poll name) :
    (desk.step step).2.exchanges.SameCallers desk.exchanges := by
  have effect := effect_of_step desk step
  generalize (desk.step step).2 = next, desk.marks step = new at effect
  cases effect with
  | none => exact ⟨rfl, fun _ => rfl⟩
  | create => cases made
  | file held unsealed free same => exact same
  | handOut => exact sameCallers_holdEntry { desk with table := _ } _ _
  | drain => exact (holdAll_frame { desk with table := ⟨[], true⟩ } _ _).2.2
  | consume same => exact same
  | leave awaited asked =>
    rcases asked with rfl | rfl
    · exact absurd rfl (drops _)
    · exact absurd rfl (polls _)

theorem Attended.waits_iff (attended : desk.Attended) :
    desk.exchanges.isAbandoned ticket = false ↔
      ∃ waiter, desk.waiters.lookup waiter = some ticket :=
  (attended.waiting ticket).trans (Table.mem_tickets_iff attended.names)

theorem Attended.lt_length (attended : desk.Attended)
    (held : desk.waiters.lookup name = some ticket) : ticket < desk.exchanges.length := by
  have live := attended.waits_iff.2 ⟨name, held⟩
  exact Exchanges.lt_length_of_waiting live

/-- A waiter that leaves is the only one that is gone afterwards and was not before. -/
theorem unattended_leave (attended : desk.Attended)
    (held : desk.waiters.lookup name = some ticket) (other : Ticket) :
    ({ desk with exchanges := desk.exchanges.leave ticket }.forgetWaiter name).Unattended other ↔
      desk.Unattended other ∨ ticket = other := by
  have inside := attended.lt_length held
  simp only [Unattended, forgetWaiter, Exchanges.length_leave, Exchanges.isAbandoned_leave]
  by_cases own : other = ticket
  · subst own
    simp [inside]
  · simp [own, Ne.symm own]

theorem unattended_create (attended : desk.Attended) (name : String) (other : Ticket) :
    (desk.step (.create name)).2.Unattended other ↔
      desk.Unattended other ∨ desk.waiters.lookup name = some other := by
  let made : Desk M := { desk with exchanges := desk.exchanges ++ [Exchange.fresh] }
  have callers := sameCallers_holdEntry made name desk.exchanges.length
  have length : (desk.step (.create name)).2.exchanges.length = desk.exchanges.length + 1 :=
    length_step desk (.create name)
  have abandoned : (desk.step (.create name)).2.exchanges.isAbandoned other =
      if desk.awaited.find? name = some other then true
      else if other = desk.exchanges.length then false else desk.exchanges.isAbandoned other := by
    have awaited : (made.holdEntry name desk.exchanges.length).awaited = desk.awaited := rfl
    rw [← Exchanges.isAbandoned_append_fresh, ← awaited, ← callers.isAbandoned]
    exact isAbandoned_holdWaiter _ _ _ _
  rw [Unattended, length, abandoned]
  by_cases held : desk.waiters.lookup name = some other
  · have inside := attended.lt_length held
    have found : desk.awaited.find? name = some other := held
    simp [held, found, Nat.lt_succ_of_lt inside]
  · have absent : desk.awaited.find? name ≠ some other := held
    rw [or_iff_left held, if_neg absent, Unattended]
    by_cases own : other = desk.exchanges.length
    · simp [own]
    · rw [if_neg own, Nat.lt_succ_iff_lt_or_eq, or_iff_left own]

theorem unattended_dropWaiter (attended : desk.Attended) (name : String) (other : Ticket) :
    (desk.step (.dropWaiter name)).2.Unattended other ↔
      desk.Unattended other ∨ desk.waiters.lookup name = some other := by
  simp only [Desk.step]
  cases held : desk.waiters.lookup name with
  | none => simp
  | some holder =>
    rw [unattended_leave attended held, Option.some.injEq]

/-- A waiter that has seen its result leaves. -/
theorem unattended_poll (attended : desk.Attended) (name : String) (other : Ticket) :
    (desk.step (.poll name)).2.Unattended other ↔ desk.Unattended other ∨
      (desk.waiters.lookup name = some other ∧
        ∃ result, (desk.step (.poll name)).1 = .ready result) := by
  simp only [Desk.step]
  cases held : desk.waiters.lookup name with
  | none => simp
  | some holder =>
    cases seen : desk.exchanges.poll holder with
    | none => simp [seen]
    | some result =>
      simp only [seen]
      rw [unattended_leave attended held, Option.some.injEq, and_iff_left ⟨result, rfl⟩]

/-- The waiters that are gone after a step. -/
theorem unattended_step (attended : desk.Attended) (step : Step M) (ticket : Ticket) :
    (desk.step step).2.Unattended ticket ↔ desk.Unattended ticket ∨ Releases desk ticket step := by
  have others (made : step.isCreate = false) (drops : ∀ name, step ≠ .dropWaiter name)
      (polls : ∀ name, step ≠ .poll name) : (desk.step step).2.Unattended ticket ↔
        desk.Unattended ticket ∨ Releases desk ticket step := by
    have callers := sameCallers_step desk made drops polls
    rw [Unattended, callers.length, callers.isAbandoned, or_iff_left]
    · rfl
    · intro releases
      cases releases with
      | dropped => exact drops _ rfl
      | replaced => cases made
      | answered => exact polls _ rfl
  cases step with
  | create name =>
    rw [unattended_create attended]
    exact or_congr_right ⟨.replaced, fun | .replaced held => held⟩
  | dropWaiter name =>
    rw [unattended_dropWaiter attended]
    exact or_congr_right ⟨.dropped, fun | .dropped held => held⟩
  | poll name =>
    rw [unattended_poll attended]
    exact or_congr_right ⟨fun ⟨held, _, ready⟩ => .answered held ready,
      fun | .answered held ready => ⟨held, _, ready⟩⟩
  | _ => exact others rfl (fun _ => (nomatch ·)) fun _ => (nomatch ·)

theorem length_after (desk : Desk M) (steps : List (Step M)) :
    (desk.after steps).exchanges.length =
      desk.exchanges.length + steps.countP Step.isCreate := by
  induction steps generalizing desk with
  | nil => rfl
  | cons step rest ih =>
    rw [after_cons, ih, length_step, List.countP_cons, Nat.add_assoc, Nat.add_comm (rest.countP _)]

theorem length_of_steps (steps : List (Step M)) :
    (({} : Desk M).after steps).exchanges.length = steps.countP Step.isCreate :=
  (length_after {} steps).trans (Nat.zero_add _)

theorem unattended_after (attended : desk.Attended) (steps : List (Step M)) (ticket : Ticket) :
    (desk.after steps).Unattended ticket ↔ desk.Unattended ticket ∨
      ∃ earlier step later, steps = earlier ++ step :: later ∧
        Releases (desk.after earlier) ticket step := by
  induction steps generalizing desk with
  | nil => simp
  | cons first rest ih =>
    rw [after_cons, ih (attended.after (effect_of_step desk first)), unattended_step attended,
      or_assoc]
    refine or_congr_right ⟨?_, ?_⟩
    · rintro (releases | ⟨earlier, step, later, rfl, releases⟩)
      · exact ⟨[], first, rest, rfl, releases⟩
      · exact ⟨first :: earlier, step, later, rfl, releases⟩
    · rintro ⟨earlier, step, later, split, releases⟩
      cases earlier with
      | nil =>
        cases split
        exact .inl releases
      | cons head earlier =>
        cases split
        exact .inr ⟨earlier, step, later, rfl, releases⟩

/-- A waiter is there until a step takes it away. -/
theorem waiting_after (steps : List (Step M)) (ticket : Ticket) :
    (({} : Desk M).after steps).exchanges.isAbandoned ticket = false ↔
      ticket < steps.countP Step.isCreate ∧ ∀ earlier step later,
        steps = earlier ++ step :: later → ¬Releases (({} : Desk M).after earlier) ticket step := by
  have made := length_of_steps steps
  have gone := unattended_after attended_vacant steps ticket
  have start : ¬({} : Desk M).Unattended ticket := fun left => Nat.not_lt_zero ticket left.1
  rw [or_iff_right start] at gone
  constructor
  · intro live
    refine ⟨made ▸ Exchanges.lt_length_of_waiting live, fun earlier step later split releases => ?_⟩
    cases live.symm.trans (gone.2 ⟨earlier, step, later, split, releases⟩).2
  · rintro ⟨inside, kept⟩
    rw [← Bool.not_eq_true]
    intro abandoned
    obtain ⟨earlier, step, later, split, releases⟩ := gone.1 ⟨made ▸ inside, abandoned⟩
    exact kept earlier step later split releases

end Multiplex.Desk
