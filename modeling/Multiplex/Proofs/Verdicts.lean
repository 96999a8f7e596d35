import Multiplex.Proofs.Senders
import Multiplex.Proofs.Waiters

/-!
# One verdict for each entry

Whatever is done at a desk, each entry is consumed at most once, and until then it is in the table
or held under a name. The steps say how it was consumed (`Desk.verdicts`), and the senders of the
entry say the same (`Account`), so that its waiter sees the verdict and nothing else, whenever it
looks. Whether an outcome reaches anybody depends on the waiter alone.

Main statement: `oneVerdict_of_steps`.
-/

namespace Multiplex.Desk

variable {M : Type}

/-- How a step consumes an entry, if it does. An outcome is delivered on the entry that is held
under the name; any other entry that is nowhere after the step has been dropped. -/
def verdict? (desk : Desk M) (step : Step M) (ticket : Ticket) : Option (Verdict M) :=
  match step with
  | .resolve name message =>
    if desk.entries.lookup name = some ticket then some (.resolved message) else none
  | .fail name error =>
    if desk.entries.lookup name = some ticket then some (.failed error) else none
  | step =>
    if ticket ∈ desk.tickets ∧ ticket ∉ (desk.step step).2.tickets then some .dropped else none

/-- Every verdict that steps pass on an entry, in order. -/
def verdicts : Desk M → List (Step M) → Ticket → List (Verdict M)
  | _, [], _ => []
  | desk, step :: rest, ticket =>
    (desk.verdict? step ticket).toList ++ verdicts (desk.step step).2 rest ticket

/-- What a waiter that is held under a name sees, by the verdicts on its entry. -/
structure Sees (desk : Desk M) (name : String) (verdicts : List (Verdict M)) : Prop where
  pending_iff : (desk.step (.poll name)).1 = .pending ↔ verdicts = []
  ok_iff : ∀ message, (desk.step (.poll name)).1 = .ready (.ok message) ↔
    verdicts = [.resolved message]
  /-- It reads of its own accord that the link is closed only if its entry was dropped. -/
  error_iff : ∀ error, (desk.step (.poll name)).1 = .ready (.error error) ↔
    verdicts = [.failed error] ∨ (error = .closed ∧ verdicts = [.dropped])

/-- What is answered to whoever consumes an entry that is held under a name, or asks for its
waiter. -/
structure Reaches (desk : Desk M) (name : String) (waits : Prop) : Prop where
  resolved_iff : ∀ message, (desk.step (.resolve name message)).1 = .done ↔ waits
  returned_iff : ∀ message returned, (desk.step (.resolve name message)).1 = .returned returned ↔
    ¬waits ∧ returned = message
  failed_iff : ∀ error reached, (desk.step (.fail name error)).1 = .delivered reached ↔
    (reached = true ↔ waits)
  abandoned_iff : ∀ flag, (desk.step (.isAbandoned name)).1 = .flag flag ↔ (flag = true ↔ ¬waits)

/-- A desk at which some steps have been made, and the verdicts that they have passed. -/
structure OneVerdict (steps : List (Step M)) (desk : Desk M) : Prop where
  /-- Entries are numbered as they are made, each with its waiter. -/
  numbered : ∀ earlier name later, steps = earlier ++ .create name :: later →
    (({} : Desk M).after (earlier ++ [.create name])).entries.lookup name =
        some (earlier.countP Step.isCreate) ∧
      (({} : Desk M).after (earlier ++ [.create name])).waiters.lookup name =
        some (earlier.countP Step.isCreate)
  /-- Of all that is made, what has not been consumed is in the table or held under a name. -/
  once : ∀ ticket < steps.countP Step.isCreate,
    (({} : Desk M).verdicts steps ticket = [] ∧ ticket ∈ desk.tickets) ∨
      ∃ verdict, ({} : Desk M).verdicts steps ticket = [verdict] ∧ ticket ∉ desk.tickets
  sees : ∀ name ticket, desk.waiters.lookup name = some ticket →
    desk.Sees name (({} : Desk M).verdicts steps ticket)
  /-- A result remains what it is for as long as anybody can look. -/
  stable : ∀ earlier later before name ticket result, steps = earlier ++ later →
    (({} : Desk M).after earlier).waiters.lookup before = some ticket →
      desk.waiters.lookup name = some ticket →
        ((({} : Desk M).after earlier).step (.poll before)).1 = .ready result →
          (desk.step (.poll name)).1 = .ready result
  reaches : ∀ name ticket, desk.entries.lookup name = some ticket →
    desk.Reaches name (∃ waiter, desk.waiters.lookup waiter = some ticket)
  waits_iff : ∀ ticket, (∃ waiter, desk.waiters.lookup waiter = some ticket) ↔
    ticket < steps.countP Step.isCreate ∧ ∀ earlier step later, steps = earlier ++ step :: later →
      ¬Releases (({} : Desk M).after earlier) ticket step
  /-- It makes no difference that the two senders of an entry go one after the other. -/
  discreet : ∀ ticket ∈ desk.tickets, ∃ exchange, desk.exchanges[ticket]? = some exchange ∧
    exchange.Discreet

variable {desk : Desk M} {step : Step M} {name key into : String} {ticket : Ticket}
  {slots : List (String × Ticket)}

/-! ## Entries that move or are dropped -/

/-- Every entry in some place has both its senders. -/
def Intact (desk : Desk M) : Prop :=
  ∀ ticket ∈ desk.tickets, desk.exchanges.senders ticket = some (.held, .held)

theorem perm_forgetEntry (names : desk.held.UniqueKeys)
    (found : desk.held.find? name = some ticket) :
    desk.tickets.Perm (ticket :: (desk.forgetEntry name).tickets) :=
  (((Table.perm_erase names found).map Prod.snd).append_left _).trans List.perm_middle

theorem forgetEntry_eq_self (none : desk.held.find? name = none) :
    desk.forgetEntry name = desk := by
  have same : (desk.held.erase name).slots = desk.held.slots := by rw [Table.erase_eq_self none]
  exact congrArg (fun entries => { desk with entries }) same

theorem perm_holdEntry (desk : Desk M) (name : String) (ticket : Ticket) :
    (ticket :: (desk.forgetEntry name).tickets).Perm (desk.holdEntry name ticket).tickets :=
  List.perm_middle.symm

/-- What was held under the name is dropped when another entry is held there. -/
theorem sheds_holdEntry (names : desk.held.UniqueKeys) (once : (ticket :: desk.tickets).Nodup)
    (intact : desk.Intact) (name : String) :
    desk.exchanges.Sheds (desk.holdEntry name ticket).exchanges (ticket :: desk.tickets)
      (desk.holdEntry name ticket).tickets := by
  have placed := perm_holdEntry desk name ticket
  cases found : desk.held.find? name with
  | none =>
    have same : (desk.holdEntry name ticket).exchanges = desk.exchanges := by
      have none : desk.entries.lookup name = none := found
      simp only [holdEntry, none]
    rw [forgetEntry_eq_self found] at placed
    exact .of_perm placed fun _ => by rw [same]
  | some old =>
    have dropped : (desk.holdEntry name ticket).exchanges = desk.exchanges.drop old := by
      have held : desk.entries.lookup name = some old := found
      simp only [holdEntry, held]
    have left := perm_forgetEntry names found
    rw [dropped]
    refine .of_drop (intact old (left.mem_iff.2 List.mem_cons_self)) once ?_
    exact (left.cons ticket).trans ((List.Perm.swap _ _ _).trans (placed.cons old))

theorem sheds_holdAll (names : desk.held.UniqueKeys)
    (once : (slots.map Prod.snd ++ desk.tickets).Nodup)
    (intact : ∀ ticket ∈ slots.map Prod.snd ++ desk.tickets,
      desk.exchanges.senders ticket = some (.held, .held)) :
    desk.exchanges.Sheds (desk.holdAll into slots).exchanges
      (slots.map Prod.snd ++ desk.tickets) (desk.holdAll into slots).tickets := by
  -- one entry after another; those still to be held are in nobody's way
  induction slots generalizing desk with
  | nil => exact .refl _ _
  | cons slot rest ih =>
    have order : (slot.2 :: (rest.map Prod.snd ++ desk.tickets)).Perm
        (rest.map Prod.snd ++ slot.2 :: desk.tickets) := List.perm_middle.symm
    obtain ⟨-, once', apart⟩ := List.nodup_append.1 (order.nodup_iff.1 once)
    have intact' : desk.Intact := fun ticket member =>
      intact ticket (List.mem_append_right _ member)
    have first : desk.exchanges.Sheds (desk.holdEntry (into ++ slot.1) slot.2).exchanges
        (slot.2 :: (rest.map Prod.snd ++ desk.tickets))
        (rest.map Prod.snd ++ (desk.holdEntry (into ++ slot.1) slot.2).tickets) := by
      refine .trans (.of_perm order fun _ => rfl) ?_
      exact (sheds_holdEntry names once' intact' _).append_left fun ticket waits member =>
        apart ticket waits ticket member rfl
    have moved := (List.subperm_append_left (rest.map Prod.snd)).2
      (tickets_holdEntry desk (into ++ slot.1) slot.2)
    have once'' := nodup_of_subperm moved (order.nodup_iff.1 once)
    exact first.trans (ih (names.file _ _) once'' (first.held intact))

/-- Filing an entry drops at most the one that it displaces. -/
theorem sheds_insert (tidy : desk.Tidy) (intact : desk.Intact) (name key : String) :
    desk.exchanges.Sheds (desk.step (.insert name key)).2.exchanges desk.tickets
      (desk.step (.insert name key)).2.tickets := by
  simp only [Desk.step]
  cases held : desk.entries.lookup name with
  | none => exact .refl _ _
  | some ticket =>
    rcases desk.table.insert_cases desk.exchanges.isAbandoned key ticket with
      ⟨-, refused⟩ | ⟨-, duplicate⟩ | ⟨-, accepted⟩
    · simp only [refused, putBack_of_lookup held]
      exact .refl _ _
    · simp only [duplicate, putBack_of_lookup held]
      exact .refl _ _
    · simp only [accepted]
      -- what is held under the name moves in front of what is under other keys
      have moved : desk.tickets.Perm (ticket :: desk.table.slots.map Prod.snd ++
          (desk.forgetEntry name).entries.map Prod.snd) :=
        perm_forgetEntry tidy.names held
      cases found : desk.table.find? key with
      | none =>
        have same := congrArg Table.slots (Table.erase_eq_self found)
        rw [← same] at moved
        exact .of_perm moved fun _ => rfl
      | some old =>
        have member : old ∈ desk.tickets :=
          List.mem_append_left _ (List.mem_map_of_mem (f := Prod.snd) (Table.mem_of_find? found))
        have split := (Table.perm_erase tidy.keys found).map Prod.snd
        refine .of_drop (intact old member) tidy.once (moved.trans ?_)
        exact ((split.append_right _).cons ticket).trans (.swap _ _ _)

/-- Taking an entry out of the table drops at most the one whose name it takes. -/
theorem sheds_take (tidy : desk.Tidy) (intact : desk.Intact)
    (found : desk.table.find? key = some ticket) (into : String) :
    desk.exchanges.Sheds
      ({ desk with table := desk.table.erase key }.holdEntry into ticket).exchanges desk.tickets
      ({ desk with table := desk.table.erase key }.holdEntry into ticket).tickets := by
  let rest : Desk M := { desk with table := desk.table.erase key }
  have names : rest.held.UniqueKeys := tidy.names
  have split : desk.tickets.Perm (ticket :: rest.tickets) :=
    ((Table.perm_erase tidy.keys found).map Prod.snd).append_right _
  have intact' : rest.Intact := by
    intro other member
    exact intact other (split.mem_iff.2 (List.mem_cons_of_mem _ member))
  apply Exchanges.Sheds.trans (.of_perm split fun _ => rfl)
  exact sheds_holdEntry names (split.nodup_iff.1 tidy.once) intact' into

/-- Draining the table drops at most the entries whose names are taken. -/
theorem sheds_drain (tidy : desk.Tidy) (intact : desk.Intact) (into : String) :
    desk.exchanges.Sheds (desk.step (.drain into)).2.exchanges desk.tickets
      (desk.step (.drain into)).2.tickets := by
  let rest : Desk M := { desk with table := ⟨[], true⟩ }
  have names : rest.held.UniqueKeys := tidy.names
  have sorted : desk.tickets.Perm
      ((desk.table.slots.mergeSort keyLe).map Prod.snd ++ rest.tickets) :=
    ((List.mergeSort_perm desk.table.slots keyLe).symm.map Prod.snd).append_right _
  apply Exchanges.Sheds.trans (.of_perm sorted fun _ => rfl)
  apply sheds_holdAll names (sorted.nodup_iff.1 tidy.once)
  intro ticket member
  exact intact ticket (sorted.mem_iff.2 member)

/-- A step that delivers no outcome and makes no entry drops those that are nowhere afterwards. -/
theorem sheds_step (tidy : desk.Tidy) (intact : desk.Intact) (made : step.isCreate = false)
    (resolves : ∀ name message, step ≠ .resolve name message)
    (fails : ∀ name error, step ≠ .fail name error) :
    desk.exchanges.Sheds (desk.step step).2.exchanges desk.tickets (desk.step step).2.tickets := by
  cases step with
  | create name => cases made
  | resolve name message => exact absurd rfl (resolves name message)
  | fail name error => exact absurd rfl (fails name error)
  | insert name key => exact sheds_insert tidy intact name key
  | take key into =>
    simp only [Desk.step, Table.take]
    cases found : desk.table.find? key with
    | none => exact .refl _ _
    | some ticket => exact sheds_take tidy intact found into
  | takeAbandoned key into =>
    simp only [Desk.step]
    rcases desk.table.takeAbandoned_cases desk.exchanges.isAbandoned key with
      ⟨holder, found, -, taken⟩ | ⟨taken, -⟩
    · rw [taken]
      exact sheds_take tidy intact found into
    · rw [taken]
      exact .refl _ _
  | drain into => exact sheds_drain tidy intact into
  | isAbandoned name =>
    simp only [Desk.step]
    split <;> exact .refl _ _
  | dropEntry name =>
    simp only [Desk.step]
    cases held : desk.entries.lookup name with
    | none => exact .refl _ _
    | some ticket =>
      have left := perm_forgetEntry tidy.names held
      exact .of_drop (intact ticket (left.mem_iff.2 List.mem_cons_self)) tidy.once left
  | dropWaiter name =>
    simp only [Desk.step]
    split
    · exact .refl _ _
    · exact .of_leave _ _ _
  | poll name =>
    simp only [Desk.step]
    split
    · exact .refl _ _
    · split
      · exact .refl _ _
      · exact .of_leave _ _ _

/-! ## What the senders of an entry say -/

/-- The verdicts that have been passed on an entry, which is in one of some places or consumed. -/
inductive Account (exchanges : Exchanges M) (places : List Ticket) (ticket : Ticket) :
    List (Verdict M) → Prop
  | unmade (later : exchanges.length ≤ ticket) (gone : ticket ∉ places) :
      Account exchanges places ticket []
  | unspent (inside : ticket ∈ places) (held : exchanges.senders ticket = some (.held, .held)) :
      Account exchanges places ticket []
  /-- If its waiter is still there, it can see the verdict. -/
  | spent {verdict : Verdict M} (made : ticket < exchanges.length) (gone : ticket ∉ places)
      (told : exchanges.isAbandoned ticket = false →
        exchanges.senders ticket = some verdict.senders) :
      Account exchanges places ticket [verdict]

namespace Account

variable {exchanges others : Exchanges M} {before after : List Ticket} {other : Ticket}
  {passed : List (Verdict M)} {verdict : Verdict M}

/-- A new entry is in a place. -/
theorem create (account : Account exchanges before ticket passed) :
    Account (exchanges ++ [Exchange.fresh]) (exchanges.length :: before) ticket passed := by
  cases account with
  | unmade later gone =>
    by_cases own : ticket = exchanges.length
    · subst own
      refine .unspent List.mem_cons_self ?_
      rw [Exchanges.senders_append_fresh, if_pos rfl]
    · refine .unmade ?_ (List.not_mem_cons_of_ne_of_not_mem own gone)
      rw [List.length_append, List.length_singleton]
      exact Nat.lt_of_le_of_ne later (Ne.symm own)
  | unspent inside held =>
    refine .unspent (List.mem_cons_of_mem _ inside) ?_
    rw [Exchanges.senders_append_fresh, held]
    split <;> rfl
  | spent made gone told =>
    have own : ticket ≠ exchanges.length := Nat.ne_of_lt made
    refine .spent ?_ (List.not_mem_cons_of_ne_of_not_mem own gone) fun waits => ?_
    · rw [List.length_append]
      exact Nat.lt_add_right _ made
    · rw [Exchanges.isAbandoned_append_fresh, if_neg own] at waits
      rw [Exchanges.senders_append_fresh, if_neg own]
      exact told waits

/-- An entry that is shed has been dropped. -/
theorem shed (account : Account exchanges before ticket passed)
    (sheds : exchanges.Sheds others before after) (length : others.length = exchanges.length)
    (waiting : others.isAbandoned ticket = false → exchanges.isAbandoned ticket = false)
    {last : Option (Verdict M)}
    (lost : last = if ticket ∈ before ∧ ticket ∉ after then some .dropped else none) :
    Account others after ticket (passed ++ last.toList) := by
  subst lost
  cases account with
  | unmade later gone =>
    rw [if_neg fun lost => gone lost.1]
    refine .unmade (by rwa [length]) fun inside => gone (sheds.kept ticket inside)
  | unspent inside held =>
    by_cases left : ticket ∈ after
    · rw [if_neg fun lost => lost.2 left]
      refine .unspent left ?_
      rw [sheds.same ticket fun _ => left, held]
    · rw [if_pos ⟨inside, left⟩]
      refine .spent ?_ left fun _ => sheds.dropped ticket inside left
      rw [length]
      exact Exchanges.lt_length_of_senders held
  | spent made gone told =>
    rw [if_neg fun lost => gone lost.1]
    refine .spent (by rwa [length]) (fun inside => gone (sheds.kept ticket inside)) fun waits => ?_
    rw [sheds.same ticket fun inside => absurd inside gone]
    exact told (waiting waits)

/-- An outcome is delivered on one entry, which is consumed by it. -/
theorem deliver (account : Account exchanges before ticket passed) (once : before.Nodup)
    (left : before.Perm (other :: after)) (callers : others.SameCallers exchanges)
    (told : exchanges.isAbandoned other = false → others.senders other = some verdict.senders)
    (same : ticket ≠ other → others.senders ticket = exchanges.senders ticket) :
    Account others after ticket
      (passed ++ (if some other = some ticket then some verdict else none).toList) := by
  obtain ⟨gone', -⟩ := List.nodup_cons.1 (left.nodup_iff.1 once)
  by_cases own : ticket = other
  · subst own
    have inside : ticket ∈ before := left.mem_iff.2 List.mem_cons_self
    rw [if_pos rfl]
    cases account with
    | unmade later gone | spent made gone => exact absurd inside gone
    | unspent _ held =>
      refine .spent ?_ gone' fun waits => told (by rwa [← callers.isAbandoned])
      rw [callers.length]
      exact Exchanges.lt_length_of_senders held
  · have stays : ticket ∈ after ↔ ticket ∈ before := by simp [left.mem_iff, own]
    rw [if_neg fun inside => own (Option.some.inj inside).symm, Option.toList_none,
      List.append_nil]
    cases account with
    | unmade later gone => exact .unmade (by rwa [callers.length]) (by rwa [stays])
    | unspent inside held => exact .unspent (stays.2 inside) (by rw [same own, held])
    | spent made gone told =>
      refine .spent (by rwa [callers.length]) (by rwa [stays]) fun waits => ?_
      rw [same own]
      exact told (by rwa [← callers.isAbandoned])

end Account

/-! ## Whole runs -/

variable {passed : Ticket → List (Verdict M)}

/-- The verdicts that have been passed on each entry of a desk. -/
def Accounts (desk : Desk M) (passed : Ticket → List (Verdict M)) : Prop :=
  ∀ ticket, Account desk.exchanges desk.tickets ticket (passed ticket)

theorem Accounts.intact (accounts : desk.Accounts passed) : desk.Intact := by
  intro ticket inside
  have account := accounts ticket
  generalize passed ticket = verdicts at account
  cases account with
  | unspent inside held => exact held
  | unmade later gone | spent made gone => exact absurd inside gone

/-- A new entry may take the name of another, which is dropped. -/
theorem Accounts.create (accounts : desk.Accounts passed) (tidy : desk.Tidy) (name : String) :
    (desk.step (.create name)).2.Accounts fun ticket =>
      passed ticket ++ (desk.verdict? (.create name) ticket).toList := by
  let made : Desk M := { desk with exchanges := desk.exchanges ++ [Exchange.fresh] }
  let held : Desk M := made.holdEntry name desk.exchanges.length
  have names : made.held.UniqueKeys := tidy.names
  have once : (desk.exchanges.length :: made.tickets).Nodup := tidy.once.cons tidy.fresh_not_mem
  have intact : made.Intact := by
    intro ticket inside
    rw [Exchanges.senders_append_fresh, accounts.intact ticket inside]
    split <;> rfl
  have senders (ticket : Ticket) : (desk.step (.create name)).2.exchanges.senders ticket =
      held.exchanges.senders ticket := by
    show (held.holdWaiter name desk.exchanges.length).exchanges.senders ticket = _
    unfold holdWaiter
    dsimp only
    split
    · exact Exchanges.senders_leave
    · rfl
  have sheds := (sheds_holdEntry names once intact name).trans (.of_perm (.refl _) senders)
  have length : (desk.step (.create name)).2.exchanges.length = made.exchanges.length := by
    rw [length_step, List.length_append]
    rfl
  have waiting {ticket : Ticket}
      (waits : (desk.step (.create name)).2.exchanges.isAbandoned ticket = false) :
      made.exchanges.isAbandoned ticket = false := by
    rw [← (sameCallers_holdEntry made name desk.exchanges.length).isAbandoned]
    have left := (isAbandoned_holdWaiter held name desk.exchanges.length ticket).symm.trans waits
    split at left
    · cases left
    · exact left
  -- the new entry is where it was put
  have new : desk.exchanges.length ∈ held.tickets :=
    (perm_holdEntry made name desk.exchanges.length).mem_iff.1 List.mem_cons_self
  intro ticket
  apply (accounts ticket).create.shed sheds length waiting
  have places : ticket ∈ desk.tickets ∧ ticket ∉ held.tickets ↔
      ticket ∈ desk.exchanges.length :: made.tickets ∧ ticket ∉ held.tickets := by
    refine and_congr_left fun gone => (List.mem_cons.trans (or_iff_right ?_)).symm
    rintro rfl
    exact gone new
  exact if_congr places rfl rfl

/-- What a step drops has been dropped, and nothing else is consumed by it unless it delivers an
outcome. -/
theorem Accounts.shed (accounts : desk.Accounts passed) (tidy : desk.Tidy)
    (attended : desk.Attended) (made : step.isCreate = false)
    (resolves : ∀ name message, step ≠ .resolve name message)
    (fails : ∀ name error, step ≠ .fail name error) : (desk.step step).2.Accounts fun ticket =>
      passed ticket ++ (if ticket ∈ desk.tickets ∧ ticket ∉ (desk.step step).2.tickets then
        some Verdict.dropped else none).toList := by
  intro ticket
  have sheds := sheds_step tidy accounts.intact made resolves fails
  have length : (desk.step step).2.exchanges.length = desk.exchanges.length := by
    rw [length_step, made]
    rfl
  refine (accounts ticket).shed sheds length ?_ rfl
  intro waits
  have inside := Exchanges.lt_length_of_waiting waits
  rw [length] at inside
  rw [← Bool.not_eq_true]
  intro gone
  have left := (unattended_step attended step ticket).2 (.inl ⟨inside, gone⟩)
  cases waits.symm.trans left.2

theorem Accounts.after_step (accounts : desk.Accounts passed) (tidy : desk.Tidy)
    (attended : desk.Attended) (step : Step M) : (desk.step step).2.Accounts fun ticket =>
      passed ticket ++ (desk.verdict? step ticket).toList := by
  cases step with
  | create name => exact accounts.create tidy name
  | resolve name message =>
    intro ticket
    simp only [Desk.step, verdict?]
    cases held : desk.entries.lookup name with
    | none => simpa using accounts ticket
    | some holder =>
      have left := perm_forgetEntry tidy.names held
      have account := (accounts ticket).deliver tidy.once left
        (sameCallers_resolve desk.exchanges holder message)
        (fun live => (Exchanges.senders_resolve live message).trans (if_pos rfl))
        (fun differs => Exchanges.senders_resolve_of_ne differs message)
      dsimp only
      split <;> exact account
  | fail name error =>
    intro ticket
    simp only [Desk.step, verdict?]
    cases held : desk.entries.lookup name with
    | none => simpa using accounts ticket
    | some holder =>
      have left := perm_forgetEntry tidy.names held
      exact (accounts ticket).deliver tidy.once left
        (sameCallers_fail desk.exchanges holder error)
        (fun live => (Exchanges.senders_fail live error).trans (if_pos rfl))
        (fun differs => Exchanges.senders_fail_of_ne differs error)
  | _ => exact accounts.shed tidy attended rfl (by simp) (by simp)

theorem Accounts.follow (accounts : desk.Accounts passed) (tidy : desk.Tidy)
    (attended : desk.Attended) (steps : List (Step M)) :
    (desk.after steps).Accounts fun ticket => passed ticket ++ desk.verdicts steps ticket := by
  induction steps generalizing desk passed with
  | nil => simpa [verdicts] using accounts
  | cons step rest ih =>
    have later := ih (accounts.after_step tidy attended step) (tidy.after_step step)
      (attended.after (effect_of_step desk step))
    rw [after_cons]
    simpa only [verdicts, List.append_assoc] using later

theorem accounts_of_steps (steps : List (Step M)) :
    (({} : Desk M).after steps).Accounts (({} : Desk M).verdicts steps) := by
  have start : ({} : Desk M).Accounts fun _ => [] := fun ticket =>
    .unmade (Nat.zero_le ticket) (fun member => nomatch member)
  exact start.follow tidy_vacant attended_vacant steps

theorem verdicts_append (desk : Desk M) (steps later : List (Step M)) (ticket : Ticket) :
    desk.verdicts (steps ++ later) ticket =
      desk.verdicts steps ticket ++ (desk.after steps).verdicts later ticket := by
  induction steps generalizing desk with
  | nil => rfl
  | cons step rest ih =>
    rw [List.cons_append, verdicts, verdicts, ih, List.append_assoc]
    rfl

/-! ## What is answered -/

/-- A waiter that is still there sees the verdict on its entry. -/
theorem Accounts.poll_eq (accounts : desk.Accounts passed)
    (live : desk.exchanges.isAbandoned ticket = false) :
    desk.exchanges.poll ticket = (passed ticket).head?.map Verdict.result ∧
      (passed ticket).length ≤ 1 := by
  have account := accounts ticket
  generalize passed ticket = verdicts at account
  cases account with
  | unmade later => exact absurd (Exchanges.lt_length_of_waiting live) (Nat.not_lt.2 later)
  | unspent inside held => exact ⟨Exchanges.poll_of_held held, Nat.zero_le 1⟩
  | spent made gone told => exact ⟨Exchanges.poll_of_verdict (told live), Nat.le_refl 1⟩

theorem sees_of_verdicts {verdicts : List (Verdict M)} (single : verdicts.length ≤ 1)
    (held : desk.waiters.lookup name = some ticket)
    (seen : desk.exchanges.poll ticket = verdicts.head?.map Verdict.result) :
    desk.Sees name verdicts := by
  cases verdicts with
  | nil =>
    have answer : (desk.step (.poll name)).1 = .pending := by
      simp only [Desk.step, held, seen, List.head?_nil, Option.map_none]
    constructor <;> simp [answer]
  | cons verdict rest =>
    have last : rest = [] := by simpa using single
    subst last
    have answer : (desk.step (.poll name)).1 = .ready verdict.result := by
      simp only [Desk.step, held, seen, List.head?_cons, Option.map_some]
    constructor <;>
      simp [answer, Verdict.result_eq_ok_iff, Verdict.result_eq_error_iff]

theorem reaches_of_held (held : desk.entries.lookup name = some ticket) {waits : Prop}
    (live : desk.exchanges.isAbandoned ticket = false ↔ waits) : desk.Reaches name waits := by
  have resolves (message : M) : (desk.step (.resolve name message)).1 =
      if desk.exchanges.isAbandoned ticket then .returned message else .done := by
    have returned := desk.exchanges.resolve_snd ticket message
    simp only [Desk.step, held, returned]
    cases desk.exchanges.isAbandoned ticket <;> rfl
  have fails (error : LinkError) : (desk.step (.fail name error)).1 =
      .delivered (!desk.exchanges.isAbandoned ticket) := by
    simp only [Desk.step, held, Exchanges.fail_snd]
  have asks : (desk.step (.isAbandoned name)).1 = .flag (desk.exchanges.isAbandoned ticket) := by
    simp only [Desk.step, held]
  refine ⟨fun message => ?_, fun message returned => ?_, fun error reached => ?_, fun flag => ?_⟩
  · rw [resolves, ← live]
    cases desk.exchanges.isAbandoned ticket <;> simp
  · rw [resolves, ← live]
    cases desk.exchanges.isAbandoned ticket <;> simp [eq_comm]
  · rw [fails, ← live]
    cases desk.exchanges.isAbandoned ticket <;> simp [eq_comm]
  · rw [asks, ← live]
    cases desk.exchanges.isAbandoned ticket <;> simp [eq_comm]

theorem lookup_create (desk : Desk M) (name : String) :
    (desk.step (.create name)).2.entries.lookup name = some desk.exchanges.length ∧
      (desk.step (.create name)).2.waiters.lookup name = some desk.exchanges.length := by
  simp [Desk.step, holdEntry, holdWaiter]

theorem ready_iff (held : desk.waiters.lookup name = some ticket) {result : Except LinkError M} :
    (desk.step (.poll name)).1 = .ready result ↔ desk.exchanges.poll ticket = some result := by
  simp only [Desk.step, held]
  cases desk.exchanges.poll ticket <;> simp

/-- Once there is a verdict on an entry there is no other later on. -/
theorem poll_after_append {earlier later : List (Step M)} {result : Except LinkError M}
    (before : (({} : Desk M).after earlier).exchanges.isAbandoned ticket = false)
    (live : (({} : Desk M).after (earlier ++ later)).exchanges.isAbandoned ticket = false)
    (seen : (({} : Desk M).after earlier).exchanges.poll ticket = some result) :
    (({} : Desk M).after (earlier ++ later)).exchanges.poll ticket = some result := by
  obtain ⟨first, -⟩ := (accounts_of_steps earlier).poll_eq before
  obtain ⟨whole, -⟩ := (accounts_of_steps (earlier ++ later)).poll_eq live
  rw [verdicts_append] at whole
  rw [first] at seen
  obtain ⟨verdict, head, rfl⟩ := Option.map_eq_some_iff.1 seen
  rw [whole, List.head?_append, head]
  rfl

/-- **Whatever is done at a desk, there is one verdict for each entry, and its waiter sees it.** -/
theorem oneVerdict_of_steps (steps : List (Step M)) :
    OneVerdict steps (({} : Desk M).after steps) := by
  have accounts := accounts_of_steps (M := M) steps
  have waits (steps : List (Step M)) (ticket : Ticket) :
      (({} : Desk M).after steps).exchanges.isAbandoned ticket = false ↔
        ∃ waiter, (({} : Desk M).after steps).waiters.lookup waiter = some ticket :=
    (attended_vacant.follow steps).waits_iff
  refine
    { numbered := fun earlier name later _ => ?numbered
      once := fun ticket inside => ?once
      sees := fun name ticket held => ?sees
      stable := fun earlier later before name ticket result split held held' ready => ?stable
      reaches := fun name ticket held => reaches_of_held held (waits steps ticket)
      waits_iff := fun ticket => (waits steps ticket).symm.trans (waiting_after steps ticket)
      discreet := fun ticket inside => ?discreet }
  case numbered =>
    rw [after_append, ← length_of_steps earlier]
    exact lookup_create _ name
  case once =>
    rw [← length_of_steps] at inside
    have account := accounts ticket
    generalize ({} : Desk M).verdicts steps ticket = verdicts at account
    cases account with
    | unmade later => exact absurd inside (Nat.not_lt.2 later)
    | unspent inside held => exact .inl ⟨rfl, inside⟩
    | @spent verdict made gone told => exact .inr ⟨verdict, rfl, gone⟩
  case sees =>
    obtain ⟨seen, single⟩ := accounts.poll_eq ((waits steps ticket).2 ⟨name, held⟩)
    exact sees_of_verdicts single held seen
  case stable =>
    subst split
    rw [ready_iff held] at ready
    rw [ready_iff held']
    exact poll_after_append ((waits earlier ticket).2 ⟨before, held⟩)
      ((waits (earlier ++ later) ticket).2 ⟨name, held'⟩) ready
  case discreet =>
    obtain ⟨exchange, found, both⟩ := Option.map_eq_some_iff.1 (accounts.intact ticket inside)
    exact ⟨exchange, found, Exchange.discreet_of_held both⟩

/-- An entry is dropped when another one takes its name, and its waiter sees a closed link. -/
example :
    let steps : List (Step Unit) := [.create "a", .create "b", .insert "b" "k", .take "k" "a"]
    ({} : Desk Unit).verdicts steps 0 = [.dropped] ∧
      (({} : Desk Unit).after steps).exchanges.poll 0 = some (.error .closed) := by
  decide

end Multiplex.Desk
