import Multiplex.Exchange.Basic

/-!
# What the callers of exchanges see

Two observations tell all that matters about a ticket: what its caller sees (`Exchanges.poll`) and
whether it has stopped waiting (`Exchanges.isAbandoned`). This module says how each way to consume
an entry, and a caller who leaves, change the two. An entry is held as long as its caller sees
nothing.
-/

namespace Multiplex.Exchanges

variable {M : Type} (exchanges : Exchanges M) (ticket other : Ticket)

theorem lt_length_of_poll {exchanges : Exchanges M} {ticket : Ticket}
    (h : exchanges.poll ticket = none) : ticket < exchanges.length := by
  apply Nat.lt_of_not_le
  intro out
  simp [poll, List.getElem?_eq_none out] at h

theorem lt_length_of_waiting {exchanges : Exchanges M} {ticket : Ticket}
    (h : exchanges.isAbandoned ticket = false) : ticket < exchanges.length := by
  apply Nat.lt_of_not_le
  intro out
  simp [isAbandoned, List.getElem?_eq_none out] at h

theorem lt_length_of_replied {exchanges : Exchanges M} {ticket : Ticket} {message : M}
    (h : exchanges.poll ticket = some (.ok message)) : ticket < exchanges.length := by
  apply Nat.lt_of_not_le
  intro out
  simp [poll, List.getElem?_eq_none out] at h

theorem isAbandoned_of_getElem? {exchanges : Exchanges M} {ticket : Ticket}
    {exchange : Exchange M} (h : exchanges[ticket]? = some exchange) :
    exchanges.isAbandoned ticket = exchange.isAbandoned := by
  simp [isAbandoned, h]

theorem poll_set {exchanges : Exchanges M} {ticket : Ticket} (inside : ticket < exchanges.length)
    (exchange : Exchange M) (other : Ticket) :
    poll (exchanges.set ticket exchange) other =
      if other = ticket then exchange.poll else exchanges.poll other := by
  by_cases same : other = ticket
  · subst same
    simp [poll, inside]
  · simp [poll, same, List.getElem?_set_ne (Ne.symm same)]

theorem isAbandoned_set {exchanges : Exchanges M} {ticket : Ticket}
    (inside : ticket < exchanges.length) (exchange : Exchange M) (other : Ticket) :
    isAbandoned (exchanges.set ticket exchange) other =
      if other = ticket then exchange.isAbandoned else exchanges.isAbandoned other := by
  by_cases same : other = ticket
  · subst same
    simp [isAbandoned, inside]
  · simp [isAbandoned, same, List.getElem?_set_ne (Ne.symm same)]

/-! ## Delivering an error -/

theorem poll_fail (error : LinkError) :
    (exchanges.fail ticket error).1.poll other =
      if other = ticket then
        some (.error (if exchanges.isAbandoned ticket then .closed else error))
      else exchanges.poll other := by
  unfold fail
  cases found : exchanges[ticket]? with
  | none =>
    by_cases same : other = ticket
    · subst same
      simp [poll, isAbandoned, found]
    · simp [same]
  | some exchange =>
    have inside : ticket < exchanges.length := (List.getElem?_eq_some_iff.1 found).1
    show poll (exchanges.set ticket (exchange.fail error).1) other = _
    rw [poll_set inside, isAbandoned_of_getElem? found, exchange.poll_fail]

@[simp] theorem isAbandoned_fail (error : LinkError) :
    (exchanges.fail ticket error).1.isAbandoned other = exchanges.isAbandoned other := by
  unfold fail
  cases found : exchanges[ticket]? with
  | none => rfl
  | some exchange =>
    have inside : ticket < exchanges.length := (List.getElem?_eq_some_iff.1 found).1
    show isAbandoned (exchanges.set ticket (exchange.fail error).1) other = _
    rw [isAbandoned_set inside]
    split
    · next same =>
      subst same
      rw [isAbandoned_of_getElem? found, exchange.isAbandoned_fail]
    · rfl

@[simp] theorem length_fail (error : LinkError) :
    (exchanges.fail ticket error).1.length = exchanges.length := by
  unfold fail
  split <;> simp

/-- An error is delivered exactly if somebody waits for it. -/
theorem fail_snd (error : LinkError) :
    (exchanges.fail ticket error).2 = !exchanges.isAbandoned ticket := by
  unfold fail
  cases found : exchanges[ticket]? with
  | none => simp [isAbandoned, found]
  | some exchange =>
    rw [isAbandoned_of_getElem? found]
    exact exchange.fail_snd error

/-! ## Delivering a reply -/

theorem poll_resolve (message : M) :
    (exchanges.resolve ticket message).1.poll other =
      if other = ticket then
        some (if exchanges.isAbandoned ticket then .error .closed else .ok message)
      else exchanges.poll other := by
  unfold resolve
  cases found : exchanges[ticket]? with
  | none =>
    by_cases same : other = ticket
    · subst same
      simp [poll, isAbandoned, found]
    · simp [same]
  | some exchange =>
    have inside : ticket < exchanges.length := (List.getElem?_eq_some_iff.1 found).1
    show poll (exchanges.set ticket (exchange.resolve message).1) other = _
    rw [poll_set inside, isAbandoned_of_getElem? found, exchange.poll_resolve]

/-- A message is handed back exactly if nobody waits for it. -/
theorem resolve_snd (message : M) :
    (exchanges.resolve ticket message).2 =
      if exchanges.isAbandoned ticket then some message else none := by
  unfold resolve
  cases found : exchanges[ticket]? with
  | none => simp [isAbandoned, found]
  | some exchange =>
    rw [isAbandoned_of_getElem? found]
    exact exchange.resolve_snd message

@[simp] theorem isAbandoned_resolve (message : M) :
    (exchanges.resolve ticket message).1.isAbandoned other = exchanges.isAbandoned other := by
  unfold resolve
  cases found : exchanges[ticket]? with
  | none => rfl
  | some exchange =>
    have inside : ticket < exchanges.length := (List.getElem?_eq_some_iff.1 found).1
    show isAbandoned (exchanges.set ticket (exchange.resolve message).1) other = _
    rw [isAbandoned_set inside]
    split
    · next same =>
      subst same
      rw [isAbandoned_of_getElem? found, exchange.isAbandoned_resolve]
    · rfl

@[simp] theorem length_resolve (message : M) :
    (exchanges.resolve ticket message).1.length = exchanges.length := by
  unfold resolve
  split <;> simp

/-! ## Dropping an entry -/

theorem poll_drop :
    (exchanges.drop ticket).poll other =
      if other = ticket ∧ exchanges.poll ticket = none then some (.error .closed)
      else exchanges.poll other := by
  unfold drop poll
  by_cases same : other = ticket
  · subst same
    cases found : exchanges[other]? with
    | none => simp [found]
    | some exchange => simp [found, exchange.poll_drop]
  · simp [same, Ne.symm same]

@[simp] theorem isAbandoned_drop :
    (exchanges.drop ticket).isAbandoned other = exchanges.isAbandoned other := by
  unfold drop isAbandoned
  by_cases same : other = ticket
  · subst same
    cases found : exchanges[other]? with
    | none => simp [found]
    | some exchange => simp [found]
  · simp [Ne.symm same]

@[simp] theorem length_drop : (exchanges.drop ticket).length = exchanges.length := by
  simp [drop]

/-! ## A caller leaves -/

@[simp] theorem poll_leave : (exchanges.leave ticket).poll other = exchanges.poll other := by
  unfold leave poll
  by_cases same : other = ticket
  · subst same
    cases found : exchanges[other]? <;> simp [found]
  · simp [Ne.symm same]

theorem isAbandoned_leave :
    (exchanges.leave ticket).isAbandoned other =
      if other = ticket then true else exchanges.isAbandoned other := by
  unfold leave isAbandoned
  by_cases same : other = ticket
  · subst same
    cases found : exchanges[other]? <;> simp [found]
  · simp [same, Ne.symm same]

@[simp] theorem length_leave : (exchanges.leave ticket).length = exchanges.length := by
  simp [leave]

/-! ## A new exchange -/

theorem poll_append_fresh :
    (exchanges ++ [Exchange.fresh] : Exchanges M).poll ticket =
      if ticket = exchanges.length then none else exchanges.poll ticket := by
  unfold poll
  rcases Nat.lt_trichotomy ticket exchanges.length with before | same | after
  · rw [List.getElem?_append_left before, if_neg (Nat.ne_of_lt before)]
  · subst same
    simp
  · rw [List.getElem?_append_right (Nat.le_of_lt after), if_neg (Nat.ne_of_gt after),
      List.getElem?_eq_none (Nat.le_of_lt after)]
    obtain ⟨gap, rfl⟩ := Nat.exists_eq_add_of_lt after
    have past : exchanges.length + gap + 1 - exchanges.length = gap + 1 := by omega
    simp [past]

theorem isAbandoned_append_fresh :
    (exchanges ++ [Exchange.fresh] : Exchanges M).isAbandoned ticket =
      if ticket = exchanges.length then false else exchanges.isAbandoned ticket := by
  unfold isAbandoned
  rcases Nat.lt_trichotomy ticket exchanges.length with before | same | after
  · rw [List.getElem?_append_left before, if_neg (Nat.ne_of_lt before)]
  · subst same
    simp [Exchange.isAbandoned, Exchange.fresh]
  · rw [List.getElem?_append_right (Nat.le_of_lt after), if_neg (Nat.ne_of_gt after),
      List.getElem?_eq_none (Nat.le_of_lt after)]
    obtain ⟨gap, rfl⟩ := Nat.exists_eq_add_of_lt after
    have past : exchanges.length + gap + 1 - exchanges.length = gap + 1 := by omega
    simp [past]

end Multiplex.Exchanges
