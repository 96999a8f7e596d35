import Multiplex.Exchange.Desk
import Multiplex.Proofs.Exchanges
import Multiplex.Proofs.Tables
import Mathlib.Data.List.Perm.Subperm

/-!
# Desks

A desk moves entries between its table and the names under which it holds them, and nowhere is an
entry in two places (`Desk.Tidy`). What a step can do is said once (`Desk.Effect`), with the marks
that it leaves on the entries of the table (`Desk.marks`). An entry is abandoned exactly when no
waiter for it is held under a name.
-/

namespace Multiplex

variable {M : Type}

/-- The callers of these exchanges wait exactly if those of the others do. -/
structure Exchanges.SameCallers (exchanges others : Exchanges M) : Prop where
  length : exchanges.length = others.length
  isAbandoned : ∀ ticket, exchanges.isAbandoned ticket = others.isAbandoned ticket

/-- What happens to an entry at the table. -/
inductive Mark where
  | filed (key : String) (ticket : Ticket)
  | handedOut (key : String) (ticket : Ticket)
  | displaced (key : String) (ticket : Ticket)
  deriving DecidableEq, Repr

/-- The ticket of the entry. -/
def Mark.ticket : Mark → Ticket
  | filed _ ticket | handedOut _ ticket | displaced _ ticket => ticket

theorem nodup_of_subperm {α : Type} {items others : List α} (part : items.Subperm others)
    (different : others.Nodup) : items.Nodup := by
  obtain ⟨same, perm, kept⟩ := part
  exact perm.nodup_iff.1 (kept.nodup different)

namespace Desk

/-- The marks that a step leaves on entries, by what the table answers. -/
def marks (desk : Desk M) : Step M → List Mark
  | .insert name key =>
    match desk.entries.lookup name with
    | none => []
    | some ticket =>
      match desk.table.insert desk.exchanges.isAbandoned key ticket with
      | .accepted _ displaced => (displaced.map (.displaced key)).toList ++ [.filed key ticket]
      | .duplicate _ | .refused _ => []
  | .take key _ => ((desk.table.take key).1.map (.handedOut key)).toList
  | .takeAbandoned key _ =>
    ((desk.table.takeAbandoned desk.exchanges.isAbandoned key).1.map (.handedOut key)).toList
  | .drain _ => desk.table.drain.1.map fun slot => .handedOut slot.1 slot.2
  | _ => []

/-- The entries that are held under names, as a table. -/
def held (desk : Desk M) : Table :=
  ⟨desk.entries, false⟩

/-- The waiters that are held under names, as a table. -/
def awaited (desk : Desk M) : Table :=
  ⟨desk.waiters, false⟩

/-- The tickets of all entries, in the table and under names. -/
def tickets (desk : Desk M) : List Ticket :=
  desk.table.slots.map Prod.snd ++ desk.entries.map Prod.snd

/-- Holds entries under names that begin alike. -/
def holdAll (desk : Desk M) (into : String) (slots : List (String × Ticket)) : Desk M :=
  slots.foldl (fun desk slot => desk.holdEntry (into ++ slot.1) slot.2) desk

/-! ## What a step does -/

/-- What a step can make of a desk, with the marks that it leaves. -/
inductive Effect (desk : Desk M) : Step M → Desk M → List Mark → Prop
  | none {step : Step M} : Effect desk step desk []
  | create {name : String} : Effect desk (.create name)
      (({ desk with exchanges := desk.exchanges ++ [Exchange.fresh] }.holdEntry name
        desk.exchanges.length).holdWaiter name desk.exchanges.length) []
  | file {name key : String} {ticket : Ticket} {exchanges : Exchanges M}
      (held : desk.held.find? name = some ticket) (unsealed : desk.table.isSealed = false)
      (free : ∀ holder, desk.table.find? key = some holder →
        desk.exchanges.isAbandoned holder = true)
      (same : exchanges.SameCallers desk.exchanges) : Effect desk (.insert name key)
        ({ desk with table := desk.table.file key ticket, exchanges }.forgetEntry name)
        (((desk.table.find? key).map (.displaced key)).toList ++ [.filed key ticket])
  | handOut {step : Step M} {key into : String} {ticket : Ticket}
      (found : desk.table.find? key = some ticket)
      (asked : step = .take key into ∨
        (step = .takeAbandoned key into ∧ desk.exchanges.isAbandoned ticket = true)) :
      Effect desk step ({ desk with table := desk.table.erase key }.holdEntry into ticket)
        [.handedOut key ticket]
  | drain {into : String} : Effect desk (.drain into)
      ({ desk with table := ⟨[], true⟩ }.holdAll into (desk.table.slots.mergeSort keyLe))
      (desk.table.slots.map fun slot => .handedOut slot.1 slot.2)
  | consume {step : Step M} {name : String} {exchanges : Exchanges M}
      (same : exchanges.SameCallers desk.exchanges) :
      Effect desk step ({ desk with exchanges }.forgetEntry name) []
  | leave {step : Step M} {name : String} {ticket : Ticket}
      (awaited : desk.awaited.find? name = some ticket)
      (asked : step = .dropWaiter name ∨ step = .poll name) : Effect desk step
        ({ desk with exchanges := desk.exchanges.leave ticket }.forgetWaiter name) []

theorem sameCallers_drop (exchanges : Exchanges M) (ticket : Ticket) :
    Exchanges.SameCallers (exchanges.drop ticket) exchanges :=
  ⟨exchanges.length_drop ticket, exchanges.isAbandoned_drop ticket⟩

theorem sameCallers_resolve (exchanges : Exchanges M) (ticket : Ticket) (message : M) :
    Exchanges.SameCallers (exchanges.resolve ticket message).1 exchanges :=
  ⟨exchanges.length_resolve ticket message,
    fun other => exchanges.isAbandoned_resolve ticket other message⟩

theorem sameCallers_fail (exchanges : Exchanges M) (ticket : Ticket) (error : LinkError) :
    Exchanges.SameCallers (exchanges.fail ticket error).1 exchanges :=
  ⟨exchanges.length_fail ticket error,
    fun other => exchanges.isAbandoned_fail ticket other error⟩

/-- An entry that is put back where it was is where it was. -/
theorem putBack_of_lookup {entries : List (String × Ticket)} {name : String} {ticket : Ticket}
    (held : entries.lookup name = some ticket) : putBack name ticket entries = entries := by
  induction entries with
  | nil => rfl
  | cons entry rest ih =>
    rw [putBack]
    rw [List.lookup_cons] at held
    split
    · next same =>
      rw [beq_iff_eq.2 same] at held
      cases held
      rw [same]
    · next other =>
      rw [beq_false_of_ne other] at held
      rw [ih held]

/-- Filing an entry has one of the effects, whether the table accepts it or not. -/
theorem effect_of_insert (desk : Desk M) (name key : String) :
    Effect desk (.insert name key) (desk.step (.insert name key)).2
      (desk.marks (.insert name key)) := by
  simp only [Desk.step, marks]
  cases held : desk.entries.lookup name with
  | none => exact .none
  | some ticket =>
    rcases desk.table.insert_cases desk.exchanges.isAbandoned key ticket with
      ⟨-, refused⟩ | ⟨-, duplicate⟩ | ⟨⟨unsealed, free⟩, accepted⟩
    · simp only [refused, putBack_of_lookup held]
      exact .none
    · simp only [duplicate, putBack_of_lookup held]
      exact .none
    · simp only [accepted]
      refine .file held unsealed free ?_
      split
      · exact sameCallers_drop _ _
      · exact ⟨rfl, fun _ => rfl⟩

/-- What a step does is one of the effects. -/
theorem effect_of_step (desk : Desk M) (step : Step M) :
    Effect desk step (desk.step step).2 (desk.marks step) := by
  cases step with
  | create name => exact .create
  | insert name key => exact effect_of_insert desk name key
  | take key into =>
    simp only [Desk.step, marks, Table.take]
    cases found : desk.table.find? key with
    | none => exact .none
    | some ticket => exact .handOut found (.inl rfl)
  | takeAbandoned key into =>
    simp only [Desk.step, marks]
    rcases desk.table.takeAbandoned_cases desk.exchanges.isAbandoned key with
      ⟨holder, found, gone, taken⟩ | ⟨taken, -⟩
    · rw [taken]
      exact .handOut found (.inr ⟨rfl, gone⟩)
    · rw [taken]
      exact .none
  | drain into => exact .drain
  | resolve name message =>
    simp only [Desk.step, marks]
    split
    · exact .none
    · split <;> exact .consume (sameCallers_resolve _ _ _)
  | fail name error =>
    simp only [Desk.step, marks]
    split
    · exact .none
    · exact .consume (sameCallers_fail _ _ _)
  | isAbandoned name =>
    simp only [Desk.step, marks]
    split <;> exact .none
  | dropEntry name =>
    simp only [Desk.step, marks]
    split
    · exact .none
    · exact .consume (sameCallers_drop _ _)
  | dropWaiter name =>
    simp only [Desk.step, marks]
    split
    · exact .none
    · next awaited => exact .leave awaited (.inl rfl)
  | poll name =>
    simp only [Desk.step, marks]
    split
    · exact .none
    · next awaited =>
      split
      · exact .none
      · exact .leave awaited (.inr rfl)

/-! ## The parts of a desk after its operations -/

variable {desk next : Desk M} {step : Step M} {new : List Mark} {name into : String}
  {ticket : Ticket} {slots : List (String × Ticket)}

theorem sameCallers_holdEntry (desk : Desk M) (name : String) (ticket : Ticket) :
    (desk.holdEntry name ticket).exchanges.SameCallers desk.exchanges := by
  unfold holdEntry
  dsimp only
  split
  · exact sameCallers_drop _ _
  · exact ⟨rfl, fun _ => rfl⟩

theorem held_holdEntry (desk : Desk M) (name : String) (ticket : Ticket) :
    (desk.holdEntry name ticket).held = desk.held.file name ticket := rfl

@[simp] theorem table_holdEntry (desk : Desk M) (name : String) (ticket : Ticket) :
    (desk.holdEntry name ticket).table = desk.table := rfl

theorem holdAll_cons (desk : Desk M) (into : String) (slot : String × Ticket) :
    desk.holdAll into (slot :: slots) =
      (desk.holdEntry (into ++ slot.1) slot.2).holdAll into slots := rfl

/-- Holding entries changes neither the table nor who waits. -/
theorem holdAll_frame (desk : Desk M) (into : String) (slots : List (String × Ticket)) :
    (desk.holdAll into slots).table = desk.table ∧
      (desk.holdAll into slots).waiters = desk.waiters ∧
      (desk.holdAll into slots).exchanges.SameCallers desk.exchanges := by
  induction slots generalizing desk with
  | nil => exact ⟨rfl, rfl, rfl, fun _ => rfl⟩
  | cons slot rest ih =>
    obtain ⟨table, waiters, length, abandoned⟩ := ih (desk.holdEntry (into ++ slot.1) slot.2)
    obtain ⟨length', abandoned'⟩ := sameCallers_holdEntry desk (into ++ slot.1) slot.2
    rw [holdAll_cons]
    exact ⟨table, waiters, length.trans length', fun ticket =>
      (abandoned ticket).trans (abandoned' ticket)⟩

/-- What is held under another name stays where it is. -/
theorem find?_holdAll_of_forall_ne (desk : Desk M) {name : String}
    (other : ∀ slot ∈ slots, into ++ slot.1 ≠ name) :
    (desk.holdAll into slots).held.find? name = desk.held.find? name := by
  induction slots generalizing desk with
  | nil => rfl
  | cons slot rest ih =>
    obtain ⟨first, later⟩ := List.forall_mem_cons.1 other
    rw [holdAll_cons, ih _ later, held_holdEntry, Table.find?_file_of_ne (Ne.symm first)]

/-- Each of the entries is held under its own name. -/
theorem find?_holdAll (desk : Desk M) (into : String) (unique : (slots.map Prod.fst).Nodup)
    {key : String} (member : (key, ticket) ∈ slots) :
    (desk.holdAll into slots).held.find? (into ++ key) = some ticket := by
  induction slots generalizing desk with
  | nil => cases member
  | cons slot rest ih =>
    obtain ⟨first, unique⟩ := List.nodup_cons.1 unique
    rw [holdAll_cons]
    rcases List.mem_cons.1 member with rfl | later
    · rw [find?_holdAll_of_forall_ne, held_holdEntry, Table.find?_file]
      intro slot inside same
      rw [String.append_right_inj] at same
      exact first (List.mem_map.2 ⟨slot, inside, same⟩)
    · exact ih _ unique later

/-! ## Tidy desks -/

/-- An entry is live exactly if a waiter for it is held under a name. -/
structure Attended (desk : Desk M) : Prop where
  names : desk.awaited.UniqueKeys
  once : (desk.waiters.map Prod.snd).Nodup
  waiting : ∀ ticket, desk.exchanges.isAbandoned ticket = false ↔
    ticket ∈ desk.waiters.map Prod.snd

/-- No entry of the desk is in two places, and a table that is sealed is empty. -/
structure Tidy (desk : Desk M) : Prop where
  keys : desk.table.UniqueKeys
  names : desk.held.UniqueKeys
  once : desk.tickets.Nodup
  made : ∀ ticket ∈ desk.tickets, ticket < desk.exchanges.length
  empty : desk.table.isSealed = true → desk.table.slots = []

theorem tidy_vacant : ({} : Desk M).Tidy where
  keys := List.nodup_nil
  names := List.nodup_nil
  once := List.nodup_nil
  made := fun _ => (nomatch ·)
  empty := fun _ => rfl

theorem attended_vacant : ({} : Desk M).Attended where
  names := List.nodup_nil
  once := List.nodup_nil
  waiting := fun ticket => by simp [Exchanges.isAbandoned]

/-! ### Entries that move -/

theorem map_snd_erase (table : Table) (key : String) :
    ((table.erase key).slots.map Prod.snd).Sublist (table.slots.map Prod.snd) :=
  List.Sublist.map Prod.snd List.filter_sublist

theorem tickets_holdEntry (desk : Desk M) (name : String) (ticket : Ticket) :
    (desk.holdEntry name ticket).tickets.Subperm (ticket :: desk.tickets) := by
  have kept := ((List.Sublist.refl (desk.table.slots.map Prod.snd)).append
    (map_snd_erase desk.held name)).cons_cons ticket
  exact (List.perm_middle.subperm).trans kept.subperm

theorem tickets_holdAll (desk : Desk M) (into : String) (slots : List (String × Ticket)) :
    (desk.holdAll into slots).tickets.Subperm (slots.map Prod.snd ++ desk.tickets) := by
  induction slots generalizing desk with
  | nil => exact .refl _
  | cons slot rest ih =>
    rw [holdAll_cons]
    refine (ih _).trans ?_
    refine ((List.subperm_append_left _).2 (tickets_holdEntry desk _ slot.2)).trans ?_
    exact List.perm_middle.subperm

theorem uniqueKeys_holdAll (desk : Desk M) (unique : desk.held.UniqueKeys) (into : String)
    (slots : List (String × Ticket)) : (desk.holdAll into slots).held.UniqueKeys := by
  induction slots generalizing desk with
  | nil => exact unique
  | cons slot rest ih => exact ih _ (unique.file (into ++ slot.1) slot.2)

theorem length_holdWaiter (desk : Desk M) (name : String) (ticket : Ticket) :
    (desk.holdWaiter name ticket).exchanges.length = desk.exchanges.length := by
  unfold holdWaiter
  dsimp only
  split
  · exact Exchanges.length_leave _ _
  · rfl

/-- A step moves or drops entries, or makes one more. -/
theorem tickets_of_effect (tidy : desk.Tidy) (effect : Effect desk step next new) :
    (next.tickets.Subperm desk.tickets ∧ next.exchanges.length = desk.exchanges.length) ∨
      (next.tickets.Subperm (desk.exchanges.length :: desk.tickets) ∧
        next.exchanges.length = desk.exchanges.length + 1) := by
  cases effect with
  | none => exact .inl ⟨.refl _, rfl⟩
  | create =>
    refine .inr ⟨tickets_holdEntry { desk with exchanges := _ } _ _, ?_⟩
    rw [length_holdWaiter, (sameCallers_holdEntry _ _ _).length, List.length_append,
      List.length_singleton]
  -- the entry moves from its name into the table, in place of what was under the key
  | @file name key ticket exchanges held unsealed free same =>
    have split := (Table.perm_erase tidy.names held).map Prod.snd
    have less := map_snd_erase desk.table key
    have moved : (ticket :: (desk.table.erase key).slots.map Prod.snd ++
        (desk.held.erase name).slots.map Prod.snd).Perm
          ((desk.table.erase key).slots.map Prod.snd ++ desk.entries.map Prod.snd) :=
      List.perm_middle.symm.trans (split.symm.append_left _)
    exact .inl ⟨moved.subperm.trans (less.append (.refl _)).subperm, same.length⟩
  -- the entry moves from the table to a name, in place of what was held there
  | @handOut step key into ticket found asked =>
    have split := (Table.perm_erase tidy.keys found).map Prod.snd
    refine .inl ⟨?_, (sameCallers_holdEntry _ _ _).length⟩
    refine (tickets_holdEntry { desk with table := desk.table.erase key } into ticket).trans ?_
    exact (split.symm.append_right (desk.entries.map Prod.snd)).subperm
  | @drain into =>
    have sorted := (List.mergeSort_perm desk.table.slots keyLe).map Prod.snd
    refine .inl ⟨?_, (holdAll_frame { desk with table := ⟨[], true⟩ } into _).2.2.length⟩
    refine (tickets_holdAll { desk with table := ⟨[], true⟩ } into _).trans ?_
    exact (sorted.append_right (desk.entries.map Prod.snd)).subperm
  | consume same =>
    exact .inl ⟨((List.Sublist.refl _).append (map_snd_erase desk.held _)).subperm, same.length⟩
  | leave => exact .inl ⟨.refl _, Exchanges.length_leave _ _⟩

theorem Tidy.fresh_not_mem (tidy : desk.Tidy) : desk.exchanges.length ∉ desk.tickets :=
  fun member => Nat.lt_irrefl _ (tidy.made _ member)

/-- After a step no entry is in two places. -/
theorem once_of_effect (tidy : desk.Tidy) (effect : Effect desk step next new) :
    next.tickets.Nodup ∧ ∀ ticket ∈ next.tickets, ticket < next.exchanges.length := by
  rcases tickets_of_effect tidy effect with ⟨moved, length⟩ | ⟨moved, length⟩
  · refine ⟨nodup_of_subperm moved tidy.once, fun ticket member => ?_⟩
    rw [length]
    exact tidy.made _ (moved.subset member)
  · refine ⟨nodup_of_subperm moved (tidy.once.cons tidy.fresh_not_mem), fun ticket member => ?_⟩
    rw [length]
    rcases List.mem_cons.1 (moved.subset member) with rfl | before
    · exact Nat.lt_succ_self _
    · exact Nat.lt_succ_of_lt (tidy.made _ before)

theorem Tidy.after (tidy : desk.Tidy) (effect : Effect desk step next new) : next.Tidy := by
  obtain ⟨once, made⟩ := once_of_effect tidy effect
  cases effect with
  | none => exact tidy
  | create => exact ⟨tidy.keys, tidy.names.file _ _, once, made, tidy.empty⟩
  | file held unsealed =>
    refine ⟨tidy.keys.file _ _, tidy.names.erase _, once, made, fun shut => ?_⟩
    cases unsealed.symm.trans shut
  | handOut found =>
    refine ⟨tidy.keys.erase _, tidy.names.file _ _, once, made, fun shut => ?_⟩
    have none := tidy.empty shut
    simp [Table.find?, none] at found
  | @drain into =>
    let cleared : Desk M := { desk with table := ⟨[], true⟩ }
    obtain ⟨table, -⟩ := holdAll_frame cleared into (desk.table.slots.mergeSort keyLe)
    refine ⟨?_, uniqueKeys_holdAll cleared tidy.names into _, once, made, ?_⟩
    · rw [table]
      exact Table.uniqueKeys_empty true
    · rw [table]
      exact fun _ => rfl
  | consume => exact ⟨tidy.keys, tidy.names.erase _, once, made, tidy.empty⟩
  | leave => exact ⟨tidy.keys, tidy.names, once, made, tidy.empty⟩

/-! ### Waiters -/

/-- When a waiter is forgotten the others remain. -/
theorem mem_erase_awaited (attended : desk.Attended) (name : String) :
    ticket ∈ (desk.awaited.erase name).slots.map Prod.snd ↔
      desk.awaited.find? name ≠ some ticket ∧ ticket ∈ desk.waiters.map Prod.snd := by
  constructor
  · intro member
    obtain ⟨⟨key, ticket⟩, kept, rfl⟩ := List.mem_map.1 member
    obtain ⟨waits, differs⟩ := Table.mem_erase.1 kept
    refine ⟨fun found => differs ?_, List.mem_map_of_mem waits⟩
    have same := List.inj_on_of_nodup_map attended.once waits (Table.mem_of_find? found) rfl
    rw [Prod.mk.injEq] at same
    exact same.1
  · rintro ⟨apart, member⟩
    obtain ⟨⟨key, ticket⟩, waits, rfl⟩ := List.mem_map.1 member
    refine List.mem_map_of_mem (f := Prod.snd) (Table.mem_erase.2 ⟨waits, ?_⟩)
    rintro rfl
    exact apart ((Table.find?_eq_some_iff attended.names).2 waits)

/-- A desk on which a waiter is dropped. -/
theorem Attended.leave (attended : desk.Attended)
    (found : desk.awaited.find? name = some ticket) :
    ({ desk with exchanges := desk.exchanges.leave ticket }.forgetWaiter name).Attended := by
  refine ⟨attended.names.erase name, (map_snd_erase desk.awaited name).nodup attended.once, ?_⟩
  intro other
  refine Iff.trans ?_ (mem_erase_awaited attended name).symm
  rw [found, ← attended.waiting other]
  simp only [forgetWaiter, Exchanges.isAbandoned_leave]
  by_cases left : other = ticket
  · simp [left]
  · simp [left, Ne.symm left]

/-- A desk on which the same callers wait. -/
theorem Attended.of_sameCallers (attended : desk.Attended) (waiters : next.waiters = desk.waiters)
    (same : next.exchanges.SameCallers desk.exchanges) : next.Attended := by
  refine ⟨?_, ?_, ?_⟩
  · rw [awaited, waiters]
    exact attended.names
  · rw [waiters]
    exact attended.once
  · intro ticket
    rw [waiters, same.isAbandoned]
    exact attended.waiting ticket

/-- The waiter that was held under the name is dropped, so its entry is abandoned. -/
theorem isAbandoned_holdWaiter (desk : Desk M) (name : String) (ticket other : Ticket) :
    (desk.holdWaiter name ticket).exchanges.isAbandoned other =
      if desk.awaited.find? name = some other then true
      else desk.exchanges.isAbandoned other := by
  unfold holdWaiter
  cases found : desk.awaited.find? name with
  | none =>
    have none : desk.waiters.lookup name = none := found
    simp [none]
  | some old =>
    have some : desk.waiters.lookup name = some old := found
    simp [some, Exchanges.isAbandoned_leave, eq_comm]

/-- A desk on which a waiter for a new exchange is held, in place of another. -/
theorem Attended.hold (attended : desk.Attended) (waiters : next.waiters = desk.waiters)
    (new : ticket ∉ desk.waiters.map Prod.snd)
    (abandoned : ∀ other, next.exchanges.isAbandoned other =
      if other = ticket then false else desk.exchanges.isAbandoned other) (name : String) :
    (next.holdWaiter name ticket).Attended := by
  have slots : (next.holdWaiter name ticket).waiters =
      (name, ticket) :: (desk.awaited.erase name).slots := by
    simp only [holdWaiter, waiters]
    rfl
  have less := map_snd_erase desk.awaited name
  refine ⟨?_, ?_, fun other => ?_⟩
  · rw [awaited, slots]
    exact attended.names.file name ticket
  · rw [slots]
    exact List.nodup_cons.2 ⟨fun member => new (less.subset member), less.nodup attended.once⟩
  · have same : next.awaited = desk.awaited := by rw [awaited, awaited, waiters]
    rw [slots, List.map_cons, List.mem_cons, mem_erase_awaited attended, isAbandoned_holdWaiter,
      same, abandoned, ← attended.waiting]
    by_cases own : other = ticket
    · subst own
      have apart : desk.awaited.find? name ≠ some other := fun found =>
        new (List.mem_map_of_mem (f := Prod.snd) (Table.mem_of_find? found))
      simp [apart]
    · by_cases left : desk.awaited.find? name = some other <;> simp [own, left]

theorem Attended.after (attended : desk.Attended)
    (effect : Effect desk step next new) : next.Attended := by
  cases effect with
  | none => exact attended
  | @create name =>
    let made : Desk M := { desk with exchanges := desk.exchanges ++ [Exchange.fresh] }
    obtain ⟨-, same⟩ := sameCallers_holdEntry made name desk.exchanges.length
    have waiters : (made.holdEntry name desk.exchanges.length).waiters = desk.waiters := rfl
    refine attended.hold waiters ?_ (fun other => ?_) name
    · rw [← attended.waiting]
      intro live
      exact Nat.lt_irrefl _ (Exchanges.lt_length_of_waiting live)
    · rw [same]
      exact Exchanges.isAbandoned_append_fresh _ _
  | file held unsealed free same => exact attended.of_sameCallers rfl same
  | handOut =>
    exact attended.of_sameCallers rfl (sameCallers_holdEntry { desk with table := _ } _ _)
  | drain =>
    obtain ⟨-, waiters, same⟩ := holdAll_frame { desk with table := ⟨[], true⟩ } _ _
    exact attended.of_sameCallers waiters same
  | consume same => exact attended.of_sameCallers rfl same
  | leave awaited => exact attended.leave awaited

end Desk

end Multiplex
