import Multiplex.Exchange.Table
import Mathlib.Data.List.Nodup

/-!
# Laws of the correlation table

As long as keys are unique, an entry is filed under a key exactly if looking the key up finds it,
and taking it out leaves all other entries where they are.
-/

namespace Multiplex

/-- In a list whose items have different marks, an item and all others. -/
theorem perm_cons_filter_ne {α β : Type} [DecidableEq β] {mark : α → β} {items : List α}
    {item : α} (different : (items.map mark).Nodup) (member : item ∈ items) :
    items.Perm (item :: items.filter fun other => mark other ≠ mark item) := by
  induction items with
  | nil => cases member
  | cons first rest ih =>
    obtain ⟨new, different⟩ := List.nodup_cons.1 different
    rcases List.mem_cons.1 member with rfl | later
    · have kept : rest.filter (fun other => mark other ≠ mark item) = rest := by
        rw [List.filter_eq_self]
        intro other inside
        have differs : mark other ≠ mark item := fun same =>
          new (same ▸ List.mem_map_of_mem inside)
        simpa using differs
      rw [List.filter_cons_of_neg (by simp), kept]
    · have differs : mark first ≠ mark item := fun same =>
        new (same ▸ List.mem_map_of_mem later)
      rw [List.filter_cons_of_pos (by simpa using differs)]
      exact ((ih different later).cons first).trans (List.Perm.swap item first _)

/-- In a list whose items have different marks, the items with the mark of one of them. -/
theorem filter_mark_eq {α β : Type} [DecidableEq β] {mark : α → β} {items : List α} {item : α}
    (different : (items.map mark).Nodup) (member : item ∈ items) :
    items.filter (fun other => mark other = mark item) = [item] := by
  have split := (perm_cons_filter_ne different member).filter fun other => mark other = mark item
  rw [List.filter_cons_of_pos (by simp), List.filter_filter] at split
  rw [← List.perm_singleton]
  refine split.trans (List.Perm.of_eq (congrArg _ (List.filter_eq_nil_iff.2 fun other _ => ?_)))
  simp

namespace Table

variable {table : Table} {key : String} {ticket : Ticket}

/-- No two entries share a key. -/
def UniqueKeys (table : Table) : Prop :=
  (table.slots.map Prod.fst).Nodup

theorem mem_of_find? (h : table.find? key = some ticket) : (key, ticket) ∈ table.slots := by
  obtain ⟨before, after, split, -⟩ := List.lookup_eq_some_iff.1 h
  rw [split]
  simp

theorem find?_eq_none_iff :
    table.find? key = none ↔ ∀ slot ∈ table.slots, slot.1 ≠ key := by
  rw [find?, List.lookup_eq_none_iff]
  refine forall₂_congr fun slot _ => ?_
  rw [bne_iff_ne, ne_comm]

theorem find?_eq_some_iff (unique : table.UniqueKeys) :
    table.find? key = some ticket ↔ (key, ticket) ∈ table.slots := by
  refine ⟨mem_of_find?, ?_⟩
  intro member
  cases found : table.find? key with
  | none => exact absurd rfl (find?_eq_none_iff.1 found _ member)
  | some other =>
    have same := List.inj_on_of_nodup_map unique (mem_of_find? found) member rfl
    rw [Prod.mk.injEq] at same
    rw [same.2]

theorem mem_keys_iff (unique : table.UniqueKeys) :
    key ∈ table.slots.map Prod.fst ↔ ∃ ticket, table.find? key = some ticket := by
  constructor
  · intro member
    obtain ⟨⟨key, ticket⟩, filed, rfl⟩ := List.mem_map.1 member
    exact ⟨ticket, (find?_eq_some_iff unique).2 filed⟩
  · rintro ⟨ticket, found⟩
    exact List.mem_map_of_mem (f := Prod.fst) (mem_of_find? found)

theorem mem_tickets_iff (unique : table.UniqueKeys) :
    ticket ∈ table.slots.map Prod.snd ↔ ∃ key, table.find? key = some ticket := by
  constructor
  · intro member
    obtain ⟨⟨key, ticket⟩, filed, rfl⟩ := List.mem_map.1 member
    exact ⟨key, (find?_eq_some_iff unique).2 filed⟩
  · rintro ⟨key, found⟩
    exact List.mem_map_of_mem (f := Prod.snd) (mem_of_find? found)

/-! ## Taking out and filing -/

theorem mem_erase {slot : String × Ticket} :
    slot ∈ (table.erase key).slots ↔ slot ∈ table.slots ∧ slot.1 ≠ key := by
  simp [erase]

theorem erase_eq_self (h : table.find? key = none) : table.erase key = table := by
  have kept : table.slots.filter (fun slot => slot.1 != key) = table.slots := by
    rw [List.filter_eq_self]
    intro slot member
    simpa using find?_eq_none_iff.1 h slot member
  rw [erase, kept]

theorem UniqueKeys.erase (unique : table.UniqueKeys) (key : String) :
    (table.erase key).UniqueKeys :=
  (List.Sublist.map Prod.fst List.filter_sublist).nodup unique

theorem find?_erase (other : String) :
    (table.erase key).find? other = if other = key then none else table.find? other := by
  by_cases same : other = key
  · subst same
    rw [if_pos rfl, find?_eq_none_iff]
    exact fun slot member => (mem_erase.1 member).2
  · rw [if_neg same, find?, find?, erase]
    induction table.slots with
    | nil => rfl
    | cons slot rest ih =>
      obtain ⟨slotKey, ticket⟩ := slot
      by_cases gone : slotKey = key
      · subst gone
        have later : (other == slotKey) = false := by simpa using same
        rw [List.filter_cons_of_neg (by simp), List.lookup_cons, later]
        exact ih
      · rw [List.filter_cons_of_pos (by simpa using gone), List.lookup_cons, List.lookup_cons, ih]

/-- The entry under a key, and all others. -/
theorem perm_erase (unique : table.UniqueKeys) (h : table.find? key = some ticket) :
    table.slots.Perm ((key, ticket) :: (table.erase key).slots) := by
  have split := perm_cons_filter_ne unique (mem_of_find? h)
  have same : (table.erase key).slots = table.slots.filter fun slot => slot.1 ≠ key :=
    List.filter_congr fun slot _ => by simp [bne, Bool.beq_eq_decide_eq]
  rw [same]
  exact split

theorem file_slots : (table.file key ticket).slots = (key, ticket) :: (table.erase key).slots :=
  rfl

theorem mem_file {slot : String × Ticket} :
    slot ∈ (table.file key ticket).slots ↔
      slot = (key, ticket) ∨ (slot ∈ table.slots ∧ slot.1 ≠ key) := by
  rw [file_slots, List.mem_cons, mem_erase]

theorem find?_file : (table.file key ticket).find? key = some ticket := by
  simp [find?, file]

theorem find?_file_of_ne {other : String} (differs : other ≠ key) :
    (table.file key ticket).find? other = table.find? other := by
  have later : (other == key) = false := by simpa using differs
  have rest : (table.erase key).find? other = table.find? other := by
    rw [find?_erase, if_neg differs]
  rw [← rest]
  simp [find?, file, erase, List.lookup_cons, later]

theorem erase_file : (table.file key ticket).erase key = table.erase key := by
  simp [erase, file, List.filter_filter]

theorem UniqueKeys.file (unique : table.UniqueKeys) (key : String) (ticket : Ticket) :
    (table.file key ticket).UniqueKeys := by
  have rest := unique.erase key
  refine List.nodup_cons.2 ⟨?_, rest⟩
  intro member
  obtain ⟨slot, inside, same⟩ := List.mem_map.1 member
  exact (mem_erase.1 inside).2 same

theorem uniqueKeys_empty (isSealed : Bool) : UniqueKeys ⟨[], isSealed⟩ :=
  List.nodup_nil

/-- A request is filed unless a live entry has its key; what was there is handed back. -/
theorem insert_of_free {isAbandoned : Ticket → Bool} (unsealed : table.isSealed = false)
    (free : ∀ holder, table.find? key = some holder → isAbandoned holder = true) :
    table.insert isAbandoned key ticket = .accepted (table.file key ticket) (table.find? key) := by
  unfold insert
  cases found : table.find? key with
  | none => simp [unsealed]
  | some holder => simp [unsealed, free holder found]

/-- An entry is turned away because the table is sealed or because a live entry has its key, and
filed otherwise. -/
theorem insert_cases (table : Table) (isAbandoned : Ticket → Bool) (key : String)
    (ticket : Ticket) :
    (table.isSealed = true ∧ table.insert isAbandoned key ticket = .refused ticket) ∨
      ((table.isSealed = false ∧
          ∃ holder, table.find? key = some holder ∧ isAbandoned holder = false) ∧
        table.insert isAbandoned key ticket = .duplicate ticket) ∨
      ((table.isSealed = false ∧
          ∀ holder, table.find? key = some holder → isAbandoned holder = true) ∧
        table.insert isAbandoned key ticket =
          .accepted (table.file key ticket) (table.find? key)) := by
  cases shut : table.isSealed with
  | true => exact .inl ⟨rfl, by simp [insert, shut]⟩
  | false =>
    refine .inr ?_
    by_cases live : ∃ holder, table.find? key = some holder ∧ isAbandoned holder = false
    · obtain ⟨holder, found, live⟩ := live
      exact .inl ⟨⟨rfl, holder, found, live⟩, by simp [insert, shut, found, live]⟩
    · have free (holder : Ticket) (found : table.find? key = some holder) :
          isAbandoned holder = true := by
        rw [← Bool.not_eq_false]
        exact fun waits => live ⟨holder, found, waits⟩
      exact .inr ⟨⟨rfl, free⟩, insert_of_free shut free⟩

theorem takeAbandoned_file (isAbandoned : Ticket → Bool) :
    (table.file key ticket).takeAbandoned isAbandoned key =
      if isAbandoned ticket = true then (some ticket, table.erase key)
      else (none, table.file key ticket) := by
  simp only [takeAbandoned, find?_file, take, erase_file]

/-- What is taken as abandoned is the entry under the key, if there is one and it is abandoned. -/
theorem takeAbandoned_cases (table : Table) (isAbandoned : Ticket → Bool) (key : String) :
    (∃ holder, table.find? key = some holder ∧ isAbandoned holder = true ∧
        table.takeAbandoned isAbandoned key = (some holder, table.erase key)) ∨
      (table.takeAbandoned isAbandoned key = (none, table) ∧
        ∀ holder, table.find? key = some holder → isAbandoned holder = false) := by
  unfold takeAbandoned
  cases found : table.find? key with
  | none => exact .inr ⟨rfl, fun holder h => nomatch h⟩
  | some holder =>
    by_cases gone : isAbandoned holder = true
    · refine .inl ⟨holder, rfl, gone, ?_⟩
      simp [gone, take, found]
    · refine .inr ⟨by simp [gone], ?_⟩
      intro other h
      cases h
      simpa using gone

end Table

end Multiplex
