import Multiplex.Proofs.Desks

/-!
# Where the entries of a table are

Whatever is done at a desk, an entry that its table has accepted is in the table under its key, or
has been handed out, or has been displaced after its waiter was dropped (`Situation`). To whoever
uses it the table is a map from keys to entries that can be sealed (`Inserts`, `Takes`, `Drains`).

Main statement: `custody_of_steps`.
-/

namespace Multiplex.Desk

variable {M : Type}

/-- The desk after some steps. -/
def after (desk : Desk M) (steps : List (Step M)) : Desk M :=
  steps.foldl (fun desk step => (desk.step step).2) desk

/-- The marks that steps leave on entries, in order. -/
def record : Desk M → List (Step M) → List Mark
  | _, [] => []
  | desk, step :: rest => desk.marks step ++ record (desk.step step).2 rest

/-- What has happened to an entry. -/
def recordOf (desk : Desk M) (steps : List (Step M)) (ticket : Ticket) : List Mark :=
  (desk.record steps).filter fun mark => mark.ticket = ticket

/-- The key that a step has to do with. -/
def Step.key? : Step M → Option String
  | .insert _ key | .take key _ | .takeAbandoned key _ => some key
  | _ => none

/-- Where an entry is that a table has accepted under a key, by what has happened to it since. -/
inductive Situation (table : Table) (key : String) (ticket : Ticket) : List Mark → Prop
  | held (filed : ∀ other, table.find? other = some ticket ↔ other = key) :
      Situation table key ticket []
  | handedOut (away : ∀ other, table.find? other ≠ some ticket) :
      Situation table key ticket [.handedOut key ticket]
  /-- It was handed out, and accepted once more later. -/
  | accepted {again : String} {rest : List Mark} :
      Situation table key ticket (.handedOut key ticket :: .filed again ticket :: rest)
  | displaced (away : ∀ other, table.find? other ≠ some ticket) :
      Situation table key ticket [.displaced key ticket]

/-- What a mark says about the step that leaves it. -/
inductive Cause (desk : Desk M) (step : Step M) : Mark → Prop
  | filed {name key : String} {ticket : Ticket} (asked : step = .insert name key)
      (held : desk.entries.lookup name = some ticket) (done : (desk.step step).1 = .done) :
      Cause desk step (.filed key ticket)
  | displaced {name key : String} {ticket : Ticket} (asked : step = .insert name key)
      (done : (desk.step step).1 = .done) (abandoned : desk.exchanges.isAbandoned ticket = true) :
      Cause desk step (.displaced key ticket)
  | taken {key into : String} {ticket : Ticket}
      (asked : step = .take key into ∨
        (step = .takeAbandoned key into ∧ desk.exchanges.isAbandoned ticket = true))
      (held : (desk.step step).2.entries.lookup into = some ticket) :
      Cause desk step (.handedOut key ticket)
  | drained {key into : String} {ticket : Ticket} (asked : step = .drain into)
      (held : (desk.step step).2.entries.lookup (into ++ key) = some ticket) :
      Cause desk step (.handedOut key ticket)

/-- What comes of filing an entry that is held under a name. -/
structure Inserts (desk : Desk M) (name key : String) (ticket : Ticket) : Prop where
  refused_iff : (∃ because, (desk.step (.insert name key)).1 = .refused because) ↔
    desk.table.isSealed = true
  duplicate_iff : (∃ because, (desk.step (.insert name key)).1 = .duplicate because) ↔
    desk.table.isSealed = false ∧ ∃ holder, desk.table.find? key = some holder ∧
      desk.exchanges.isAbandoned holder = false
  /-- Then it is still held under its name, and the table is as it was. -/
  rejected : (∃ because, (desk.step (.insert name key)).1 = .refused because ∨
    (desk.step (.insert name key)).1 = .duplicate because) → (desk.step (.insert name key)).2 = desk
  accepted : desk.table.isSealed = false →
    (∀ holder, desk.table.find? key = some holder → desk.exchanges.isAbandoned holder = true) →
      (desk.step (.insert name key)).1 = .done ∧
        (desk.step (.insert name key)).2.table.find? key = some ticket

/-- What comes of taking out what is under a key. -/
structure Takes (desk : Desk M) (key into : String) : Prop where
  missing : desk.table.find? key = none → desk.step (.take key into) = (.notFound, desk)
  found : ∀ ticket, desk.table.find? key = some ticket →
    (desk.step (.take key into)).1 = .found (desk.exchanges.isAbandoned ticket) ∧
      (desk.step (.take key into)).2.entries.lookup into = some ticket ∧
      (desk.step (.take key into)).2.table.find? key = none
  abandoned : ∀ ticket, desk.table.find? key = some ticket →
    desk.exchanges.isAbandoned ticket = true →
      desk.step (.takeAbandoned key into) = desk.step (.take key into)
  live : (∀ ticket, desk.table.find? key = some ticket →
    desk.exchanges.isAbandoned ticket = false) →
      desk.step (.takeAbandoned key into) = (.notFound, desk)

/-- What comes of draining the table: every entry is handed out once. -/
inductive Drains (desk : Desk M) (into : String) : Prop
  | intro {slots : List (String × Ticket)} (once : (slots.map Prod.fst).Nodup)
      (all : ∀ key ticket, (key, ticket) ∈ slots ↔ desk.table.find? key = some ticket)
      (answer : (desk.step (.drain into)).1 =
        .drained (slots.map fun slot => (slot.1, desk.exchanges.isAbandoned slot.2)))
      (held : ∀ slot ∈ slots,
        (desk.step (.drain into)).2.entries.lookup (into ++ slot.1) = some slot.2)
      (table : (desk.step (.drain into)).2.table = ⟨[], true⟩)

/-- A desk at which some steps have been made, and where the entries are that its table has
accepted. -/
structure Custody (steps : List (Step M)) (desk : Desk M) : Prop where
  situation : ∀ earlier name key later ticket, steps = earlier ++ .insert name key :: later →
    (({} : Desk M).after earlier).entries.lookup name = some ticket →
      ((({} : Desk M).after earlier).step (.insert name key)).1 = .done →
        Situation desk.table key ticket
          ((({} : Desk M).after (earlier ++ [.insert name key])).recordOf later ticket)
  /-- The caller of an entry has dropped its waiter exactly if no name holds it. -/
  waiting : ∀ ticket, desk.exchanges.isAbandoned ticket = false ↔
    ∃ name, desk.waiters.lookup name = some ticket
  /-- Every mark was left by a step that accounts for it. -/
  causes : ∀ earlier step later, steps = earlier ++ step :: later →
    ∀ mark ∈ (({} : Desk M).after earlier).marks step,
      Cause (({} : Desk M).after earlier) step mark
  inserts : ∀ name key ticket, desk.entries.lookup name = some ticket → Inserts desk name key ticket
  takes : ∀ key into, Takes desk key into
  drains : ∀ into, Drains desk into
  /-- Other entries stay where they are. -/
  frame : ∀ step key, (∀ into, step ≠ .drain into) → step.key? ≠ some key →
    (desk.step step).2.table.find? key = desk.table.find? key
  size : ∃ keys : List String, keys.Nodup ∧ desk.table.size = keys.length ∧
    ∀ key, key ∈ keys ↔ ∃ ticket, desk.table.find? key = some ticket
  isSealed_iff : desk.table.isSealed = true ↔ ∃ into, .drain into ∈ steps
  empty : desk.table.isSealed = true → desk.table.size = 0

variable {desk next : Desk M} {step : Step M} {steps later : List (Step M)} {new : List Mark}
  {mark : Mark} {name key into : String} {ticket : Ticket}

/-! ## One entry at a time -/

/-- What a step means to one entry. -/
inductive Passage (desk next : Desk M) (ticket : Ticket) : List Mark → Prop
  | stays (same : ∀ key, (key, ticket) ∈ next.table.slots ↔ (key, ticket) ∈ desk.table.slots) :
      Passage desk next ticket []
  | filed {key : String} (before : ∀ other, (other, ticket) ∉ desk.table.slots)
      (after : ∀ other, (other, ticket) ∈ next.table.slots ↔ other = key) :
      Passage desk next ticket [.filed key ticket]
  | handedOut {key : String} (before : (key, ticket) ∈ desk.table.slots)
      (after : ∀ other, (other, ticket) ∉ next.table.slots) :
      Passage desk next ticket [.handedOut key ticket]
  | displaced {key : String} (before : (key, ticket) ∈ desk.table.slots)
      (after : ticket ∉ next.tickets) : Passage desk next ticket [.displaced key ticket]

/-- An entry is in the table under one key. -/
theorem Tidy.key_unique (tidy : desk.Tidy) {other : String}
    (filed : (key, ticket) ∈ desk.table.slots) (filed' : (other, ticket) ∈ desk.table.slots) :
    key = other := by
  have once := (List.nodup_append.1 tidy.once).1
  have same := List.inj_on_of_nodup_map once filed filed' rfl
  rw [Prod.mk.injEq] at same
  exact same.1

/-- What is in the table is not held under a name. -/
theorem Tidy.not_held (tidy : desk.Tidy) (filed : (key, ticket) ∈ desk.table.slots) :
    ticket ∉ desk.entries.map Prod.snd :=
  fun entry => (List.nodup_append.1 tidy.once).2.2 _ (List.mem_map_of_mem filed) _ entry rfl

/-- When what is under a key is taken out, nothing else is. -/
theorem mem_erase_of_ne (tidy : desk.Tidy) {holder : Ticket}
    (found : desk.table.find? key = some holder) (differs : ticket ≠ holder) (other : String) :
    (other, ticket) ∈ (desk.table.erase key).slots ↔ (other, ticket) ∈ desk.table.slots := by
  rw [Table.mem_erase, and_iff_left_iff_imp]
  rintro filed rfl
  rw [(Table.find?_eq_some_iff tidy.keys).2 filed] at found
  exact differs (Option.some.inj found)

theorem not_mem_erase (tidy : desk.Tidy) (found : desk.table.find? key = some ticket)
    (other : String) : (other, ticket) ∉ (desk.table.erase key).slots := by
  intro member
  obtain ⟨filed, differs⟩ := Table.mem_erase.1 member
  exact differs (tidy.key_unique filed (Table.mem_of_find? found))

/-- A drain hands out what is in the table. -/
theorem passage_of_drain (tidy : desk.Tidy) (emptied : next.table.slots = []) (ticket : Ticket) :
    Passage desk next ticket
      ((desk.table.slots.map fun slot => Mark.handedOut slot.1 slot.2).filter
        fun mark => mark.ticket = ticket) := by
  have marks : ((desk.table.slots.map fun slot => Mark.handedOut slot.1 slot.2).filter
      fun mark => mark.ticket = ticket) = (desk.table.slots.filter fun slot => slot.2 = ticket).map
        fun slot => Mark.handedOut slot.1 slot.2 := List.filter_map
  rw [marks]
  by_cases inside : ∃ key, (key, ticket) ∈ desk.table.slots
  · obtain ⟨key, filed⟩ := inside
    have one : desk.table.slots.filter (fun slot => slot.2 = ticket) = [(key, ticket)] :=
      filter_mark_eq (List.nodup_append.1 tidy.once).1 filed
    rw [one]
    exact .handedOut filed fun other => by simp [emptied]
  · have none : desk.table.slots.filter (fun slot => slot.2 = ticket) = [] := by
      refine List.filter_eq_nil_iff.2 fun slot filed same => inside ⟨slot.1, ?_⟩
      rwa [← of_decide_eq_true same]
    rw [none]
    refine .stays fun key => ?_
    simp only [emptied, List.not_mem_nil, false_iff]
    exact fun filed => inside ⟨key, filed⟩

/-- An entry that another one displaces is nowhere any more. -/
theorem displaced_nowhere (tidy : desk.Tidy) {holder : Ticket} {exchanges : Exchanges M}
    (found : desk.table.find? key = some ticket) (differs : holder ≠ ticket) :
    ticket ∉ ({ desk with
      table := desk.table.file key holder, exchanges }.forgetEntry name).tickets := by
  intro member
  rcases List.mem_append.1 member with filed | held
  · rcases List.mem_cons.1 filed with same | kept
    · exact differs same.symm
    · obtain ⟨⟨other, ticket⟩, inside, rfl⟩ := List.mem_map.1 kept
      exact not_mem_erase tidy found other inside
  · exact tidy.not_held (Table.mem_of_find? found) ((map_snd_erase desk.held name).subset held)

/-- What is filed under a key displaces what was there. -/
theorem passage_of_file (tidy : desk.Tidy) {holder : Ticket} {exchanges : Exchanges M}
    (held : desk.held.find? name = some holder) (ticket : Ticket) :
    Passage desk
      ({ desk with table := desk.table.file key holder, exchanges }.forgetEntry name) ticket
      ((((desk.table.find? key).map (Mark.displaced key)).toList ++ [Mark.filed key holder]).filter
        fun mark => mark.ticket = ticket) := by
  have outside (key : String) : (key, holder) ∉ desk.table.slots := fun filed =>
    tidy.not_held filed (List.mem_map_of_mem (f := Prod.snd) (Table.mem_of_find? held))
  rw [List.filter_append]
  by_cases own : holder = ticket
  -- the entry that is filed was held under the name
  · subst own
    have none : ((desk.table.find? key).map (Mark.displaced key)).toList.filter
        (fun mark => mark.ticket = holder) = [] := by
      refine List.filter_eq_nil_iff.2 fun mark member same => ?_
      obtain ⟨old, found, rfl⟩ := Option.map_eq_some_iff.1 (Option.mem_toList.1 member)
      exact outside key (of_decide_eq_true same ▸ Table.mem_of_find? found)
    rw [none, List.nil_append, List.filter_cons_of_pos (by simp [Mark.ticket]), List.filter_nil]
    refine .filed outside fun other => Table.mem_file.trans ?_
    simp [outside]
  · rw [List.filter_cons_of_neg (by simp [Mark.ticket, own]), List.filter_nil, List.append_nil]
    have filed (other : String) : (other, ticket) ∈ (desk.table.file key holder).slots ↔
        (other, ticket) ∈ (desk.table.erase key).slots := by
      rw [Table.mem_file, Table.mem_erase]
      simp [Ne.symm own]
    cases found : desk.table.find? key with
    | none =>
      refine .stays fun other => (filed other).trans ?_
      rw [Table.erase_eq_self found]
    | some old =>
      rw [Option.map_some, Option.toList_some]
      by_cases displaced : old = ticket
      · subst displaced
        rw [List.filter_cons_of_pos (by simp [Mark.ticket]), List.filter_nil]
        exact .displaced (Table.mem_of_find? found) (displaced_nowhere tidy found own)
      · rw [List.filter_cons_of_neg (by simp [Mark.ticket, displaced]), List.filter_nil]
        exact .stays fun other =>
          (filed other).trans (mem_erase_of_ne tidy found (Ne.symm displaced) other)

theorem passage_of_effect (tidy : desk.Tidy) (effect : Effect desk step next new)
    (ticket : Ticket) : Passage desk next ticket (new.filter fun mark => mark.ticket = ticket) := by
  cases effect with
  | none | create | consume | leave => exact .stays fun _ => Iff.rfl
  | file held => exact passage_of_file tidy held ticket
  | @handOut step key into holder found asked =>
    by_cases own : holder = ticket
    · subst own
      rw [List.filter_cons_of_pos (by simp [Mark.ticket]), List.filter_nil]
      exact .handedOut (Table.mem_of_find? found) (not_mem_erase tidy found)
    · rw [List.filter_cons_of_neg (by simp [Mark.ticket, own]), List.filter_nil]
      exact .stays (mem_erase_of_ne tidy found (Ne.symm own))
  | @drain into =>
    refine passage_of_drain tidy ?_ ticket
    rw [(holdAll_frame { desk with table := ⟨[], true⟩ } into _).1]

/-! ## What becomes of an entry -/

@[simp] theorem after_nil (desk : Desk M) : desk.after [] = desk := rfl

@[simp] theorem after_cons (desk : Desk M) (step : Step M) (later : List (Step M)) :
    desk.after (step :: later) = (desk.step step).2.after later := rfl

theorem after_append (desk : Desk M) (steps later : List (Step M)) :
    desk.after (steps ++ later) = (desk.after steps).after later :=
  List.foldl_append

theorem recordOf_cons (desk : Desk M) (step : Step M) (later : List (Step M)) (ticket : Ticket) :
    desk.recordOf (step :: later) ticket =
      (desk.marks step).filter (fun mark => mark.ticket = ticket) ++
        (desk.step step).2.recordOf later ticket :=
  List.filter_append _ _

theorem Tidy.after_step (tidy : desk.Tidy) (step : Step M) : (desk.step step).2.Tidy :=
  tidy.after (effect_of_step desk step)

theorem Tidy.follow (tidy : desk.Tidy) (steps : List (Step M)) : (desk.after steps).Tidy := by
  induction steps generalizing desk with
  | nil => exact tidy
  | cons step rest ih => exact ih (tidy.after_step step)

theorem Attended.follow (attended : desk.Attended) (steps : List (Step M)) :
    (desk.after steps).Attended := by
  induction steps generalizing desk with
  | nil => exact attended
  | cons step rest ih => exact ih (attended.after (effect_of_step desk step))

/-- Exchanges are never forgotten. -/
theorem Tidy.length_le (tidy : desk.Tidy) (step : Step M) :
    desk.exchanges.length ≤ (desk.step step).2.exchanges.length := by
  rcases tickets_of_effect tidy (effect_of_step desk step) with ⟨-, length⟩ | ⟨-, length⟩
  · exact Nat.le_of_eq length.symm
  · rw [length]
    exact Nat.le_succ _

/-- An entry that has been dropped. -/
structure Gone (desk : Desk M) (ticket : Ticket) : Prop where
  made : ticket < desk.exchanges.length
  nowhere : ticket ∉ desk.tickets

theorem Gone.after_step (tidy : desk.Tidy) (gone : desk.Gone ticket) (step : Step M) :
    (desk.step step).2.Gone ticket := by
  refine ⟨Nat.lt_of_lt_of_le gone.made (tidy.length_le step), fun member => ?_⟩
  rcases tickets_of_effect tidy (effect_of_step desk step) with ⟨moved, -⟩ | ⟨moved, -⟩
  · exact gone.nowhere (moved.subset member)
  · rcases List.mem_cons.1 (moved.subset member) with rfl | before
    · exact Nat.lt_irrefl _ gone.made
    · exact gone.nowhere before

theorem Gone.not_filed (gone : desk.Gone ticket) (key : String) :
    (key, ticket) ∉ desk.table.slots :=
  fun filed => gone.nowhere (List.mem_append_left _ (List.mem_map_of_mem filed))

/-- Nothing happens to an entry that has been dropped. -/
theorem Gone.recordOf (tidy : desk.Tidy) (gone : desk.Gone ticket) (later : List (Step M)) :
    desk.recordOf later ticket = [] ∧ (desk.after later).Gone ticket := by
  induction later generalizing desk with
  | nil => exact ⟨rfl, gone⟩
  | cons step rest ih =>
    have gone' := gone.after_step tidy step
    obtain ⟨none, still⟩ := ih (tidy.after_step step) gone'
    refine ⟨?_, still⟩
    rw [recordOf_cons, none, List.append_nil]
    have passage := passage_of_effect tidy (effect_of_step desk step) ticket
    generalize (desk.marks step).filter _ = marks at passage
    cases passage with
    | stays => rfl
    | filed before after => exact absurd ((after _).2 rfl) (gone'.not_filed _)
    | handedOut before | displaced before => exact absurd before (gone.not_filed _)

/-- What happens first to an entry that is not in the table is that it is filed. -/
theorem recordOf_of_not_filed (tidy : desk.Tidy) (away : ∀ key, (key, ticket) ∉ desk.table.slots)
    (later : List (Step M)) :
    (desk.recordOf later ticket = [] ∧ ∀ key, (key, ticket) ∉ (desk.after later).table.slots) ∨
      ∃ again rest, desk.recordOf later ticket = .filed again ticket :: rest := by
  induction later generalizing desk with
  | nil => exact .inl ⟨rfl, away⟩
  | cons step rest ih =>
    rw [recordOf_cons, after_cons]
    have passage := passage_of_effect tidy (effect_of_step desk step) ticket
    generalize (desk.marks step).filter _ = marks at passage
    cases passage with
    | stays same => exact ih (tidy.after_step step) fun key filed => away key ((same key).1 filed)
    | filed => exact .inr ⟨_, _, rfl⟩
    | handedOut before | displaced before => exact absurd before (away _)

/-- What becomes of an entry that is in the table. -/
theorem situation_of_filed (tidy : desk.Tidy) (filed : (key, ticket) ∈ desk.table.slots)
    (later : List (Step M)) :
    Situation (desk.after later).table key ticket (desk.recordOf later ticket) := by
  -- the first step that is not indifferent to the entry takes it out of the table
  induction later generalizing desk with
  | nil =>
    refine .held fun other => ?_
    rw [after_nil, Table.find?_eq_some_iff tidy.keys]
    constructor
    · exact fun filed' => tidy.key_unique filed' filed
    · rintro rfl
      exact filed
  | cons step rest ih =>
    have tidy' := tidy.after_step step
    rw [recordOf_cons, after_cons]
    have passage := passage_of_effect tidy (effect_of_step desk step) ticket
    have made : ticket < (desk.step step).2.exchanges.length := by
      have before := tidy.made ticket (List.mem_append_left _ (List.mem_map_of_mem filed))
      exact Nat.lt_of_lt_of_le before (tidy.length_le step)
    generalize (desk.marks step).filter _ = marks at passage
    cases passage with
    | stays same => exact ih tidy' ((same key).2 filed)
    | filed before => exact absurd filed (before key)
    -- whoever has the entry now may file it again
    | handedOut before after =>
      cases tidy.key_unique filed before
      rcases recordOf_of_not_filed tidy' after rest with ⟨none, away⟩ | ⟨again, more, eq⟩
      · rw [none]
        exact .handedOut fun other found => away other (Table.mem_of_find? found)
      · rw [eq]
        exact .accepted
    -- the entry has been dropped, so nobody has it to file it again
    | displaced before after =>
      cases tidy.key_unique filed before
      obtain ⟨none, gone⟩ := Gone.recordOf tidy' ⟨made, after⟩ rest
      rw [none]
      exact .displaced fun other found => gone.not_filed other (Table.mem_of_find? found)

/-! ## What each operation does -/

/-- The three answers to an entry that is to be filed, with the condition for each of them. -/
theorem step_insert (held : desk.entries.lookup name = some ticket) (key : String) :
    (desk.table.isSealed = true ∧ desk.step (.insert name key) = (.refused .closed, desk) ∧
        desk.marks (.insert name key) = []) ∨
      ((desk.table.isSealed = false ∧ ∃ holder, desk.table.find? key = some holder ∧
          desk.exchanges.isAbandoned holder = false) ∧
        desk.step (.insert name key) = (.duplicate (.duplicateKey key), desk) ∧
        desk.marks (.insert name key) = []) ∨
      ((desk.table.isSealed = false ∧ ∀ holder, desk.table.find? key = some holder →
          desk.exchanges.isAbandoned holder = true) ∧
        (desk.step (.insert name key)).1 = .done ∧
        (desk.step (.insert name key)).2.table = desk.table.file key ticket ∧
        desk.marks (.insert name key) =
          ((desk.table.find? key).map (Mark.displaced key)).toList ++ [.filed key ticket]) := by
  simp only [Desk.step, marks, held]
  rcases desk.table.insert_cases desk.exchanges.isAbandoned key ticket with
    ⟨shut, refused⟩ | ⟨live, duplicate⟩ | ⟨free, accepted⟩
  · exact .inl ⟨shut, by simp only [refused, putBack_of_lookup held, and_self]⟩
  · exact .inr (.inl ⟨live, by simp only [duplicate, putBack_of_lookup held, and_self]⟩)
  · refine .inr (.inr ⟨free, ?_⟩)
    simp only [accepted, forgetEntry, and_self]

theorem inserts_of_held (held : desk.entries.lookup name = some ticket) (key : String) :
    Inserts desk name key ticket := by
  rcases step_insert held key with ⟨shut, eq, -⟩ | ⟨⟨unsealed, live⟩, eq, -⟩ |
    ⟨⟨unsealed, free⟩, done, table, -⟩
  · refine ⟨?_, ?_, fun _ => by rw [eq], fun unsealed => ?_⟩
    · simp [eq, shut]
    · simp [eq, shut]
    · cases shut.symm.trans unsealed
  · refine ⟨?_, ?_, fun _ => by rw [eq], fun _ free => ?_⟩
    · simp [eq, unsealed]
    · simp [eq, unsealed, live]
    · obtain ⟨holder, found, waits⟩ := live
      cases waits.symm.trans (free holder found)
  · refine ⟨?_, ?_, ?_, fun _ _ => ⟨done, by rw [table, Table.find?_file]⟩⟩
    · simp [done, unsealed]
    · simp only [done, reduceCtorEq, exists_false, false_iff]
      rintro ⟨-, holder, found, waits⟩
      cases waits.symm.trans (free holder found)
    · rintro ⟨because, refused | duplicate⟩
      · cases done.symm.trans refused
      · cases done.symm.trans duplicate

theorem step_take (found : desk.table.find? key = some ticket) (into : String) :
    desk.step (.take key into) = (.found (desk.exchanges.isAbandoned ticket),
      { desk with table := desk.table.erase key }.holdEntry into ticket) := by
  simp only [Desk.step, Table.take, found, handOut]

theorem lookup_holdEntry (desk : Desk M) (name : String) (ticket : Ticket) :
    (desk.holdEntry name ticket).entries.lookup name = some ticket := by
  have found : (desk.holdEntry name ticket).held.find? name = some ticket := by
    rw [held_holdEntry, Table.find?_file]
  exact found

theorem takes_of_desk (desk : Desk M) (key into : String) : Takes desk key into := by
  refine ⟨fun missing => ?_, fun ticket found => ?_, fun ticket found gone => ?_, fun live => ?_⟩
  · simp only [Desk.step, Table.take, missing, handOut]
  · rw [step_take found]
    exact ⟨rfl, lookup_holdEntry _ _ _, by rw [table_holdEntry, Table.find?_erase, if_pos rfl]⟩
  · simp only [Desk.step, Table.takeAbandoned, found, gone, if_true]
  · rcases desk.table.takeAbandoned_cases desk.exchanges.isAbandoned key with
      ⟨holder, found, gone, -⟩ | ⟨untaken, -⟩
    · cases gone.symm.trans (live holder found)
    · simp only [Desk.step, untaken, handOut]

theorem drains_of_tidy (tidy : desk.Tidy) (into : String) : Drains desk into := by
  have sorted := List.mergeSort_perm desk.table.slots keyLe
  have once : ((desk.table.slots.mergeSort keyLe).map Prod.fst).Nodup :=
    (sorted.map Prod.fst).nodup_iff.2 tidy.keys
  refine .intro once (fun key ticket => ?_) rfl (fun slot member => ?_) ?_
  · rw [sorted.mem_iff, Table.find?_eq_some_iff tidy.keys]
  · exact find?_holdAll { desk with table := ⟨[], true⟩ } into once member
  · exact (holdAll_frame { desk with table := ⟨[], true⟩ } into _).1

/-- Marks that are left when an entry is filed. -/
theorem cause_of_insert (member : mark ∈ desk.marks (.insert name key)) :
    Cause desk (.insert name key) mark := by
  cases held : desk.entries.lookup name with
  | none => simp [marks, held] at member
  | some ticket =>
    rcases step_insert held key with ⟨-, -, none⟩ | ⟨-, -, none⟩ | ⟨⟨-, free⟩, done, -, marks⟩
    · rw [none] at member
      cases member
    · rw [none] at member
      cases member
    · rw [marks] at member
      rcases List.mem_append.1 member with displaced | filed
      · obtain ⟨old, found, rfl⟩ := Option.map_eq_some_iff.1 (Option.mem_toList.1 displaced)
        exact .displaced rfl done (free old found)
      · cases List.mem_singleton.1 filed
        exact .filed rfl held done

/-- A mark says who did what to the entry. -/
theorem cause_of_mark (tidy : desk.Tidy) (member : mark ∈ desk.marks step) :
    Cause desk step mark := by
  cases step with
  | insert name key => exact cause_of_insert member
  | take key into =>
    obtain ⟨ticket, found, rfl⟩ := Option.map_eq_some_iff.1 (Option.mem_toList.1 member)
    exact .taken (.inl rfl) ((takes_of_desk desk key into).found ticket found).2.1
  -- what is taken as abandoned is what would be taken anyway
  | takeAbandoned key into =>
    obtain ⟨ticket, taken, rfl⟩ := Option.map_eq_some_iff.1 (Option.mem_toList.1 member)
    rcases desk.table.takeAbandoned_cases desk.exchanges.isAbandoned key with
      ⟨holder, found, gone, eq⟩ | ⟨eq, -⟩
    · rw [eq] at taken
      cases taken
      have takes := takes_of_desk desk key into
      refine .taken (.inr ⟨rfl, gone⟩) ?_
      rw [takes.abandoned ticket found gone]
      exact (takes.found ticket found).2.1
    · rw [eq] at taken
      cases taken
  | drain into =>
    obtain ⟨slot, filed, rfl⟩ := List.mem_map.1 member
    obtain ⟨once, all, answer, held, table⟩ := drains_of_tidy tidy into
    exact .drained rfl (held _ ((all _ _).2 ((Table.find?_eq_some_iff tidy.keys).2 filed)))
  | _ => cases member

/-! ## The table after some steps -/

/-- A step leaves the entries under other keys where they are, unless it drains the table. -/
theorem find?_step (other : ∀ into, step ≠ .drain into) (apart : step.key? ≠ some key) :
    (desk.step step).2.table.find? key = desk.table.find? key := by
  have effect := effect_of_step desk step
  generalize (desk.step step).2 = next, desk.marks step = new at effect
  cases effect with
  | none | create | consume | leave => rfl
  | @file name held =>
    exact Table.find?_file_of_ne fun same => apart (by rw [same]; rfl)
  | @handOut _ held into ticket found asked =>
    rw [table_holdEntry, Table.find?_erase, if_neg]
    rintro rfl
    rcases asked with rfl | ⟨rfl, -⟩
    · exact apart rfl
    · exact apart rfl
  | drain => exact absurd rfl (other _)

/-- A table is sealed when it is drained, and only then. -/
theorem isSealed_step (desk : Desk M) (step : Step M) :
    (desk.step step).2.table.isSealed = true ↔
      desk.table.isSealed = true ∨ ∃ into, step = .drain into := by
  by_cases drains : ∃ into, step = .drain into
  · obtain ⟨into, rfl⟩ := drains
    have table : (desk.step (.drain into)).2.table = ⟨[], true⟩ :=
      (holdAll_frame { desk with table := ⟨[], true⟩ } into _).1
    simp [table]
  · rw [or_iff_left drains]
    have effect := effect_of_step desk step
    generalize (desk.step step).2 = next, desk.marks step = new at effect
    cases effect with
    | drain => exact absurd ⟨_, rfl⟩ drains
    | _ => exact Iff.rfl

theorem isSealed_after (desk : Desk M) (steps : List (Step M)) :
    (desk.after steps).table.isSealed = true ↔
      desk.table.isSealed = true ∨ ∃ into, .drain into ∈ steps := by
  induction steps generalizing desk with
  | nil => simp
  | cons step rest ih =>
    rw [after_cons, ih, isSealed_step, or_assoc]
    refine or_congr_right ?_
    simp only [List.mem_cons, exists_or, eq_comm]

/-- What becomes of an entry that has just been accepted. -/
theorem situation_of_accepted (tidy : desk.Tidy) (held : desk.entries.lookup name = some ticket)
    (done : (desk.step (.insert name key)).1 = .done) (later : List (Step M)) :
    Situation ((desk.after [.insert name key]).after later).table key ticket
      ((desk.after [.insert name key]).recordOf later ticket) := by
  refine situation_of_filed (tidy.follow _) ?_ later
  rcases step_insert held key with ⟨-, eq, -⟩ | ⟨-, eq, -⟩ | ⟨-, -, table, -⟩
  · rw [eq] at done
    cases done
  · rw [eq] at done
    cases done
  · rw [after_cons, after_nil, table]
    exact List.mem_cons_self

/-- Whatever is done at a desk, no entry is lost and none is in two places. -/
theorem custody_of_steps (steps : List (Step M)) :
    Custody steps (({} : Desk M).after steps) := by
  have tidy : (({} : Desk M).after steps).Tidy := tidy_vacant.follow steps
  have attended : (({} : Desk M).after steps).Attended := attended_vacant.follow steps
  refine
    { situation := fun earlier name key later ticket split held done => ?situation
      waiting := fun ticket =>
        (attended.waiting ticket).trans (Table.mem_tickets_iff attended.names)
      causes := fun earlier step later split mark member =>
        cause_of_mark (tidy_vacant.follow earlier) member
      inserts := fun name key ticket held => inserts_of_held held key
      takes := fun key into => takes_of_desk _ key into
      drains := fun into => drains_of_tidy tidy into
      frame := fun step key other apart => find?_step other apart
      size := ⟨_, tidy.keys, (List.length_map _).symm, fun key => Table.mem_keys_iff tidy.keys⟩
      isSealed_iff := (isSealed_after {} steps).trans (or_iff_right Bool.false_ne_true)
      empty := fun shut => by rw [Table.size, tidy.empty shut, List.length_nil] }
  case situation =>
    have whole : ({} : Desk M).after steps =
        ((({} : Desk M).after earlier).after [.insert name key]).after later := by
      rw [split, ← after_append, ← after_append, List.singleton_append]
    rw [whole, after_append]
    exact situation_of_accepted (tidy_vacant.follow earlier) held done later

/-- An entry whose waiter has been dropped makes room for another. -/
example : ({} : Desk Unit).recordOf [.create "a", .insert "a" "k", .dropWaiter "a", .create "b",
    .insert "b" "k", .take "k" "c"] 0 = [.filed "k" 0, .displaced "k" 0] := by
  decide

end Multiplex.Desk
