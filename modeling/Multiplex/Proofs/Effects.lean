import Multiplex.Link.Operation
import Multiplex.Proofs.Exchanges
import Multiplex.Proofs.Tables

/-!
# What the operations on a link do to its state

Each operation that touches entries has one lemma here, which gives the link after it: the fields
that change, and nothing about the others. The order in which callers are told, and the remarks in
the history that only comment on what happens (`Event.isRemark`), are left open.
-/

namespace Multiplex

variable {M : Type}

/-- The event says nothing about trace numbers, requests, frames and calls, nor about the end of the
active phase. -/
def Event.isRemark : Event M → Bool
  | .issued _ | .prepared _ _ | .queued _ | .registered _ _ | .unregistered _ _ _ | .skipped _ _
  | .sent _ _ _ | .writeFailed _ _ _ | .received _ | .delivered _ _ | .draining _
  | .returned _ _ _ => false
  | _ => true

/-- Remarks, in the order of a history. -/
def Remarks (events : List (Event M)) : Prop :=
  ∀ event ∈ events, event.isRemark = true

theorem Remarks.nil : Remarks ([] : List (Event M)) :=
  fun _ member => nomatch member

theorem Remarks.cons (event : Event M) {events : List (Event M)} (remark : event.isRemark = true)
    (h : Remarks events) : Remarks (event :: events) :=
  List.forall_mem_cons.2 ⟨remark, h⟩

theorem Remarks.append {first second : List (Event M)} (h : Remarks first) (h' : Remarks second) :
    Remarks (first ++ second) :=
  List.forall_mem_append.2 ⟨h, h'⟩

theorem Remarks.mem_of_append {event : Event M} {remarks history : List (Event M)}
    (only : Remarks remarks) (significant : event.isRemark = false)
    (member : event ∈ remarks ++ history) : event ∈ history := by
  rcases List.mem_append.1 member with remark | earlier
  · rw [only event remark] at significant
    cases significant
  · exact earlier

namespace Exchanges

/-- The exchanges after the entries of some tickets have been failed with a closed link. -/
def closeAll (exchanges : Exchanges M) (tickets : List Ticket) : Exchanges M :=
  tickets.foldl (fun exchanges ticket => (exchanges.fail ticket .closed).1) exchanges

/-- The exchanges after the entries of some tickets have been dropped. -/
def dropAll (exchanges : Exchanges M) (tickets : List Ticket) : Exchanges M :=
  tickets.foldl drop exchanges

/-- What no single operation of a kind changes, a sequence of them leaves unchanged. -/
theorem foldl_unchanged {α β : Type} {operate : Exchanges M → α → Exchanges M}
    {f : Exchanges M → β} (unchanged : ∀ exchanges a, f (operate exchanges a) = f exchanges)
    (exchanges : Exchanges M) (items : List α) :
    f (items.foldl operate exchanges) = f exchanges := by
  induction items generalizing exchanges with
  | nil => rfl
  | cons item rest ih =>
    rw [List.foldl_cons, ih]
    exact unchanged exchanges item

theorem poll_closeAll (exchanges : Exchanges M) (tickets : List Ticket) (other : Ticket) :
    (exchanges.closeAll tickets).poll other =
      if other ∈ tickets then some (.error .closed) else exchanges.poll other := by
  induction tickets generalizing exchanges with
  | nil => simp [closeAll]
  | cons ticket rest ih =>
    show ((exchanges.fail ticket .closed).1.closeAll rest).poll other = _
    rw [ih, poll_fail]
    by_cases same : other = ticket <;> by_cases later : other ∈ rest <;> simp [same, later]

@[simp] theorem isAbandoned_closeAll (exchanges : Exchanges M) (tickets : List Ticket)
    (other : Ticket) :
    (exchanges.closeAll tickets).isAbandoned other = exchanges.isAbandoned other :=
  foldl_unchanged (f := fun exchanges => exchanges.isAbandoned other)
    (fun _ _ => isAbandoned_fail _ _ _ _) exchanges tickets

@[simp] theorem length_closeAll (exchanges : Exchanges M) (tickets : List Ticket) :
    (exchanges.closeAll tickets).length = exchanges.length :=
  foldl_unchanged (fun _ _ => length_fail _ _ _) exchanges tickets

theorem poll_dropAll (exchanges : Exchanges M) (tickets : List Ticket) (other : Ticket) :
    (exchanges.dropAll tickets).poll other =
      if other ∈ tickets ∧ exchanges.poll other = none then some (.error .closed)
      else exchanges.poll other := by
  induction tickets generalizing exchanges with
  | nil => simp [dropAll]
  | cons ticket rest ih =>
    show ((exchanges.drop ticket).dropAll rest).poll other = _
    rw [ih, poll_drop]
    by_cases same : other = ticket
    -- an entry that is dropped a second time has its outcome already
    · subst same
      by_cases held : exchanges.poll other = none <;> simp [held]
    · simp [same]

@[simp] theorem isAbandoned_dropAll (exchanges : Exchanges M) (tickets : List Ticket)
    (other : Ticket) :
    (exchanges.dropAll tickets).isAbandoned other = exchanges.isAbandoned other :=
  foldl_unchanged (f := fun exchanges => exchanges.isAbandoned other)
    (fun _ _ => isAbandoned_drop _ _ _) exchanges tickets

@[simp] theorem length_dropAll (exchanges : Exchanges M) (tickets : List Ticket) :
    (exchanges.dropAll tickets).length = exchanges.length :=
  foldl_unchanged (fun _ _ => length_drop _ _) exchanges tickets

/-- The exchanges after the entry under a key has been dropped, if there is one. -/
def vacate (exchanges : Exchanges M) (table : Table) (key : String) : Exchanges M :=
  match table.find? key with
  | some holder => exchanges.drop holder
  | none => exchanges

/-- The exchanges after the entry under a key, if there is one, has been failed. -/
def failAt (exchanges : Exchanges M) (table : Table) (key : String) (error : LinkError) :
    Exchanges M :=
  match table.find? key with
  | some holder => (exchanges.fail holder error).1
  | none => exchanges

/-- The exchanges after the caller of a ticket has left. A request that was not handed over goes
with it. -/
def quit (exchanges : Exchanges M) (ticket : Ticket) (handed : Bool) : Exchanges M :=
  if handed then exchanges.leave ticket else (exchanges.leave ticket).drop ticket

theorem poll_vacate (exchanges : Exchanges M) (table : Table) (key : String) (other : Ticket) :
    (exchanges.vacate table key).poll other =
      if table.find? key = some other ∧ exchanges.poll other = none then some (.error .closed)
      else exchanges.poll other := by
  unfold vacate
  cases found : table.find? key with
  | none => simp
  | some holder =>
    simp only [poll_drop, Option.some.injEq]
    by_cases same : holder = other
    · subst same
      simp
    · simp [same, Ne.symm same]

@[simp] theorem isAbandoned_vacate (exchanges : Exchanges M) (table : Table) (key : String)
    (other : Ticket) :
    (exchanges.vacate table key).isAbandoned other = exchanges.isAbandoned other := by
  unfold vacate
  split <;> simp

@[simp] theorem length_vacate (exchanges : Exchanges M) (table : Table) (key : String) :
    (exchanges.vacate table key).length = exchanges.length := by
  unfold vacate
  split <;> simp

theorem poll_failAt (exchanges : Exchanges M) (table : Table) (key : String) (error : LinkError)
    (other : Ticket) :
    (exchanges.failAt table key error).poll other =
      if table.find? key = some other then
        some (.error (if exchanges.isAbandoned other then .closed else error))
      else exchanges.poll other := by
  unfold failAt
  cases found : table.find? key with
  | none => simp
  | some holder =>
    simp only [poll_fail, Option.some.injEq]
    by_cases same : holder = other
    · subst same
      simp
    · simp [same, Ne.symm same]

@[simp] theorem isAbandoned_failAt (exchanges : Exchanges M) (table : Table) (key : String)
    (error : LinkError) (other : Ticket) :
    (exchanges.failAt table key error).isAbandoned other = exchanges.isAbandoned other := by
  unfold failAt
  split <;> simp

@[simp] theorem length_failAt (exchanges : Exchanges M) (table : Table) (key : String)
    (error : LinkError) : (exchanges.failAt table key error).length = exchanges.length := by
  unfold failAt
  split <;> simp

theorem poll_quit (exchanges : Exchanges M) (ticket : Ticket) (handed : Bool) (other : Ticket) :
    (exchanges.quit ticket handed).poll other =
      if handed = false ∧ other = ticket ∧ exchanges.poll ticket = none then
        some (.error .closed)
      else exchanges.poll other := by
  unfold quit
  cases handed <;> simp [poll_drop]

theorem isAbandoned_quit (exchanges : Exchanges M) (ticket : Ticket) (handed : Bool)
    (other : Ticket) :
    (exchanges.quit ticket handed).isAbandoned other =
      if other = ticket then true else exchanges.isAbandoned other := by
  unfold quit
  cases handed <;> simp [isAbandoned_leave]

@[simp] theorem length_quit (exchanges : Exchanges M) (ticket : Ticket) (handed : Bool) :
    (exchanges.quit ticket handed).length = exchanges.length := by
  unfold quit
  cases handed <;> simp

end Exchanges

namespace Link

/-- What the tasks of a link look at agrees with its phase: they are asked to stop exactly if it is
not active, and its table takes entries as long as it is. -/
structure Synced (link : Link M) : Prop where
  stopAsked_iff : link.stopAsked = true ↔ link.phase ≠ .active
  unsealed : link.phase = .active → link.table.isSealed = false

theorem Synced.unasked_iff {link : Link M} (synced : link.Synced) :
    link.stopAsked = false ↔ link.phase = .active := by
  rw [← Bool.not_eq_true, synced.stopAsked_iff]
  exact Decidable.not_not

/-! ## Draining -/

theorem failDrained_eq (link : Link M) (slots : List (String × Ticket)) :
    ∃ told remarks, Remarks remarks ∧ link.failDrained slots =
      { link with
        exchanges := link.exchanges.closeAll (slots.map Prod.snd)
        told
        history := remarks ++ link.history } := by
  induction slots generalizing link with
  | nil => exact ⟨link.told, [], .nil, rfl⟩
  | cons slot rest ih =>
    obtain ⟨key, ticket⟩ := slot
    unfold failDrained
    cases reached : link.isAbandoned ticket with
    | false =>
      obtain ⟨told, remarks, only, eq⟩ := ih (link.failTicket ticket .closed)
      exact ⟨told, remarks, only, eq⟩
    | true =>
      -- nobody is told, and the history says so
      obtain ⟨told, remarks, only, eq⟩ := ih ((link.failTicket ticket .closed).note (.orphaned key))
      refine ⟨told, remarks ++ [.orphaned key], only.append (.cons _ rfl .nil), ?_⟩
      refine Eq.trans eq ?_
      simp only [List.append_assoc, List.singleton_append]
      rfl

/-- A drain of an active link empties and seals the table, and fails every entry that was in it. -/
theorem drain_of_active {link : Link M} (active : link.phase = .active) (reason : DrainReason) :
    ∃ told remarks, Remarks remarks ∧ link.drain reason =
      { link with
        phase := .draining
        stopAsked := true
        table := ⟨[], true⟩
        exchanges := link.exchanges.closeAll (link.table.slots.map Prod.snd)
        told
        stats := { link.stats with drained := link.stats.drained + link.table.slots.length }
        history := remarks ++ .draining reason :: link.history } := by
  unfold drain
  rw [if_pos active]
  cases none : link.table.slots with
  | nil =>
    -- an empty table is drained without a remark
    refine ⟨link.told, [], .nil, ?_⟩
    simp only [Table.drain, none]
    rfl
  | cons slot rest =>
    obtain ⟨told, remarks, only, eq⟩ := failDrained_eq
      { link with
        phase := .draining
        stopAsked := true
        table := ⟨[], true⟩
        stats := { link.stats with drained := link.stats.drained + (slot :: rest).length }
        history := .failing (slot :: rest).length :: .draining reason :: link.history }
      (slot :: rest)
    refine ⟨told, remarks ++ [.failing (slot :: rest).length], only.append (.cons _ rfl .nil), ?_⟩
    simp only [Table.drain, none]
    refine Eq.trans eq ?_
    simp only [List.append_assoc, List.singleton_append]

theorem drain_of_not_active {link : Link M} (inactive : link.phase ≠ .active)
    (reason : DrainReason) : link.drain reason = link.note .drainRepeated :=
  if_neg inactive

theorem drain_phase_ne_active (link : Link M) (reason : DrainReason) :
    (link.drain reason).phase ≠ .active := by
  by_cases active : link.phase = .active
  · obtain ⟨told, remarks, -, eq⟩ := drain_of_active active reason
    simp [eq]
  · rw [drain_of_not_active active]
    exact active

theorem drain_phase_of_not_closed {link : Link M} (unclosed : link.phase ≠ .closed)
    (reason : DrainReason) : (link.drain reason).phase = .draining := by
  by_cases active : link.phase = .active
  · obtain ⟨told, remarks, -, eq⟩ := drain_of_active active reason
    rw [eq]
  · rw [drain_of_not_active active]
    show link.phase = .draining
    cases phase : link.phase with
    | active => exact absurd phase active
    | draining => rfl
    | closed => exact absurd phase unclosed

@[simp] theorem drain_reader (link : Link M) (reason : DrainReason) :
    (link.drain reason).reader = link.reader := by
  by_cases active : link.phase = .active
  · obtain ⟨told, remarks, -, eq⟩ := drain_of_active active reason
    simp [eq]
  · rw [drain_of_not_active active]
    rfl

@[simp] theorem drain_writer (link : Link M) (reason : DrainReason) :
    (link.drain reason).writer = link.writer := by
  by_cases active : link.phase = .active
  · obtain ⟨told, remarks, -, eq⟩ := drain_of_active active reason
    simp [eq]
  · rw [drain_of_not_active active]
    rfl

@[simp] theorem drain_transport (link : Link M) (reason : DrainReason) :
    (link.drain reason).transport = link.transport := by
  by_cases active : link.phase = .active
  · obtain ⟨told, remarks, -, eq⟩ := drain_of_active active reason
    simp [eq]
  · rw [drain_of_not_active active]
    rfl

/-! ## Failing and dropping entries -/

theorem failQueued_eq (link : Link M) (waiting : List Request) :
    ∃ told, link.failQueued waiting =
      { link with exchanges := link.exchanges.closeAll (waiting.map Request.ticket), told } := by
  induction waiting generalizing link with
  | nil => exact ⟨link.told, rfl⟩
  | cons request rest ih =>
    obtain ⟨told, eq⟩ := ih (link.failTicket request.ticket .closed)
    exact ⟨told, eq⟩

theorem dropQueued_eq (link : Link M) (waiting : List Request) :
    ∃ told, link.dropQueued waiting =
      { link with exchanges := link.exchanges.dropAll (waiting.map Request.ticket), told } := by
  induction waiting generalizing link with
  | nil => exact ⟨link.told, rfl⟩
  | cons request rest ih =>
    obtain ⟨told, eq⟩ := ih (link.dropTicket request.ticket)
    exact ⟨told, eq⟩

theorem stopWriting_eq (link : Link M) :
    ∃ told remarks, Remarks remarks ∧ link.stopWriting =
      { link with
        queue := []
        queueOpen := false
        exchanges := link.exchanges.closeAll (link.queue.map Request.ticket)
        told
        writer := .closing
        history := remarks ++ link.history } := by
  obtain ⟨told, eq⟩ := failQueued_eq { link with queue := [], queueOpen := false } link.queue
  unfold stopWriting
  simp only [eq]
  cases link.queue with
  | nil => exact ⟨told, [.writerExited], .cons _ rfl .nil, rfl⟩
  | cons request rest =>
    exact ⟨told, [.writerExited, .rejected (request :: rest).length],
      .cons _ rfl (.cons _ rfl .nil), rfl⟩

theorem crashWriting_eq (link : Link M) (text : String) :
    ∃ told, link.crashWriting text =
      { link with
        queue := []
        queueOpen := false
        exchanges := link.exchanges.dropAll (link.queue.map Request.ticket)
        told
        writer := .ended (.crashed text)
        transport := { link.transport with poisoned := true } } := by
  obtain ⟨told, eq⟩ := dropQueued_eq { link with queue := [], queueOpen := false } link.queue
  refine ⟨told, ?_⟩
  unfold crashWriting
  simp only [eq]

theorem crashWriting_phase (link : Link M) (text : String) :
    (link.crashWriting text).phase = link.phase := by
  obtain ⟨told, eq⟩ := crashWriting_eq link text
  rw [eq]

theorem failKey_eq (link : Link M) (key : String) (error : LinkError) :
    ∃ told, link.failKey key error =
      { link with
        table := link.table.erase key
        exchanges := link.exchanges.failAt link.table key error
        told } := by
  unfold failKey Exchanges.failAt
  cases found : link.table.find? key with
  | none =>
    -- nothing is under the key, so erasing it changes nothing
    simp only [Table.take, found]
    exact ⟨link.told, by rw [Table.erase_eq_self found]⟩
  | some ticket =>
    simp only [Table.take, found]
    exact ⟨_, rfl⟩

/-! ## Registering a request -/

/-- A request whose key a live entry holds is refused, and nothing else happens. -/
theorem register_of_live (link : Link M) {request : Request} {holder : Ticket}
    (unsealed : link.table.isSealed = false) (found : link.table.find? request.key = some holder)
    (live : link.isAbandoned holder = false) :
    ∃ told, link.register request =
      { link with
        exchanges := (link.exchanges.fail request.ticket (.duplicateKey request.key)).1
        told
        history := .unregistered request.ticket request.key (.duplicateKey request.key) ::
          link.history } := by
  unfold register
  simp only [Table.insert, unsealed, found, live]
  exact ⟨_, rfl⟩

/-- A request whose key no live entry holds is filed in the place of whatever is under its key. What
comes next depends on whether its own caller is still there. -/
theorem register_of_accepted (link : Link M) {request : Request}
    (unsealed : link.table.isSealed = false)
    (free : ∀ holder, link.table.find? request.key = some holder →
      link.isAbandoned holder = true) :
    ∃ (told : List Ticket) (filed : Link M), filed =
        { link with
          table := link.table.file request.key request.ticket
          exchanges := link.exchanges.vacate link.table request.key
          told
          history := .registered request.ticket request.key :: link.history } ∧
      (∀ ticket table,
        filed.table.takeAbandoned filed.isAbandoned request.key = (some ticket, table) →
          link.register request =
            ({ filed with table }.note (.skipped request.ticket request.key)).dropTicket ticket) ∧
      ∀ table, filed.table.takeAbandoned filed.isAbandoned request.key = (none, table) →
        link.register request = { filed with writer := .writing request request.frame } := by
  unfold register
  rw [Table.insert_of_free unsealed free]
  simp only [Exchanges.vacate]
  cases link.table.find? request.key with
  | none =>
    refine ⟨link.told, _, rfl, ?_, ?_⟩
    · intro ticket table taken
      simp only [note, taken]
    · intro table untaken
      simp only [note, untaken]
  | some holder =>
    refine ⟨(link.dropTicket holder).told, _, rfl, ?_, ?_⟩
    · intro ticket table taken
      split
      · next taken' => cases taken'.symm.trans taken; rfl
      · next untaken => cases untaken.symm.trans taken
    · intro table untaken
      split
      · next taken => cases taken.symm.trans untaken
      · next untaken' => cases untaken'.symm.trans untaken; rfl

/-- A request whose key no live entry holds takes the place of whatever is under its key. If its own
caller is gone it is taken out again at once, else the writer begins with it. -/
theorem register_of_free (link : Link M) {request : Request}
    (unsealed : link.table.isSealed = false)
    (free : ∀ holder, link.table.find? request.key = some holder →
      link.isAbandoned holder = true) :
    (link.isAbandoned request.ticket = true ∧ ∃ told, link.register request =
      { link with
        table := link.table.erase request.key
        exchanges := (link.exchanges.vacate link.table request.key).drop request.ticket
        told
        history := .skipped request.ticket request.key ::
          .registered request.ticket request.key :: link.history }) ∨
    (link.isAbandoned request.ticket = false ∧ ∃ told, link.register request =
      { link with
        table := link.table.file request.key request.ticket
        exchanges := link.exchanges.vacate link.table request.key
        told
        writer := .writing request request.frame
        history := .registered request.ticket request.key :: link.history }) := by
  obtain ⟨told, filed, rfl, skips, begins⟩ := register_of_accepted link unsealed free
  -- the caller was asked before the entry was filed, and the answer is still the same
  have asked : (link.exchanges.vacate link.table request.key).isAbandoned request.ticket =
      link.isAbandoned request.ticket := Exchanges.isAbandoned_vacate _ _ _ _
  cases gone : link.isAbandoned request.ticket with
  | true =>
    left
    rw [gone] at asked
    rw [skips request.ticket (link.table.erase request.key)
      ((Table.takeAbandoned_file _).trans (if_pos asked))]
    exact ⟨rfl, _, rfl⟩
  | false =>
    right
    rw [gone, ← Bool.not_eq_true] at asked
    rw [begins (link.table.file request.key request.ticket)
      ((Table.takeAbandoned_file _).trans (if_neg asked))]
    exact ⟨rfl, told, rfl⟩

/-- What comes of the request that the writer takes from its queue. -/
inductive Registers (link : Link M) (request : Request) : Link M → Prop
  /-- A live entry holds its key. -/
  | refused {holder : Ticket} {told : List Ticket}
      (found : link.table.find? request.key = some holder)
      (live : link.isAbandoned holder = false) :
      Registers link request
        { link with
          exchanges := (link.exchanges.fail request.ticket (.duplicateKey request.key)).1
          told
          history := .unregistered request.ticket request.key (.duplicateKey request.key) ::
            link.history }
  /-- Its own caller is gone. -/
  | skipped {told : List Ticket}
      (free : ∀ holder, link.table.find? request.key = some holder →
        link.isAbandoned holder = true)
      (gone : link.isAbandoned request.ticket = true) :
      Registers link request
        { link with
          table := link.table.erase request.key
          exchanges := (link.exchanges.vacate link.table request.key).drop request.ticket
          told
          history := .skipped request.ticket request.key ::
            .registered request.ticket request.key :: link.history }
  /-- The writer begins with it. -/
  | begun {told : List Ticket}
      (free : ∀ holder, link.table.find? request.key = some holder →
        link.isAbandoned holder = true)
      (live : link.isAbandoned request.ticket = false) :
      Registers link request
        { link with
          table := link.table.file request.key request.ticket
          exchanges := link.exchanges.vacate link.table request.key
          told
          writer := .writing request request.frame
          history := .registered request.ticket request.key :: link.history }

theorem registers (link : Link M) (request : Request) (unsealed : link.table.isSealed = false) :
    Registers link request (link.register request) := by
  by_cases free : ∀ holder, link.table.find? request.key = some holder →
      link.isAbandoned holder = true
  · rcases register_of_free link unsealed free with ⟨gone, told, eq⟩ | ⟨live, told, eq⟩
    · rw [eq]
      exact .skipped free gone
    · rw [eq]
      exact .begun free live
  · simp only [not_forall, Bool.not_eq_true] at free
    obtain ⟨holder, found, live⟩ := free
    obtain ⟨told, eq⟩ := register_of_live link unsealed found live
    rw [eq]
    exact .refused found live

/-! ## Delivering a message -/

/-- The link with one more message that reached no caller. -/
theorem addUnmatched_eq (wiring : Wiring M) (link : Link M) (item : UnmatchedMessage M) :
    ∃ kept remarks, Remarks remarks ∧ addUnmatched wiring link item =
      { link with
        stats := { link.stats with unmatched := link.stats.unmatched + 1 }
        unmatched := kept
        history := remarks ++ link.history } := by
  unfold addUnmatched keepUnmatched
  dsimp only [note]
  split
  · exact ⟨link.unmatched, [.unmatched item.key item.reason], .cons _ rfl .nil, rfl⟩
  · split
    · exact ⟨link.unmatched, [.unmatchedLost .receiverDropped, .unmatched item.key item.reason],
        .cons _ rfl (.cons _ rfl .nil), rfl⟩
    · split
      · exact ⟨link.unmatched, [.unmatchedLost .queueFull, .unmatched item.key item.reason],
          .cons _ rfl (.cons _ rfl .nil), rfl⟩
      · exact ⟨link.unmatched ++ [item], [.unmatched item.key item.reason], .cons _ rfl .nil, rfl⟩

/-- A message whose key no entry has, or that has no key, only counts as unmatched. -/
theorem deliver_of_unclaimed (wiring : Wiring M) (link : Link M) {message : M}
    (unclaimed : ∀ key, wiring.key message = .ok key → link.table.find? key = none) :
    ∃ kept remarks, Remarks remarks ∧ deliver wiring link message =
      { link with
        stats := { link.stats with unmatched := link.stats.unmatched + 1 }
        unmatched := kept
        history := remarks ++ link.history } := by
  unfold deliver
  cases derived : wiring.key message with
  | error error => exact addUnmatched_eq wiring link _
  | ok key =>
    simp only [Table.take, unclaimed key derived]
    exact addUnmatched_eq wiring link _

/-- A message whose key an entry has is for the caller of that entry, and for nobody else. -/
theorem deliver_of_claimed (wiring : Wiring M) (link : Link M) {message : M} {key : String}
    {ticket : Ticket} (derived : wiring.key message = .ok key)
    (found : link.table.find? key = some ticket) :
    (link.isAbandoned ticket = false ∧ ∃ told, deliver wiring link message =
      { link with
        table := link.table.erase key
        exchanges := (link.exchanges.resolve ticket message).1
        told
        stats := { link.stats with repliesMatched := link.stats.repliesMatched + 1 }
        history := .delivered ticket key :: link.history }) ∨
    (link.isAbandoned ticket = true ∧ ∃ kept remarks, Remarks remarks ∧
      deliver wiring link message =
        { link with
          table := link.table.erase key
          exchanges := (link.exchanges.resolve ticket message).1
          stats := { link.stats with unmatched := link.stats.unmatched + 1 }
          unmatched := kept
          history := remarks ++ link.history }) := by
  -- the message comes back from an exchange whose caller is gone, and from no other
  have back := link.exchanges.resolve_snd ticket message
  unfold deliver
  simp only [derived, Table.take, found]
  generalize link.exchanges.resolve ticket message = resolved at back ⊢
  obtain ⟨exchanges, returned⟩ := resolved
  cases gone : link.isAbandoned ticket with
  | false =>
    have here : link.exchanges.isAbandoned ticket = false := gone
    simp only [here, Bool.false_eq_true, if_false] at back
    subst back
    exact .inl ⟨rfl, _, rfl⟩
  | true =>
    have gone' : link.exchanges.isAbandoned ticket = true := gone
    simp only [gone', if_true] at back
    subst back
    exact .inr ⟨rfl, addUnmatched_eq wiring _ _⟩

/-- What comes of a message that has been read. -/
inductive Delivers (wiring : Wiring M) (link : Link M) (message : M) : Link M → Prop
  /-- No entry has its key, or it has none. -/
  | unclaimed {kept : List (UnmatchedMessage M)} {remarks : List (Event M)}
      (nobody : ∀ key, wiring.key message = .ok key → link.table.find? key = none)
      (only : Remarks remarks) :
      Delivers wiring link message
        { link with
          stats := { link.stats with unmatched := link.stats.unmatched + 1 }
          unmatched := kept
          history := remarks ++ link.history }
  /-- It is for the caller of the entry that has its key. -/
  | claimed {key : String} {ticket : Ticket} {told : List Ticket}
      (derived : wiring.key message = .ok key) (found : link.table.find? key = some ticket)
      (live : link.isAbandoned ticket = false) :
      Delivers wiring link message
        { link with
          table := link.table.erase key
          exchanges := (link.exchanges.resolve ticket message).1
          told
          stats := { link.stats with repliesMatched := link.stats.repliesMatched + 1 }
          history := .delivered ticket key :: link.history }
  /-- That caller is gone. -/
  | late {key : String} {ticket : Ticket} {kept : List (UnmatchedMessage M)}
      {remarks : List (Event M)} (derived : wiring.key message = .ok key)
      (found : link.table.find? key = some ticket) (gone : link.isAbandoned ticket = true)
      (only : Remarks remarks) :
      Delivers wiring link message
        { link with
          table := link.table.erase key
          exchanges := (link.exchanges.resolve ticket message).1
          stats := { link.stats with unmatched := link.stats.unmatched + 1 }
          unmatched := kept
          history := remarks ++ link.history }

theorem delivers (wiring : Wiring M) (link : Link M) (message : M) :
    Delivers wiring link message (deliver wiring link message) := by
  by_cases nobody : ∀ key, wiring.key message = .ok key → link.table.find? key = none
  · obtain ⟨kept, remarks, only, eq⟩ := deliver_of_unclaimed wiring link nobody
    rw [eq]
    exact .unclaimed nobody only
  · simp only [not_forall] at nobody
    obtain ⟨key, derived, claimed⟩ := nobody
    obtain ⟨ticket, found⟩ := Option.ne_none_iff_exists'.1 claimed
    rcases deliver_of_claimed wiring link derived found with
      ⟨live, told, eq⟩ | ⟨gone, kept, remarks, only, eq⟩
    · rw [eq]
      exact .claimed derived found live
    · rw [eq]
      exact .late derived found gone only

/-! ## Reading -/

/-- What a step of the reader is. -/
inductive ReadsOn (wiring : Wiring M) (link : Link M) : Link M → Prop
  | stops {buffer : Bytes} {part : Part} (running : link.reader = .running buffer part)
      (inactive : link.phase ≠ .active) : ReadsOn wiring link (link.stopReading none)
  | crashes {part : Part} (running : link.reader = .running [] part)
      (active : link.phase = .active) (poisoned : link.transport.poisoned = true) :
      ReadsOn wiring link { link with reader := .ended (some poisonText) }
  | receives {part : Part} {item : Inbound} {rest : List Inbound}
      (running : link.reader = .running [] part) (active : link.phase = .active)
      (inbound : link.transport.inbound = item :: rest) :
      ReadsOn wiring link (receive wiring link part rest item)
  | consumes {buffer : Bytes} {part : Part} (running : link.reader = .running buffer part)
      (active : link.phase = .active) (filled : buffer ≠ []) :
      ReadsOn wiring link (consume wiring link buffer part)

theorem readsOn_of_readStep? {wiring : Wiring M} {link next : Link M} (synced : link.Synced)
    (moved : readStep? wiring link = some next) : ReadsOn wiring link next := by
  unfold readStep? at moved
  split at moved
  · cases moved
  · next buffer part running =>
    simp only [synced.stopAsked_iff] at moved
    split at moved
    · next inactive =>
      cases moved
      exact .stops running inactive
    · next active =>
      have active := Decidable.not_not.1 active
      split at moved
      · next empty =>
        rw [List.isEmpty_iff] at empty
        subst empty
        split at moved
        · cases moved
        · next item rest inbound =>
          split at moved
          · next poisoned =>
            cases moved
            exact .crashes running active poisoned
          · cases moved
            exact .receives running active inbound
      · next filled =>
        cases moved
        exact .consumes running active (by simpa using filled)

/-! ## Callers who leave -/

theorem leave_eq (link : Link M) (request : Request) (handed : Bool) :
    ∃ told, link.leave request handed =
      { link with exchanges := link.exchanges.quit request.ticket handed, told } := by
  unfold leave Exchanges.quit
  cases handed with
  | true => exact ⟨link.told, rfl⟩
  | false => exact ⟨_, rfl⟩

/-- A caller whose deadline passes takes along an abandoned entry under its key, which may be its
own, and no other. -/
theorem expire_eq (link : Link M) (request : Request) (handed : Bool) (timer : Timer) :
    ∃ told remarks, Remarks remarks ∧
      ((∃ holder, link.table.find? request.key = some holder ∧
          (link.exchanges.quit request.ticket handed).isAbandoned holder = true ∧
          (link.expire request handed timer).1 =
            { link with
              table := link.table.erase request.key
              exchanges := (link.exchanges.quit request.ticket handed).drop holder
              told
              history := remarks ++ link.history }) ∨
        ((∀ holder, link.table.find? request.key = some holder →
            (link.exchanges.quit request.ticket handed).isAbandoned holder = false) ∧
          (link.expire request handed timer).1 =
            { link with
              exchanges := link.exchanges.quit request.ticket handed
              told
              history := remarks ++ link.history })) := by
  obtain ⟨told, left⟩ := leave_eq link request handed
  have asked : (link.leave request handed).isAbandoned =
      (link.exchanges.quit request.ticket handed).isAbandoned := by
    rw [left]
    rfl
  have table : (link.leave request handed).table = link.table := by rw [left]
  -- the caller has left before the table is asked, so its own entry counts as abandoned
  rcases Table.takeAbandoned_cases link.table
    (link.exchanges.quit request.ticket handed).isAbandoned request.key with
    ⟨holder, found, gone, taken⟩ | ⟨untaken, live⟩
  · have eq : ∃ told, (link.expire request handed timer).1 =
        { link with
          table := link.table.erase request.key
          exchanges := (link.exchanges.quit request.ticket handed).drop holder
          told
          history := .timedOut request.ticket request.key timer.millis ::
            .withdrawn request.key :: link.history } := by
      unfold expire
      simp only [asked, table, taken]
      rw [left]
      exact ⟨_, rfl⟩
    obtain ⟨told', eq⟩ := eq
    exact ⟨told', [.timedOut request.ticket request.key timer.millis, .withdrawn request.key],
      .cons _ rfl (.cons _ rfl .nil), .inl ⟨holder, found, gone, eq⟩⟩
  · refine ⟨told, [.timedOut request.ticket request.key timer.millis], .cons _ rfl .nil,
      .inr ⟨live, ?_⟩⟩
    unfold expire
    simp only [asked, table, untaken]
    rw [left]
    rfl

end Link

end Multiplex
