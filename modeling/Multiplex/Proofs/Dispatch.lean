import Multiplex.Proofs.Consistent

/-!
# One frame at a time

Only the reader reads frames, one with each step at most, and a frame whose message has the key of a
live entry is handed over to that entry's caller (`handover_of_heard`).
-/

namespace Multiplex

variable {M : Type}

/-- Among the events a frame was read whose message has the key. -/
def Heard (wiring : Wiring M) (events : List (Event M)) (key : String) (message : M) : Prop :=
  ∃ payload, .received payload ∈ events ∧ wiring.codec.unpack payload = .message message ∧
    wiring.key message = .ok key

variable {wiring : Wiring M} {new later : List (Event M)} {key : String} {message : M}

theorem Heard.append (heard : Heard wiring new key message) :
    Heard wiring (later ++ new) key message := by
  obtain ⟨payload, member, read, derived⟩ := heard
  exact ⟨payload, List.mem_append_right _ member, read, derived⟩

theorem Heard.of_append (heard : Heard wiring (later ++ new) key message) :
    Heard wiring later key message ∨ Heard wiring new key message := by
  obtain ⟨payload, member, read, derived⟩ := heard
  rcases List.mem_append.1 member with last | first
  · exact .inl ⟨payload, last, read, derived⟩
  · exact .inr ⟨payload, first, read, derived⟩

theorem Remarks.silent {remarks : List (Event M)} (only : Remarks remarks) (payload : Bytes) :
    .received payload ∉ remarks := fun member => nomatch only _ member

namespace Link

/-- No frame has been read on the way from one link to another. -/
def ReadNothing (link next : Link M) : Prop :=
  ∃ new, next.history = new ++ link.history ∧ ∀ payload, .received payload ∉ new

variable {wiring : Wiring M} {act : Act M} {link next : Link M} {key : String}
  {ticket : Ticket} {message : M}

theorem ReadNothing.refl (link : Link M) : link.ReadNothing link :=
  ⟨[], rfl, fun _ member => nomatch member⟩

theorem ReadNothing.trans {final : Link M} (first : link.ReadNothing next)
    (second : next.ReadNothing final) : link.ReadNothing final := by
  obtain ⟨new, history, silent⟩ := first
  obtain ⟨newer, history', silent'⟩ := second
  refine ⟨newer ++ new, by rw [history', history, List.append_assoc], ?_⟩
  intro payload member
  rcases List.mem_append.1 member with last | first
  · exact silent' payload last
  · exact silent payload first

/-- Frames are read by the reader, on an active link. -/
theorem readNothing_of_change (change : Change wiring act link next)
    (elsewhere : act ≠ .read ∨ link.phase ≠ .active) : link.ReadNothing next := by
  cases change with
  | aside only wire poisoned sink =>
    exact ⟨_, rfl, only.silent⟩
  | undecoded active | unclaimed active | claimed active | late active =>
    rcases elsewhere with other | inactive
    · exact absurd (by assumption) other
    · exact absurd active inactive
  | skip => exact ⟨[_, _], rfl, by simp⟩
  | drain | issue | send | reject | enqueue | finish | conclude | refuse | register | sent | fail =>
    exact ⟨[_], rfl, by simp⟩
  | _ => exact ⟨[], rfl, by simp⟩

theorem readNothing_of_changes (chain : Changes wiring act link next) (other : act ≠ .read) :
    link.ReadNothing next := by
  refine chain.keeps (motive := link.ReadNothing) ?_ (.refl link)
  intro before after change so_far
  exact so_far.trans (readNothing_of_change change (.inl other))

/-! ## Steps of the reader -/

theorem drain_readNothing (link : Link M) (reason : DrainReason) :
    link.ReadNothing (link.drain reason) := by
  by_cases active : link.phase = .active
  · obtain ⟨told, remarks, only, eq⟩ := drain_of_active active reason
    rw [eq]
    refine ⟨remarks ++ [.draining reason], by simp, ?_⟩
    intro payload member
    rcases List.mem_append.1 member with remark | other
    · exact only.silent payload remark
    · simp at other
  · rw [drain_of_not_active active]
    exact ⟨[.drainRepeated], rfl, by simp⟩

theorem stopReading_readNothing (link : Link M) (reason : Option DrainReason) :
    link.ReadNothing (link.stopReading reason) := by
  have exits (link : Link M) :
      link.ReadNothing ({ link with reader := .ended none }.note .readerExited) :=
    ⟨[.readerExited], rfl, by simp⟩
  cases reason with
  | none => exact exits link
  | some reason => exact (drain_readNothing link reason).trans (exits _)

theorem failReading_readNothing (link : Link M) (error : LinkError) :
    link.ReadNothing (link.failReading error) := by
  have noted : link.ReadNothing (link.note (.readerFailed error)) :=
    ⟨[.readerFailed error], rfl, by simp⟩
  exact noted.trans (stopReading_readNothing _ _)

/-- What arrives next is not interpreted when it is taken. -/
theorem receive_readNothing (wiring : Wiring M) (link : Link M) (part : Part)
    (rest : List Inbound) (item : Inbound) :
    link.ReadNothing (receive wiring link part rest item) := by
  have taken : link.ReadNothing
      { link with transport := { link.transport with inbound := rest } } :=
    ⟨[], rfl, by simp⟩
  cases item with
  | chunk bytes => exact ⟨[], rfl, by simp⟩
  | finish =>
    cases part with
    | boundary =>
      have noted (link : Link M) : link.ReadNothing (link.note .peerFinished) :=
        ⟨[.peerFinished], rfl, by simp⟩
      exact (taken.trans (noted _)).trans (stopReading_readNothing _ _)
    | header got => exact taken.trans (failReading_readNothing _ _)
    | payload length missing got => exact taken.trans (failReading_readNothing _ _)
  | fault error =>
    unfold receive
    dsimp only
    split
    · exact taken
    · exact taken.trans (failReading_readNothing _ _)

theorem consume_cases (wiring : Wiring M) (link : Link M) (buffer : Bytes) (part : Part) :
    link.ReadNothing (consume wiring link buffer part) ∨
      ∃ rest payload, consume wiring link buffer part = dispatch wiring link rest payload := by
  have moved (reader : Reader) : link.ReadNothing { link with reader } :=
    ⟨[], rfl, fun payload member => nomatch member⟩
  have failed (error : LinkError) : link.ReadNothing (link.failReading error) :=
    failReading_readNothing link error
  have announced (rest header : Bytes) : link.ReadNothing (announce wiring link rest header) ∨
      ∃ payload, announce wiring link rest header = dispatch wiring link rest payload := by
    unfold announce
    split
    · exact .inl (failed _)
    · split
      · exact .inl (failed _)
      · split
        · exact .inr ⟨[], rfl⟩
        · exact .inl (moved _)
  have header (got : Bytes) : link.ReadNothing (readHeader wiring link buffer got) ∨
      ∃ rest payload, readHeader wiring link buffer got = dispatch wiring link rest payload := by
    unfold readHeader
    dsimp only
    split
    · exact .inl (moved _)
    · exact (announced _ _).imp_right fun dispatched => ⟨_, dispatched⟩
  cases part with
  | boundary => exact header []
  | header got => exact header got
  | payload length missing got =>
    unfold consume readPayload
    dsimp only
    split
    · exact .inr ⟨_, _, rfl⟩
    · exact .inl (moved _)

/-- A step of the reader reads no frame, or it reads one whole frame. -/
theorem readStep?_cases (synced : link.Synced) (h : readStep? wiring link = some next) :
    link.ReadNothing next ∨ ∃ rest payload, next = dispatch wiring link rest payload := by
  cases readsOn_of_readStep? synced h with
  | stops => exact .inl (stopReading_readNothing link none)
  | crashes => exact .inl ⟨[], rfl, fun payload member => nomatch member⟩
  | receives => exact .inl (receive_readNothing wiring link _ _ _)
  | consumes => exact consume_cases wiring link _ _

/-! ## Frames -/

theorem deliver_readNothing (wiring : Wiring M) (link : Link M) (message : M) :
    link.ReadNothing (deliver wiring link message) := by
  have step := delivers wiring link message
  generalize deliver wiring link message = next at step ⊢
  cases step with
  | unclaimed _ only | late _ _ _ only => exact ⟨_, rfl, only.silent⟩
  | claimed => exact ⟨[_], rfl, by simp⟩

/-- After a frame has been read no other is read in the same step. -/
theorem dispatch_history (wiring : Wiring M) (link : Link M) (rest payload : Bytes) :
    ∃ new, (dispatch wiring link rest payload).history = new ++ .received payload :: link.history ∧
      ∀ other, .received other ∉ new := by
  unfold dispatch
  dsimp only
  split
  · exact deliver_readNothing wiring _ _
  · exact failReading_readNothing _ _
  · exact ⟨[], rfl, by simp⟩

/-- A frame whose message has the key of a live entry is for that entry's caller. -/
theorem dispatch_of_claimed (rest : Bytes) {payload : Bytes}
    (read : wiring.codec.unpack payload = .message message) (derived : wiring.key message = .ok key)
    (found : link.table.find? key = some ticket)
    (live : link.exchanges.isAbandoned ticket = false) :
    (dispatch wiring link rest payload).exchanges.poll ticket = some (.ok message) ∧
      (dispatch wiring link rest payload).history =
        .delivered ticket key :: .received payload :: link.history := by
  unfold dispatch
  simp only [read]
  rcases deliver_of_claimed wiring
      { link with
        stats := link.stats.readFrame wiring.framing payload.length
        reader := .running rest .boundary
        history := .received payload :: link.history } derived found with
    ⟨-, told, eq⟩ | ⟨gone, -⟩
  · refine ⟨(congrArg (fun link => link.exchanges.poll ticket) eq).trans ?_,
      congrArg (fun link => link.history) eq⟩
    rw [Exchanges.poll_resolve, if_pos rfl, live]
    rfl
  · rw [isAbandoned, live] at gone
    cases gone

/-- Frames are read by steps of the reader, and each such step reads one. -/
theorem received_of_act (consistent : link.Consistent wiring)
    (moved : act? wiring link act = some next) {new : List (Event M)}
    (history : next.history = new ++ link.history) {payload : Bytes}
    (member : .received payload ∈ new) :
    act = .read ∧ ∃ rest, next = dispatch wiring link rest payload := by
  have silent : ¬link.ReadNothing next := by
    rintro ⟨new', history', silent⟩
    rw [history, List.append_cancel_right_eq] at history'
    exact silent payload (history' ▸ member)
  by_cases asked : act = .read
  · subst asked
    rcases readStep?_cases consistent.sound.phased.synced moved with quiet | ⟨rest, other, rfl⟩
    · exact absurd quiet silent
    -- a frame was dispatched, and the one that was read can only be that one
    · refine ⟨rfl, rest, ?_⟩
      obtain ⟨later, history', silent'⟩ := dispatch_history wiring link rest other
      rw [history, List.append_cons, List.append_cancel_right_eq] at history'
      rw [history', List.mem_append, List.mem_singleton] at member
      rcases member with again | same
      · exact absurd again (silent' payload)
      · cases same
        rfl
  · have chain := act?_changes consistent.sound.phased.synced moved
    exact absurd (readNothing_of_changes chain asked) silent

/-- If a frame is read whose message has the key of a live entry, it is handed over to that entry's
caller. -/
theorem handover_of_heard (consistent : link.Consistent wiring)
    (moved : act? wiring link act = some next) {new : List (Event M)}
    (history : next.history = new ++ link.history) (heard : Heard wiring new key message)
    (found : link.table.find? key = some ticket)
    (live : link.exchanges.isAbandoned ticket = false) :
    act = .read ∧ next.exchanges.poll ticket = some (.ok message) ∧
      Handover wiring next.history link.history ticket message := by
  obtain ⟨payload, member, read, derived⟩ := heard
  obtain ⟨rfl, rest, rfl⟩ := received_of_act consistent moved history member
  obtain ⟨seen, history'⟩ := dispatch_of_claimed rest read derived found live
  have split : (dispatch wiring link rest payload).history =
      [] ++ .delivered ticket key :: .received payload :: link.history := history'
  exact ⟨rfl, seen, .intro split read derived
    (consistent.answered.filed (Table.mem_of_find? found))⟩

end Link

end Multiplex
