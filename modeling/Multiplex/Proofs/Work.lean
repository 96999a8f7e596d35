import Multiplex.Proofs.Stream
import Multiplex.Proofs.Turns

/-!
# Every step uses up work

`Link.work` counts what is left to do: the bytes that have arrived, the requests on their way, the
calls and the phases still ahead. Each step of a task lowers it (`work_lt_of_act`): a step of the
reader what has arrived, a step of the writer what is on its way, a turn what its call has to do,
and a step of the supervisor the phases. What else such a step does, such as failing callers or
draining the link, does not add to it (`Link.Eases`).
-/

namespace Multiplex.Link

variable {M : Type}

/-! ## Sums over lists -/

theorem total_nil {α : Type} (weight : α → Nat) : total weight [] = 0 := rfl

theorem total_cons {α : Type} (weight : α → Nat) (item : α) (rest : List α) :
    total weight (item :: rest) = weight item + total weight rest := rfl

theorem total_perm {α : Type} (weight : α → Nat) {items others : List α}
    (same : items.Perm others) : total weight items = total weight others := by
  induction same with
  | nil => rfl
  | cons item _ ih => rw [total_cons, total_cons, ih]
  | swap first second rest =>
    simp only [total_cons]
    omega
  | trans _ _ ih ih' => rw [ih, ih']

theorem total_append {α : Type} (weight : α → Nat) (items others : List α) :
    total weight (items ++ others) = total weight items + total weight others := by
  induction items with
  | nil => exact (Nat.zero_add _).symm
  | cons item rest ih =>
    rw [List.cons_append, total_cons, total_cons, ih]
    omega

/-! ## What adds no work -/

/-- Of all that work depends on only the phase may have changed, and it has not gone back. -/
structure Eases (link next : Link M) : Prop where
  transport : next.transport = link.transport
  reader : next.reader = link.reader
  writer : next.writer = link.writer
  queue : next.queue = link.queue
  calls : next.calls = link.calls
  phase : Phase.work next.phase ≤ Phase.work link.phase

variable {wiring : Wiring M} {link next final : Link M}

theorem Eases.refl (link : Link M) : link.Eases link :=
  ⟨rfl, rfl, rfl, rfl, rfl, Nat.le_refl _⟩

theorem Eases.trans (first : link.Eases next) (second : next.Eases final) : link.Eases final where
  transport := second.transport.trans first.transport
  reader := second.reader.trans first.reader
  writer := second.writer.trans first.writer
  queue := second.queue.trans first.queue
  calls := second.calls.trans first.calls
  phase := Nat.le_trans second.phase first.phase

theorem Eases.work_le (eases : link.Eases next) : next.work ≤ link.work := by
  have later := eases.phase
  unfold work
  rw [eases.transport, eases.reader, eases.writer, eases.queue, eases.calls]
  omega

/-- A link that has eased from one with less work has less work. -/
theorem Eases.work_lt {base : Link M} (eases : base.Eases next) (less : base.work < link.work) :
    next.work < link.work :=
  Nat.lt_of_le_of_lt eases.work_le less

theorem note_eases (link : Link M) (event : Event M) : link.Eases (link.note event) :=
  ⟨rfl, rfl, rfl, rfl, rfl, Nat.le_refl _⟩

theorem drain_eases (link : Link M) (reason : DrainReason) : link.Eases (link.drain reason) := by
  by_cases active : link.phase = .active
  · obtain ⟨told, remarks, -, eq⟩ := drain_of_active active reason
    rw [eq]
    refine ⟨rfl, rfl, rfl, rfl, rfl, ?_⟩
    rw [active]
    exact Nat.le_succ 1
  · rw [drain_of_not_active active]
    exact note_eases link _

theorem release_eases (link : Link M) : link.Eases link.release := by
  have lost (link : Link M) :
      link.Eases { link with receiver := .gone, unmatched := [] } :=
    ⟨rfl, rfl, rfl, rfl, rfl, Nat.le_refl _⟩
  unfold release
  split
  · dsimp only
    split
    · exact (drain_eases link _).trans (lost _)
    · exact drain_eases link _
  · exact .refl link

theorem failKey_eases (link : Link M) (key : String) (error : LinkError) :
    link.Eases (link.failKey key error) := by
  obtain ⟨told, eq⟩ := failKey_eq link key error
  rw [eq]
  exact ⟨rfl, rfl, rfl, rfl, rfl, Nat.le_refl _⟩

theorem deliver_eases (wiring : Wiring M) (link : Link M) (message : M) :
    link.Eases (deliver wiring link message) := by
  have step := delivers wiring link message
  generalize deliver wiring link message = next at step ⊢
  cases step with
  | unclaimed | claimed | late => exact ⟨rfl, rfl, rfl, rfl, rfl, Nat.le_refl _⟩

/-! ## Steps of the reader -/

@[simp] theorem Reader.work_running (buffer : Bytes) (part : Part) :
    Reader.work (.running buffer part) = buffer.length + 1 := rfl

@[simp] theorem Reader.work_ended (crash : Option String) : Reader.work (.ended crash) = 0 := rfl

/-- The reader has come to a state with at most so much work, and nothing else adds any. -/
def ReadsDown (link next : Link M) (most : Nat) : Prop :=
  ∃ reader : Reader, Reader.work reader ≤ most ∧ { link with reader }.Eases next

theorem ReadsDown.mono {most most' : Nat} (reads : link.ReadsDown next most) (le : most ≤ most') :
    link.ReadsDown next most' := by
  obtain ⟨reader, bound, eases⟩ := reads
  exact ⟨reader, Nat.le_trans bound le, eases⟩

theorem stopReading_eases (link : Link M) (reason : Option DrainReason) :
    { link with reader := .ended none }.Eases (link.stopReading reason) := by
  have exits {link drained : Link M} (eases : link.Eases drained) :
      { link with reader := .ended none }.Eases
        ({ drained with reader := .ended none }.note .readerExited) :=
    ⟨eases.transport, rfl, eases.writer, eases.queue, eases.calls, eases.phase⟩
  cases reason with
  | none => exact exits (.refl link)
  | some reason => exact exits (drain_eases link reason)

theorem failReading_eases (link : Link M) (error : LinkError) :
    { link with reader := .ended none }.Eases (link.failReading error) := by
  have stops := stopReading_eases (link.note (.readerFailed error)) (some (.readFailure error))
  exact ⟨stops.transport, stops.reader, stops.writer, stops.queue, stops.calls, stops.phase⟩

theorem failReading_readsDown (link : Link M) (error : LinkError) (most : Nat) :
    link.ReadsDown (link.failReading error) most :=
  ⟨.ended none, Nat.zero_le most, failReading_eases link error⟩

theorem dispatch_readsDown (wiring : Wiring M) (link : Link M) (rest payload : Bytes) :
    link.ReadsDown (dispatch wiring link rest payload) (rest.length + 1) := by
  unfold dispatch
  dsimp only
  split
  · next message read =>
    have eases := deliver_eases wiring
      ({ link with
        stats := { link.stats with
          bytesReceived := link.stats.bytesReceived + wiring.framing.size + payload.length }
        reader := .running rest .boundary }.note (.received payload)) message
    exact ⟨.running rest .boundary, Nat.le_refl _, eases.transport, eases.reader, eases.writer,
      eases.queue, eases.calls, eases.phase⟩
  · next fault refused =>
    obtain ⟨reader, bound, eases⟩ := failReading_readsDown
      ({ link with
        stats := { link.stats with
          bytesReceived := link.stats.bytesReceived + wiring.framing.size + payload.length }
        reader := .running rest .boundary }.note (.received payload)) (.undecodable fault)
      (rest.length + 1)
    exact ⟨reader, bound, eases.transport, eases.reader, eases.writer, eases.queue, eases.calls,
      eases.phase⟩
  · next text crashed =>
    exact ⟨.ended (some text), Nat.zero_le _, rfl, rfl, rfl, rfl, rfl, Nat.le_refl _⟩

theorem announce_readsDown (wiring : Wiring M) (link : Link M) (rest header : Bytes) :
    link.ReadsDown (announce wiring link rest header) (rest.length + 1) := by
  unfold announce
  split
  · exact failReading_readsDown link _ _
  · split
    · exact failReading_readsDown link _ _
    · split
      · exact dispatch_readsDown wiring link rest []
      · exact ⟨.running rest _, Nat.le_refl _, .refl _⟩

variable {buffer raw : Bytes} {part : Part}

theorem readHeader_readsDown (link : Link M) {got : Bytes} (filled : buffer ≠ [])
    (short : got.length < wiring.framing.size) :
    link.ReadsDown (readHeader wiring link buffer got) buffer.length := by
  have positive : 0 < buffer.length := List.length_pos_of_ne_nil filled
  unfold readHeader
  dsimp only
  split
  · exact ⟨.running [] _, positive, .refl _⟩
  -- the header is complete, and at least one byte of it came out of the buffer
  · refine (announce_readsDown wiring link _ _).mono ?_
    rw [List.length_drop]
    omega

theorem readPayload_readsDown (link : Link M) {got : Bytes} {length missing : Nat}
    (filled : buffer ≠ []) (some : 0 < missing) :
    link.ReadsDown (readPayload wiring link buffer length missing got) buffer.length := by
  have positive : 0 < buffer.length := List.length_pos_of_ne_nil filled
  unfold readPayload
  dsimp only
  split
  · refine (dispatch_readsDown wiring link _ _).mono ?_
    rw [List.length_drop]
    omega
  · exact ⟨.running [] _, positive, .refl _⟩

/-- A reader that is inside a frame, as it says, uses up bytes of its buffer. -/
theorem consume_readsDown (link : Link M) (sized : 0 < wiring.framing.size) (filled : buffer ≠ [])
    (holds : Holds wiring part raw) :
    link.ReadsDown (consume wiring link buffer part) buffer.length := by
  cases holds with
  | boundary => exact readHeader_readsDown link filled sized
  | header _ short => exact readHeader_readsDown link filled short
  | payload _ _ some => exact readPayload_readsDown link filled some

/-- Taking what arrives next leaves less to take, and no more to read than was taken. -/
theorem receive_eases (wiring : Wiring M) (link : Link M) {item : Inbound} (rest : List Inbound)
    (running : link.reader = .running [] part) :
    ∃ inbound reader, total Inbound.weight inbound + Reader.work reader ≤
        item.weight + total Inbound.weight rest ∧
      { link with transport := { link.transport with inbound }, reader }.Eases
        (receive wiring link part rest item) := by
  have failed (error : LinkError) : ∃ inbound reader,
      total Inbound.weight inbound + Reader.work reader ≤ 1 + total Inbound.weight rest ∧
        { link with transport := { link.transport with inbound }, reader }.Eases (failReading
          { link with transport := { link.transport with inbound := rest } } error) :=
    ⟨rest, .ended none, Nat.le_add_left _ _,
      failReading_eases { link with transport := { link.transport with inbound := rest } } error⟩
  cases item with
  | chunk bytes =>
    have taken : (bytes.take (max wiring.config.readBufferSize 1)).length =
        min (max wiring.config.readBufferSize 1) bytes.length := List.length_take
    unfold receive
    dsimp only
    split
    · refine ⟨rest, .running (bytes.take (max wiring.config.readBufferSize 1)) part, ?_, .refl _⟩
      simp only [Reader.work_running, Inbound.weight]
      omega
    -- the buffer is smaller than the chunk, and holds one byte at least
    · refine ⟨.chunk (bytes.drop (max wiring.config.readBufferSize 1)) :: rest,
        .running (bytes.take (max wiring.config.readBufferSize 1)) part, ?_, .refl _⟩
      simp only [Reader.work_running, Inbound.weight, total_cons, List.length_drop]
      omega
  | finish =>
    cases part with
    | boundary =>
      have stops := stopReading_eases
        ({ link with transport := { link.transport with inbound := rest } }.note .peerFinished)
        (some .peerClosed)
      exact ⟨rest, .ended none, Nat.le_add_left _ _, stops.transport, stops.reader, stops.writer,
        stops.queue, stops.calls, stops.phase⟩
    | header got => exact failed _
    | payload length missing got => exact failed _
  | fault error =>
    unfold receive
    dsimp only
    split
    · refine ⟨rest, link.reader, ?_, .refl _⟩
      rw [running]
      exact Nat.le_of_eq (Nat.add_comm _ _)
    · exact failed _

/-- The reader is inside a frame as it says: it has read a beginning of one and no more. -/
def InFrame (wiring : Wiring M) (link : Link M) : Prop :=
  ∀ buffer part, link.reader = .running buffer part → ∃ raw, Holds wiring part raw

theorem work_lt_of_read (sized : 0 < wiring.framing.size) (synced : link.Synced)
    (inFrame : link.InFrame wiring) (moved : readStep? wiring link = some next) :
    next.work < link.work := by
  have ends {buffer : Bytes} {part : Part} (running : link.reader = .running buffer part)
      (crash : Option String) : { link with reader := .ended crash }.work < link.work := by
    simp only [work, running, Reader.work_running, Reader.work_ended]
    omega
  cases readsOn_of_readStep? synced moved with
  | stops running => exact (stopReading_eases link none).work_lt (ends running none)
  | crashes running => exact ends running (some poisonText)
  | @receives part item rest running active inbound =>
    obtain ⟨inbound', reader, less, eases⟩ := receive_eases wiring link rest running
    apply eases.work_lt
    simp only [work, running, inbound, total_cons, Reader.work_running, List.length_nil]
    omega
  | @consumes buffer part running active filled =>
    obtain ⟨raw, holds⟩ := inFrame buffer part running
    obtain ⟨reader, most, eases⟩ := consume_readsDown link sized filled holds
    apply eases.work_lt
    simp only [work, running, Reader.work_running]
    omega

/-! ## Steps of the writer -/

@[simp] theorem Writer.work_idle (asked : Bool) : Writer.work asked .idle = 3 := rfl

@[simp] theorem Writer.work_ended (asked : Bool) (how : WriterEnd) :
    Writer.work asked (.ended how) = 0 := rfl

/-- What a step of the writer is. -/
inductive WritesOn (wiring : Wiring M) (link : Link M) : Link M → Prop
  /-- It takes no more requests and begins to shut down. -/
  | stops (idle : link.writer = .idle) (inactive : link.phase ≠ .active) :
      WritesOn wiring link link.stopWriting
  /-- It takes the first request of the queue. -/
  | takes {request : Request} {rest : List Request} (idle : link.writer = .idle)
      (active : link.phase = .active) (first : link.queue = request :: rest) :
      WritesOn wiring link ({ link with queue := rest }.register request)
  | interrupted {request : Request} (working : link.writer.request? = some request)
      (inactive : link.phase ≠ .active) : WritesOn wiring link (link.interrupt request)
  | written {request : Request} (writing : link.writer = .writing request [])
      (active : link.phase = .active) :
      WritesOn wiring link { link with writer := .flushing request }
  | accepted {request : Request} {rest : Bytes} {count : Nat}
      (writing : link.writer = .writing request rest) (active : link.phase = .active)
      (positive : 0 < count) (most : count ≤ rest.length) :
      WritesOn wiring link
        { link with
          transport := link.transport.accept (rest.take count)
          writer := .writing request (rest.drop count) }
  | failed {request : Request} {error : IoError} (working : link.writer.request? = some request)
      (active : link.phase = .active) :
      WritesOn wiring link (failWriting wiring link request error)
  | crashed {request : Request} {text : String} (working : link.writer.request? = some request)
      (active : link.phase = .active) : WritesOn wiring link (link.crashWriting text)
  | sent {request : Request} {stats : Stats} (flushing : link.writer = .flushing request)
      (active : link.phase = .active) :
      WritesOn wiring link
        ({ link with stats, writer := .idle }.note
          (.sent request.ticket request.key request.frame.length))
  /-- It asks the transport to shut down, which goes on. -/
  | asks (closing : link.writer = .closing) (first : link.transport.shutdownAsked = false) :
      WritesOn wiring link
        { link with transport := { link.transport with shutdownAsked := true } }
  | ends {how : WriterEnd} {poisoned : Bool} (closing : link.writer = .closing) :
      WritesOn wiring link
        { link with
          transport := { link.transport with shutdownAsked := true, poisoned }
          writer := .ended how }

theorem writesOn_of_writeStep? {request : Request} {rest : Bytes} (active : link.phase = .active)
    (writing : link.writer = .writing request rest)
    (moved : writeStep? wiring link request rest = some next) : WritesOn wiring link next := by
  have working : link.writer.request? = some request := by rw [writing, Writer.request?]
  unfold writeStep? at moved
  split at moved
  · next done =>
    rw [List.isEmpty_iff.1 done] at writing
    cases moved
    exact .written writing active
  · dsimp only at moved
    split at moved
    · next positive =>
      cases moved
      exact .accepted writing active positive (link.transport.accepts_le rest.length)
    · split at moved
      · cases moved
      · cases moved
        exact .failed working active
      · cases moved
        exact .failed working active
      · cases moved
        exact .crashed working active

theorem writesOn_of_shutdownStep? (closing : link.writer = .closing)
    (moved : link.shutdownStep? = some next) : WritesOn wiring link next := by
  unfold shutdownStep? at moved
  split at moved
  · cases moved
    exact .ends closing
  · cases moved
    exact .ends closing
  · cases moved
    exact .ends closing
  · split at moved
    · cases moved
    · next first =>
      cases moved
      exact .asks closing (by simpa using first)

theorem writesOn_of_writerStep? (synced : link.Synced)
    (moved : writerStep? wiring link = some next) : WritesOn wiring link next := by
  unfold writerStep? at moved
  simp only [synced.stopAsked_iff] at moved
  split at moved
  · next idle =>
    split at moved
    · next inactive =>
      cases moved
      exact .stops idle inactive
    · next active =>
      split at moved
      · cases moved
      · next request rest first =>
        cases moved
        exact .takes idle (Decidable.not_not.1 active) first
  · next request rest writing =>
    split at moved
    · next inactive =>
      cases moved
      exact .interrupted (by rw [writing, Writer.request?]) inactive
    · next active => exact writesOn_of_writeStep? (Decidable.not_not.1 active) writing moved
  · next request flushing =>
    have working : link.writer.request? = some request := by rw [flushing, Writer.request?]
    split at moved
    · next inactive =>
      cases moved
      exact .interrupted working inactive
    · next active =>
      have active := Decidable.not_not.1 active
      unfold flushStep? at moved
      split at moved
      · cases moved
      · cases moved
        exact .failed working active
      · cases moved
        exact .crashed working active
      · cases moved
        exact .sent flushing active
  · next closing => exact writesOn_of_shutdownStep? closing moved
  · cases moved

/-- A writer with a request in its hands has more to do than an idle one. -/
theorem Writer.four_le_work {writer : Writer} {request : Request} (asked : Bool)
    (working : writer.request? = some request) : 4 ≤ Writer.work asked writer := by
  cases writer with
  | writing request rest => exact Nat.le_add_left 4 _
  | flushing request => exact Nat.le_refl 4
  | idle | closing | ended => cases working

theorem interrupt_eases (link : Link M) (request : Request) :
    { link with writer := .idle }.Eases (link.interrupt request) := by
  have failed := failKey_eases
    ({ link with writer := .idle }.note (.interrupted request.ticket request.key)) request.key
    .closed
  exact ⟨failed.transport, failed.reader, failed.writer, failed.queue, failed.calls, failed.phase⟩

theorem failWriting_eases (wiring : Wiring M) (link : Link M) (request : Request)
    (error : IoError) :
    { link with writer := .idle }.Eases (failWriting wiring link request error) := by
  have failed := failKey_eases
    ({ link with
      stats := { link.stats with writeFailures := link.stats.writeFailures + 1 }
      writer := .idle }.note (.writeFailed request.ticket request.key error))
    request.key (.writeFailed request.key error)
  have eases (next : Link M)
      (later : Link.Eases (({ link with
        stats := { link.stats with writeFailures := link.stats.writeFailures + 1 }
        writer := .idle }.note (.writeFailed request.ticket request.key error)).failKey
          request.key (.writeFailed request.key error)) next) :
      { link with writer := .idle }.Eases next := by
    have both := failed.trans later
    exact ⟨both.transport, both.reader, both.writer, both.queue, both.calls, both.phase⟩
  unfold failWriting
  dsimp only
  split
  · exact eases _ (drain_eases _ _)
  · exact eases _ (.refl _)

/-- A request that is registered waits no more, and what comes of it is less than it was before. -/
theorem work_lt_of_takes {request : Request} {rest : List Request} (synced : link.Synced)
    (idle : link.writer = .idle) (active : link.phase = .active)
    (first : link.queue = request :: rest) :
    ({ link with queue := rest }.register request).work < link.work := by
  have step := registers { link with queue := rest } request (synced.unsealed active)
  generalize { link with queue := rest }.register request = next at step ⊢
  cases step with
  | refused | skipped | begun =>
    simp only [work, idle, first, total_cons, Writer.work]
    omega

theorem work_lt_of_write (synced : link.Synced) (moved : writerStep? wiring link = some next) :
    next.work < link.work := by
  have putsDown {request : Request} (working : link.writer.request? = some request) :
      { link with writer := .idle }.work < link.work := by
    have more := Writer.four_le_work link.transport.shutdownAsked working
    simp only [work, Writer.work_idle]
    omega
  cases writesOn_of_writerStep? synced moved with
  | stops idle =>
    obtain ⟨told, remarks, -, eq⟩ := stopWriting_eq link
    rw [eq]
    simp only [work, idle, Writer.work, total_nil]
    split <;> omega
  | takes idle active first => exact work_lt_of_takes synced idle active first
  | interrupted working => exact (interrupt_eases link _).work_lt (putsDown working)
  | written writing =>
    simp only [work, writing, Writer.work, List.length_nil]
    omega
  | accepted writing active positive most =>
    simp only [work, writing, Writer.work, Transport.accept, List.length_drop]
    omega
  | failed working => exact (failWriting_eases wiring link _ _).work_lt (putsDown working)
  | @crashed request text working =>
    have more := Writer.four_le_work link.transport.shutdownAsked working
    obtain ⟨told, eq⟩ := crashWriting_eq link text
    rw [eq]
    simp only [work, Writer.work_ended, total_nil]
    omega
  | sent flushing =>
    simp only [work, note, flushing, Writer.work]
    omega
  | asks closing first =>
    simp only [work, closing, first, Writer.work, if_true, Bool.false_eq_true, if_false]
    omega
  | ends closing =>
    simp only [work, closing, Writer.work]
    split <;> omega

/-! ## Turns of the calls -/

variable {number : Nat} {first : Bool} {call : Call}

/-- A call that waits for the end of the link returns in its turn, if it can move at all. -/
theorem concludes_of_turn? (wait : call.task = .close ∨ call.task = .watch)
    {after : Link M × Turn M} (moved : turn? wiring link first call = some after) :
    ∃ result, settleTurn call after = link.finish call result := by
  unfold turn? at moved
  rcases wait with task | task
  · simp only [task] at moved
    split at moved
    · cases moved
      exact ⟨_, rfl⟩
    · cases moved
      exact ⟨_, rfl⟩
    · cases moved
  · simp only [task] at moved
    split at moved
    · cases moved
      exact ⟨_, rfl⟩
    · cases moved

/-- A turn is that of a call that sends, or the return of one that waits for the end. -/
theorem turn_of_act (sound : link.Sound)
    (moved : act? wiring link (.turn number first) = some next) :
    (∃ request handed timer, ⟨number, .send request handed timer⟩ ∈ link.calls ∧
        SendTurn wiring link number request handed timer first next) ∨
      ∃ call ∈ link.calls, ∃ result, next = link.finish call result := by
  obtain ⟨call, found, turned⟩ := Option.bind_eq_some_iff.1 moved
  have member := List.mem_of_find?_eq_some found
  have same : call.number = number := by simpa using List.find?_some found
  subst same
  obtain ⟨after, turn, eq⟩ := turnOf?_eq_some turned
  have concludes (wait : call.task = .close ∨ call.task = .watch) :
      ∃ result, next = link.finish call result := by
    obtain ⟨result, concluded⟩ := concludes_of_turn? wait turn
    exact ⟨result, eq.trans concluded⟩
  cases task : call.task with
  | send request handed timer =>
    have member : ⟨call.number, .send request handed timer⟩ ∈ link.calls := by
      rw [← task]
      exact member
    exact .inl ⟨request, handed, timer, member, sendTurn_of_act sound member moved⟩
  | close => exact .inr ⟨call, member, concludes (.inl task)⟩
  | watch => exact .inr ⟨call, member, concludes (.inr task)⟩

theorem Call.work_pos (call : Call) : 0 < Call.work call := by
  unfold Call.work
  split
  · exact Nat.succ_pos _
  · exact Nat.one_pos

/-- A call that returns takes its work with it. -/
theorem work_of_finish {base : Link M} (owned : link.Owned) (member : call ∈ link.calls)
    (same : base.calls = link.calls) (result : Result M) :
    (base.finish call result).work + Call.work call ≤ base.work := by
  have finished := release_eases ((base.removeCall call).note
    (.returned call.number call.ticket? result))
  have gone : { base with calls := base.calls.filter fun other => other.number ≠ call.number }.Eases
      (base.finish call result) :=
    ⟨finished.transport, finished.reader, finished.writer, finished.queue, finished.calls,
      finished.phase⟩
  have split := total_perm Call.work (owned.perm_calls member)
  rw [total_cons] at split
  refine Nat.le_trans (Nat.add_le_add_right gone.work_le _) ?_
  simp only [work]
  rw [same, split]
  omega

theorem expire_eases (link : Link M) (request : Request) (handed : Bool) (timer : Timer) :
    link.Eases (link.expire request handed timer).1 := by
  obtain ⟨told, remarks, -, expired⟩ := expire_eq link request handed timer
  rcases expired with ⟨holder, -, -, eq⟩ | ⟨-, eq⟩
  · rw [eq]
    exact ⟨rfl, rfl, rfl, rfl, rfl, Nat.le_refl _⟩
  · rw [eq]
    exact ⟨rfl, rfl, rfl, rfl, rfl, Nat.le_refl _⟩

/-- A request in the queue is work for the writer. -/
theorem work_handOver (link : Link M) (request : Request) :
    (link.handOver request).work = link.work + (request.frame.length + 3) := by
  simp only [work, handOver, total_append, total_cons, total_nil]
  omega

theorem work_lt_of_turn (sound : link.Sound)
    (moved : act? wiring link (.turn number first) = some next) : next.work < link.work := by
  have owned := sound.owned
  rcases turn_of_act sound moved with
    ⟨request, handed, timer, member, turn⟩ | ⟨call, member, result, rfl⟩
  · have some := Call.work_pos ⟨number, .send request handed timer⟩
    cases turn with
    -- what the request brings to the queue is less than its call gives up
    | handsOver line =>
      subst line
      have queued := work_handOver link request
      have before := total_perm Call.work (owned.perm_calls member)
      have after := total_perm Call.work (owned.perm_replaced member (.send request true timer))
      simp only [total_cons, Call.work] at before after
      simp only [work, handOver] at queued ⊢
      rw [after]
      omega
    | @learns result told =>
      have same : ({ link with exchanges := link.exchanges.quit request.ticket handed, told } :
          Link M).work = link.work := rfl
      have calls : ({ link with exchanges := link.exchanges.quit request.ticket handed, told } :
          Link M).calls = link.calls := rfl
      have gone := work_of_finish owned member calls result
      omega
    | @expires deadline struck handed' timed passed undecided strikes =>
      have eases := expire_eases struck request handed' deadline
      have less := eases.work_le
      cases strikes with
      | asItIs =>
        have gone := work_of_finish owned member eases.calls
          (.failed (.timedOut request.key deadline.millis))
        omega
      -- the request stays in the queue, which its call has paid for
      | ahead line =>
        subst line
        have gone := work_of_finish owned member eases.calls
          (.failed (.timedOut request.key deadline.millis))
        have queued := work_handOver link request
        have paid : Call.work ⟨number, .send request false timer⟩ = request.frame.length + 5 := rfl
        omega
  · have gone := work_of_finish sound.owned member rfl result
    have some := Call.work_pos call
    omega

/-! ## All steps -/

@[simp] theorem Phase.work_closed : Phase.work .closed = 0 := rfl

/-- The supervisor closes a link, and it was not closed before. -/
theorem work_lt_of_supervise (moved : link.superviseStep? = some next) :
    next.work < link.work := by
  have closes {noted : Link M} (fault : Option LinkError) (unclosed : link.phase ≠ .closed)
      (eases : link.Eases noted) :
      ({ noted.drain .loopsExited with
        phase := .closed, shutdownFault := fault }.note .closed).work < link.work := by
    have drained := eases.trans (drain_eases noted .loopsExited)
    have ahead : 0 < Phase.work link.phase := by
      cases phase : link.phase with
      | active => exact Nat.two_pos
      | draining => exact Nat.one_pos
      | closed => exact absurd phase unclosed
    simp only [work, note, Phase.work_closed]
    rw [drained.transport, drained.reader, drained.writer, drained.queue, drained.calls]
    omega
  unfold superviseStep? at moved
  split at moved
  · cases moved
  · next how crash writer reader unclosed =>
    cases how <;> cases crash <;> cases moved
    · exact closes _ unclosed (.refl link)
    · exact closes _ unclosed (note_eases link _)
    · exact closes _ unclosed (.refl link)
    · exact closes _ unclosed (note_eases link _)
    · exact closes _ unclosed (note_eases link _)
    · exact closes _ unclosed ((note_eases link _).trans (note_eases _ _))
  · cases moved

variable {act : Act M} {acts : List (Act M)}

/-- Every step of a task lowers the work that is left. -/
theorem work_lt_of_act (sized : 0 < wiring.framing.size) (sound : link.Sound)
    (inFrame : link.InFrame wiring) (step : act.isStep = true)
    (moved : act? wiring link act = some next) : next.work < link.work := by
  cases act with
  | read => exact work_lt_of_read sized sound.phased.synced inFrame moved
  | write => exact work_lt_of_write sound.phased.synced moved
  | turn number first => exact work_lt_of_turn sound moved
  | supervise => exact work_lt_of_supervise moved
  | play operation => cases step

/-! ## The reader stays inside its frame -/

theorem inFrame_fresh : (fresh : Link M).InFrame wiring := by
  intro buffer part running
  cases running
  exact ⟨[], .boundary⟩

theorem InFrame.of_ended {crash : Option String} (ended : link.reader = .ended crash) :
    link.InFrame wiring := by
  intro buffer part running
  rw [ended] at running
  cases running

theorem inFrame_of_running {buffer raw : Bytes} {part : Part}
    (reader : link.reader = .running buffer part) (holds : Holds wiring part raw) :
    link.InFrame wiring := by
  intro buffer' part' running
  cases reader.symm.trans running
  exact ⟨raw, holds⟩

theorem inFrame_of_dispatch (link : Link M) (rest payload : Bytes) :
    (dispatch wiring link rest payload).InFrame wiring := by
  unfold dispatch
  dsimp only
  split
  · next message read =>
    exact inFrame_of_running (deliver_tally wiring _ message).2.2.1 .boundary
  · exact .of_ended rfl
  · exact .of_ended rfl

theorem inFrame_of_read (sized : 0 < wiring.framing.size) (synced : link.Synced)
    (inFrame : link.InFrame wiring) (moved : readStep? wiring link = some next) :
    next.InFrame wiring := by
  cases readsOn_of_readStep? synced moved with
  | stops | crashes => exact .of_ended rfl
  | @receives part item rest running =>
    obtain ⟨raw, holds⟩ := inFrame [] part running
    cases item with
    | chunk bytes => exact inFrame_of_running rfl holds
    | finish =>
      cases part with
      | boundary | header | payload => exact .of_ended rfl
    | fault error =>
      unfold receive
      dsimp only
      split
      · exact inFrame_of_running running holds
      · exact .of_ended rfl
  | @consumes buffer part running active filled =>
    obtain ⟨raw, holds⟩ := inFrame buffer part running
    have consumed := consumes link filled sized holds
    generalize consume wiring link buffer part = next at consumed ⊢
    cases consumed with
    | goesOn holds' => exact inFrame_of_running rfl holds'
    | offends => exact .of_ended rfl
    | frame => exact inFrame_of_dispatch link _ _

/-- Nobody but the reader moves the reader on; it may at most be ended by a crash. -/
theorem InFrame.change (change : Change wiring act link next) (other : act ≠ .read)
    (inFrame : link.InFrame wiring) : next.InFrame wiring := by
  cases change with
  | read _ asked | endReading _ _ asked => exact absurd asked other
  | crashReading => exact .of_ended rfl
  | _ => exact inFrame

/-- Every act keeps the reader inside its frame. -/
theorem InFrame.after (sized : 0 < wiring.framing.size) (sound : link.Sound)
    (inFrame : link.InFrame wiring) (moved : act? wiring link act = some next) :
    next.InFrame wiring := by
  by_cases reads : act = .read
  · subst reads
    exact inFrame_of_read sized sound.phased.synced inFrame moved
  · exact sound.keeps (motive := fun link => link.InFrame wiring)
      (fun change _ => InFrame.change change reads) moved inFrame

/-- The parts of the link agree with each other, and its reader is inside its frame: what makes its
work go down. -/
structure Poised (wiring : Wiring M) (link : Link M) : Prop where
  sound : link.Sound
  inFrame : link.InFrame wiring

theorem Poised.after (sized : 0 < wiring.framing.size) (poised : link.Poised wiring)
    (moved : act? wiring link act = some next) : next.Poised wiring :=
  ⟨poised.sound.after moved, poised.inFrame.after sized poised.sound moved⟩

theorem Poised.follow (sized : 0 < wiring.framing.size) (poised : link.Poised wiring)
    (run : follow? wiring link acts = some final) : final.Poised wiring :=
  follow?_invariant (motive := fun link => link.Poised wiring)
    (fun moved poised => poised.after sized moved) run poised

theorem poised_of_run (sized : 0 < wiring.framing.size)
    (run : follow? wiring fresh acts = some link) : link.Poised wiring :=
  Poised.follow sized ⟨sound_fresh, inFrame_fresh⟩ run

/-- Steps one after another are no more than there is work to do. -/
theorem Poised.work_of_follow (sized : 0 < wiring.framing.size) (poised : link.Poised wiring)
    (steps : ∀ act ∈ acts, act.isStep = true) (run : follow? wiring link acts = some final) :
    acts.length + final.work ≤ link.work := by
  induction acts generalizing link with
  | nil =>
    cases run
    exact Nat.le_of_eq (Nat.zero_add _)
  | cons act rest ih =>
    obtain ⟨next, moved, later⟩ := follow?_cons.1 run
    have less := work_lt_of_act sized poised.sound poised.inFrame (steps act List.mem_cons_self)
      moved
    have onward := ih (poised.after sized moved)
      (fun act member => steps act (List.mem_cons_of_mem _ member)) later
    rw [List.length_cons]
    omega

end Multiplex.Link
