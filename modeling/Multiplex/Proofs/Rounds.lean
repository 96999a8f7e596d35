import Multiplex.Proofs.Faults
import Multiplex.Proofs.FrameOrigins

/-!
# What the rounds of the loops use up

The reader cuts what has arrived into frames. Each frame that it reads takes its header and its
payload from the unread bytes, and no byte gets lost as long as the reader runs
(`reads_of_follow`). The writer takes one request from its queue in each of its rounds
(`round_of_write`), also when no write succeeds (`follow?_refused`); and once the link drains it
rejects all that are left, after which the queue stays empty (`rejects_of_idle`).
-/

namespace Multiplex

variable {M : Type}

/-- The number of bytes that arrive. -/
def Inbound.size : Inbound → Nat
  | .chunk bytes => bytes.length
  | .finish | .fault _ => 0

/-- The number of bytes that have been read of a frame whose header has `size` bytes. -/
def Part.got (size : Nat) : Part → Nat
  | .boundary => 0
  | .header got => got.length
  | .payload _ _ got => size + got.length

/-- The number of bytes that a reader has taken and not read as part of a whole frame. -/
def Reader.unread (size : Nat) : Reader → Nat
  | .running buffer part => part.got size + buffer.length
  | .ended _ => 0

theorem Reader.unread_of_isEnded {reader : Reader} (size : Nat) (ended : reader.isEnded = true) :
    reader.unread size = 0 := by
  cases reader with
  | running buffer part => cases ended
  | ended crash => rfl

/-- The error with which a transport refuses every write. -/
def Transport.refusal? (transport : Transport) : Option IoError :=
  if transport.room = some 0 then
    match transport.stop with
    | .fault error => some error
    | .nothing => some (.plain .writeZero)
    | .stalled | .crashes _ => none
  else none

theorem Wiring.volume_append (wiring : Wiring M) (payloads payloads' : List Bytes) :
    wiring.volume (payloads ++ payloads') = wiring.volume payloads + wiring.volume payloads' := by
  rw [Wiring.volume, List.map_append, List.sum_append, Wiring.volume, Wiring.volume]

theorem Wiring.volume_singleton (wiring : Wiring M) (payload : Bytes) :
    wiring.volume [payload] = wiring.framing.size + payload.length :=
  List.sum_singleton

/-- Each frame has a header. -/
theorem Wiring.headers_le_volume (wiring : Wiring M) (payloads : List Bytes) :
    wiring.framing.size * payloads.length ≤ wiring.volume payloads := by
  induction payloads with
  | nil => exact Nat.le_refl _
  | cons payload rest ih =>
    have split := wiring.volume_append [payload] rest
    rw [wiring.volume_singleton] at split
    rw [List.length_cons, Nat.mul_succ]
    simp only [List.singleton_append] at split
    omega

/-- What a reader holds of a frame is what it has read of it. -/
theorem Holds.got_eq {wiring : Wiring M} {part : Part} {raw : Bytes}
    (holds : Holds wiring part raw) : part.got wiring.framing.size = raw.length := by
  cases holds with
  | boundary => rfl
  | header => rfl
  | payload announces =>
    rw [Part.got, List.length_append, List.length_reverse, announces.size]

namespace Link

/-- The number of bytes that have arrived and not been read as part of a whole frame. -/
def unread (wiring : Wiring M) (link : Link M) : Nat :=
  total Inbound.size link.transport.inbound + link.reader.unread wiring.framing.size

/-- Frames with these payloads have been read on the way from one link to another. They were among
the unread bytes, and as long as the reader runs all other bytes are still unread. -/
structure Reads (wiring : Wiring M) (link next : Link M) (payloads : List Bytes) : Prop where
  readings : readings next.history = readings link.history ++ payloads
  bytes : next.unread wiring + wiring.volume payloads ≤ link.unread wiring
  exact : next.reader.isEnded = false →
    next.unread wiring + wiring.volume payloads = link.unread wiring
  ended : link.reader.isEnded = true → next.reader.isEnded = true

/-- What the writer does with its queue and with the request in its hands in one step. -/
inductive Round (link next : Link M) : Prop
  /-- It takes the first request of the queue, and either is done with it or begins its frame. -/
  | takes {request : Request} {rest : List Request} (idle : link.writer = .idle)
      (active : link.phase = .active) (first : link.queue = request :: rest)
      (queue : next.queue = rest)
      (writer : next.writer = .idle ∨ next.writer = .writing request request.frame)
  /-- It goes on with the request in its hands, of which less is left to do. -/
  | goesOn {request : Request} (working : link.writer.request? = some request)
      (queue : next.queue = link.queue) (working' : next.writer.request? = some request)
      (less : Writer.work false next.writer < Writer.work false link.writer)
  /-- It is done with the request in its hands, which was sent, or not. -/
  | putsDown {request : Request} (working : link.writer.request? = some request)
      (queue : next.queue = link.queue) (idle : next.writer = .idle)
  | crashes {request : Request} (working : link.writer.request? = some request)
      (queue : next.queue = []) (crashed : next.writer.isCrashed = true)
  /-- It rejects what is left in the queue. -/
  | rejects (idle : link.writer = .idle) (inactive : link.phase ≠ .active) (queue : next.queue = [])
      (closing : next.writer = .closing)
  | shutsDown (closing : link.writer = .closing) (queue : next.queue = link.queue)
      (writer : next.writer.isEnded = true ∨
        next.writer = .closing ∧ link.transport.shutdownAsked = false ∧
          next.transport.shutdownAsked = true)

variable {wiring : Wiring M} {act : Act M} {acts : List (Act M)} {link next final : Link M}
  {payloads payloads' : List Bytes}

/-! ## The reader -/

theorem length_flow (items : List Inbound) :
    (flow items).length = total Inbound.size items := by
  induction items with
  | nil => rfl
  | cons item rest ih =>
    rw [flow_cons, List.length_append, ih, total_cons]
    cases item <;> rfl

theorem Reads.refl (link : Link M) : Reads wiring link link [] :=
  ⟨(List.append_nil _).symm, Nat.le_refl _, fun _ => rfl, id⟩

theorem Reads.trans (first : Reads wiring link next payloads)
    (second : Reads wiring next final payloads') :
    Reads wiring link final (payloads ++ payloads') where
  readings := by rw [second.readings, first.readings, List.append_assoc]
  bytes := by
    have before := first.bytes
    have after := second.bytes
    rw [wiring.volume_append]
    omega
  exact running := by
    have running' : next.reader.isEnded = false := by
      rw [← Bool.not_eq_true]
      intro ended
      rw [second.ended ended] at running
      cases running
    have before := first.exact running'
    have after := second.exact running
    rw [wiring.volume_append]
    omega
  ended := fun ended => second.ended (first.ended ended)

/-- Nothing is read, and the unread bytes stay. -/
theorem reads_nothing (silent : link.ReadNothing next)
    (same : next.unread wiring = link.unread wiring)
    (ended : link.reader.isEnded = true → next.reader.isEnded = true) :
    Reads wiring link next [] :=
  ⟨silent.readings_eq.trans (List.append_nil _).symm, Nat.le_of_eq same, fun _ => same, ended⟩

/-- Nothing is read any more, since the reader has ended: it loses what it has not read. -/
theorem reads_of_ended {rest : List Inbound} (silent : link.ReadNothing next)
    (ended : next.reader.isEnded = true) (inbound : next.transport.inbound = rest)
    (less : total Inbound.size rest ≤ total Inbound.size link.transport.inbound) :
    Reads wiring link next [] := by
  refine ⟨silent.readings_eq.trans (List.append_nil _).symm, ?_, ?_, fun _ => ended⟩
  · rw [unread, unread, inbound, Reader.unread_of_isEnded _ ended]
    exact Nat.add_le_add less (Nat.zero_le _)
  · intro running
    rw [ended] at running
    cases running

theorem reads_of_receive {part : Part} {item : Inbound} {rest : List Inbound}
    (running : link.reader = .running [] part) (inbound : link.transport.inbound = item :: rest) :
    Reads wiring link (receive wiring link part rest item) [] := by
  have silent := receive_readNothing wiring link part rest item
  have runs (ended : link.reader.isEnded = true) :
      (receive wiring link part rest item).reader.isEnded = true := by
    rw [running] at ended
    cases ended
  rcases reader_of_receive wiring running item rest with ⟨buffer, reader, split⟩ | ⟨ended, left⟩
  · have length := congrArg List.length split
    rw [List.length_append, length_flow, length_flow] at length
    refine reads_nothing silent ?_ runs
    rw [unread, unread, reader, running, inbound, Reader.unread, Reader.unread, List.length_nil]
    omega
  · refine reads_of_ended silent ended left ?_
    rw [inbound, total_cons]
    exact Nat.le_add_left _ _

/-- A frame is read whole: its header and its payload are taken from the unread bytes. -/
theorem reads_of_dispatch {buffer raw header rest payload : Bytes} {part : Part}
    (running : link.reader = .running buffer part) (holds : Holds wiring part raw)
    (split : header ++ (payload ++ rest) = raw ++ buffer)
    (announces : wiring.Announces header payload.length) :
    Reads wiring link (dispatch wiring link rest payload) [payload] := by
  have readings := readings_of_dispatch wiring link rest payload
  have transport := dispatch_transport wiring link rest payload
  have length := congrArg List.length split
  simp only [List.length_append, announces.size] at length
  have before : link.unread wiring =
      total Inbound.size link.transport.inbound + (raw.length + buffer.length) := by
    rw [unread, running, Reader.unread, holds.got_eq]
  have runs (ended : link.reader.isEnded = true) :
      (dispatch wiring link rest payload).reader.isEnded = true := by
    rw [running] at ended
    cases ended
  -- the reader goes on with what is left in its buffer, or stops and gives that up
  rcases reader_of_dispatch wiring link rest payload with ⟨goesOn, -⟩ | ⟨ended, -⟩
  · have same : (dispatch wiring link rest payload).unread wiring + wiring.volume [payload] =
        link.unread wiring := by
      rw [before, unread, transport, goesOn, Reader.unread, Part.got, wiring.volume_singleton]
      omega
    exact ⟨readings, Nat.le_of_eq same, fun _ => same, runs⟩
  · have crashes (goesOn : (dispatch wiring link rest payload).reader.isEnded = false) :
        (dispatch wiring link rest payload).unread wiring + wiring.volume [payload] =
          link.unread wiring := by
      rw [ended] at goesOn
      cases goesOn
    refine ⟨readings, ?_, crashes, runs⟩
    rw [before, unread, transport, Reader.unread_of_isEnded _ ended, wiring.volume_singleton]
    omega

theorem reads_of_read (sized : 0 < wiring.framing.size) (synced : link.Synced)
    (inFrame : link.InFrame wiring) (moved : readStep? wiring link = some next) :
    ∃ payloads, payloads.length ≤ 1 ∧ Reads wiring link next payloads := by
  cases readsOn_of_readStep? synced moved with
  | stops =>
    have stops := stopReading_eases link none
    exact ⟨[], Nat.zero_le 1, reads_of_ended (stopReading_readNothing link none) rfl
      (congrArg Transport.inbound stops.transport) (Nat.le_refl _)⟩
  | crashes =>
    exact ⟨[], Nat.zero_le 1, reads_of_ended ⟨[], rfl, fun _ member => nomatch member⟩ rfl rfl
      (Nat.le_refl _)⟩
  | receives running active inbound =>
    exact ⟨[], Nat.zero_le 1, reads_of_receive running inbound⟩
  | @consumes buffer part running active filled =>
    obtain ⟨raw, holds⟩ := inFrame buffer part running
    have consumed := consumes link filled sized holds
    generalize consume wiring link buffer part = next at consumed ⊢
    cases consumed with
    | goesOn holds' split =>
      have length := congrArg List.length split
      simp only [List.length_append] at length
      refine ⟨[], Nat.zero_le 1, reads_nothing ⟨[], rfl, fun _ member => nomatch member⟩ ?_
        fun ended => by rw [running] at ended; cases ended⟩
      simp only [unread, running, Reader.unread, holds.got_eq, holds'.got_eq]
      omega
    | @offends header rest fault =>
      have failed := failReading_eases link (.badLength fault)
      exact ⟨[], Nat.zero_le 1, reads_of_ended (failReading_readNothing link _) rfl
        (congrArg Transport.inbound failed.transport) (Nat.le_refl _)⟩
    | @frame header payload rest split announces =>
      exact ⟨[payload], Nat.le_refl 1, reads_of_dispatch running holds split announces⟩

/-- A step of any task reads one frame at most, which takes its bytes from the unread ones. -/
theorem reads_of_act (sized : 0 < wiring.framing.size) (poised : link.Poised wiring)
    (step : act.isStep = true) (moved : act? wiring link act = some next) :
    ∃ payloads, payloads.length ≤ 1 ∧ Reads wiring link next payloads := by
  by_cases reads : act = .read
  · subst reads
    exact reads_of_read sized poised.sound.phased.synced poised.inFrame moved
  · have silent : link.ReadNothing next :=
      readNothing_of_changes (act?_changes poised.sound.phased.synced moved) reads
    have inbound : next.transport.inbound = link.transport.inbound := by
      have nothing : act.arrives? = none := by
        cases act with
        | play operation => cases step
        | read | write | turn | supervise => rfl
      rw [inbound_of_act poised.sound moved reads, nothing, Option.toList_none, List.append_nil]
    refine ⟨[], Nat.zero_le 1, ?_⟩
    rcases reader_of_act poised.sound moved reads with same | ended
    · refine reads_nothing silent ?_ fun ended => by rw [same, ended]
      rw [unread, unread, inbound, same]
    · exact reads_of_ended silent ended inbound (Nat.le_refl _)

/-- What is read in any steps of the tasks is taken from the unread bytes, and while the reader runs
none of them gets lost. -/
theorem reads_of_follow (sized : 0 < wiring.framing.size) (poised : link.Poised wiring)
    (steps : ∀ act ∈ acts, act.isStep = true) (run : follow? wiring link acts = some final) :
    ∃ payloads, Reads wiring link final payloads := by
  induction acts generalizing link with
  | nil =>
    cases run
    exact ⟨[], .refl _⟩
  | cons act rest ih =>
    obtain ⟨next, moved, later⟩ := follow?_cons.1 run
    obtain ⟨payloads, -, reads⟩ := reads_of_act sized poised (steps act List.mem_cons_self) moved
    obtain ⟨payloads', reads'⟩ := ih (poised.after sized moved)
      (fun act member => steps act (List.mem_cons_of_mem _ member)) later
    exact ⟨payloads ++ payloads', reads.trans reads'⟩

/-- A reader that cannot move has ended, or it has nothing to read. -/
theorem waits_of_readStep? (synced : link.Synced) (stuck : readStep? wiring link = none) :
    link.reader.isEnded = true ∨ link.phase = .active ∧ link.transport.inbound = [] ∧
      ∃ part, link.reader = .running [] part := by
  unfold readStep? at stuck
  split at stuck
  · next crash ended => exact .inl (by rw [ended, Reader.isEnded])
  · next buffer part running =>
    split at stuck
    · cases stuck
    · next unasked =>
      split at stuck
      · next empty =>
        rw [List.isEmpty_iff] at empty
        subst empty
        split at stuck
        · next inbound =>
          exact .inr ⟨synced.unasked_iff.1 (by simpa using unasked), inbound, part, running⟩
        · split at stuck <;> cases stuck
      · cases stuck

/-! ## The writer -/

theorem round_of_write (synced : link.Synced) (moved : writerStep? wiring link = some next) :
    link.Round next := by
  cases writesOn_of_writerStep? synced moved with
  | stops idle inactive =>
    obtain ⟨told, remarks, -, eq⟩ := stopWriting_eq link
    rw [eq]
    exact .rejects idle inactive rfl rfl
  | @takes request rest idle active first =>
    have step := registers { link with queue := rest } request (synced.unsealed active)
    generalize { link with queue := rest }.register request = next at step ⊢
    cases step with
    | refused | skipped => exact .takes idle active first rfl (.inl idle)
    | begun => exact .takes idle active first rfl (.inr rfl)
  | @interrupted request working =>
    have eases := interrupt_eases link request
    exact .putsDown working eases.queue eases.writer
  | written writing =>
    refine .goesOn (by rw [writing, Writer.request?]) rfl rfl ?_
    rw [writing]
    exact Nat.lt_succ_self 4
  | @accepted request rest count writing active positive most =>
    refine .goesOn (by rw [writing, Writer.request?]) rfl rfl ?_
    simp only [writing, Writer.work, List.length_drop]
    omega
  | @failed request error working =>
    have eases := failWriting_eases wiring link request error
    exact .putsDown working eases.queue eases.writer
  | @crashed request text working =>
    obtain ⟨told, eq⟩ := crashWriting_eq link text
    rw [eq]
    exact .crashes working rfl rfl
  | sent flushing => exact .putsDown (by rw [flushing, Writer.request?]) rfl rfl
  | asks closing first => exact .shutsDown closing rfl (.inr ⟨closing, first, rfl⟩)
  | ends closing => exact .shutsDown closing rfl (.inl rfl)

variable {request : Request} {error : IoError}

/-- A write that the transport refuses fails the request in the writer's hands and no other. -/
theorem act?_refused (synced : link.Synced) {rest : Bytes} (active : link.phase = .active)
    (writing : link.writer = .writing request rest) (left : rest ≠ [])
    (refusal : link.transport.refusal? = some error) :
    act? wiring link .write = some (failWriting wiring link request error) := by
  have unasked : link.stopAsked = false := synced.unasked_iff.2 active
  have full : link.transport.room = some 0 := by
    unfold Transport.refusal? at refusal
    split at refusal
    · assumption
    · cases refusal
  have nothing : link.transport.accepts rest.length = 0 := by
    rw [Transport.accepts, full]
    exact Nat.zero_min _
  have filled : ¬rest.isEmpty = true := by simpa using left
  rw [act?, writerStep?, writing]
  dsimp only
  rw [unasked, if_neg Bool.false_ne_true, writeStep?, if_neg filled]
  dsimp only
  rw [nothing, if_neg (Nat.lt_irrefl 0)]
  unfold Transport.refusal? at refusal
  rw [if_pos full] at refusal
  cases stop : link.transport.stop with
  | fault error' =>
    rw [stop] at refusal
    cases refusal
    rfl
  | nothing =>
    rw [stop] at refusal
    cases refusal
    rfl
  | stalled | crashes =>
    rw [stop] at refusal
    cases refusal

/-- An idle writer takes the first request of its queue. -/
theorem takes_of_idle (synced : link.Synced) {rest : List Request} (active : link.phase = .active)
    (idle : link.writer = .idle) (first : link.queue = request :: rest) :
    ∃ next, act? wiring link .write = some next ∧ next.phase = .active ∧
      next.transport = link.transport ∧ next.queue = rest ∧
        (next.writer = .idle ∨ next.writer = .writing request request.frame) := by
  have unasked : link.stopAsked = false := synced.unasked_iff.2 active
  have taken : act? wiring link .write = some ({ link with queue := rest }.register request) := by
    rw [act?, writerStep?, idle]
    dsimp only
    rw [unasked, if_neg Bool.false_ne_true, first]
  have step := registers { link with queue := rest } request (synced.unsealed active)
  refine ⟨_, taken, ?_⟩
  generalize { link with queue := rest }.register request = next at step ⊢
  cases step with
  | refused | skipped => exact ⟨active, rfl, rfl, .inl idle⟩
  | begun => exact ⟨active, rfl, rfl, .inr rfl⟩

/-- A refused write is a failure of the request in the writer's hands; a link that goes on after
such a failure is left with an idle writer and the rest of its queue. -/
theorem stays_of_refused (synced : link.Synced) {rest : Bytes}
    (stays : wiring.config.closeOnWriteFailure = false) (active : link.phase = .active)
    (writing : link.writer = .writing request rest) (left : rest ≠ [])
    (refusal : link.transport.refusal? = some error) :
    ∃ next, act? wiring link .write = some next ∧ next.phase = .active ∧
      next.transport = link.transport ∧ next.queue = link.queue ∧ next.writer = .idle := by
  refine ⟨_, act?_refused synced active writing left refusal, ?_⟩
  have eases := failWriting_eases wiring link request error
  have fails := failWriting_fails wiring active request error
  refine ⟨?_, eases.transport, eases.queue, eases.writer⟩
  generalize failWriting wiring link request error = next at fails
  cases fails with
  | stays => exact active
  | falls falls =>
    rw [stays] at falls
    cases falls

/-- If every write fails and the link goes on after such a failure, the writer still works through
its queue, with two steps at most for each request. -/
theorem follow?_refused (sound : link.Sound) (stays : wiring.config.closeOnWriteFailure = false)
    (active : link.phase = .active) (idle : link.writer = .idle)
    (refusal : link.transport.refusal? = some error)
    (filled : ∀ request ∈ link.queue, request.frame ≠ []) :
    ∃ count final, count ≤ 2 * link.queue.length ∧
      follow? wiring link (List.replicate count .write) = some final ∧
        final.phase = .active ∧ final.writer = .idle ∧ final.queue = [] := by
  -- by induction on the queue; each request takes one step if it is left out, else two
  induction waiting : link.queue generalizing link with
  | nil => exact ⟨0, link, Nat.le_refl 0, rfl, active, idle, waiting⟩
  | cons request rest ih =>
    rw [waiting] at filled
    have others : ∀ request ∈ rest, request.frame ≠ [] := fun other member =>
      filled other (List.mem_cons_of_mem _ member)
    have onward {next : Link M} (moves : Nat) (few : moves ≤ 2)
        (run : follow? wiring link (List.replicate moves .write) = some next)
        (active : next.phase = .active) (idle : next.writer = .idle)
        (transport : next.transport = link.transport) (queue : next.queue = rest) :
        ∃ count final, count ≤ 2 * (request :: rest).length ∧
          follow? wiring link (List.replicate count .write) = some final ∧
            final.phase = .active ∧ final.writer = .idle ∧ final.queue = [] := by
      obtain ⟨count, final, most, later, ends⟩ := ih (sound.follow run) active idle
        (transport ▸ refusal) (queue ▸ others) queue
      refine ⟨moves + count, final, ?_, ?_, ends⟩
      · rw [List.length_cons]
        omega
      · rw [List.replicate_add]
        exact follow?_append.2 ⟨next, run, later⟩
    obtain ⟨mid, taken, active', transport, queue, begun⟩ :
        ∃ mid, act? wiring link .write = some mid ∧ mid.phase = .active ∧
          mid.transport = link.transport ∧ mid.queue = rest ∧
            (mid.writer = .idle ∨ mid.writer = .writing request request.frame) :=
      takes_of_idle sound.phased.synced active idle waiting
    have once : follow? wiring link (List.replicate 1 .write) = some mid :=
      follow?_cons.2 ⟨mid, taken, rfl⟩
    rcases begun with idle' | writing
    · exact onward 1 (by decide) once active' idle' transport queue
    · obtain ⟨next, failed, active'', transport', queue', idle''⟩ :=
        stays_of_refused (sound.after taken).phased.synced stays active' writing
          (filled request List.mem_cons_self) (transport ▸ refusal)
      have twice : follow? wiring link (List.replicate 2 .write) = some next :=
        follow?_cons.2 ⟨mid, taken, follow?_cons.2 ⟨next, failed, rfl⟩⟩
      exact onward 2 (by decide) twice active'' idle'' (transport'.trans transport)
        (queue'.trans queue)

/-- Once the link drains an idle writer rejects all requests that are left, and none follow. -/
theorem rejects_of_idle (sound : link.Sound) (inactive : link.phase ≠ .active)
    (idle : link.writer = .idle) :
    ∃ next, act? wiring link .write = some next ∧ next.writer = .closing ∧
      (∀ request ∈ link.queue, next.exchanges.poll request.ticket = some (.error .closed)) ∧
        ∀ {later : List (Act M)} {final : Link M}, follow? wiring next later = some final →
          final.queue = [] := by
  have asked : link.stopAsked = true := sound.phased.synced.stopAsked_iff.2 inactive
  have stops : act? wiring link .write = some link.stopWriting := by
    rw [act?, writerStep?, idle]
    dsimp only
    rw [if_pos asked]
  have sound' := sound.after stops
  obtain ⟨told, remarks, -, eq⟩ := stopWriting_eq link
  rw [eq] at stops sound'
  refine ⟨_, stops, rfl, ?_, ?_⟩
  · intro request member
    dsimp only
    rw [Exchanges.poll_closeAll, if_pos (List.mem_map_of_mem member)]
  · intro later final run
    have shut : final.queueOpen = false :=
      sound'.follow_keeps (motive := fun link => link.queueOpen = false)
        (fun change _ => shut_of_change change) run rfl
    exact (sound'.follow run).phased.queue_eq_nil shut

end Link

end Multiplex
