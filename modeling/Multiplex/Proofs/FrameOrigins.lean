import Multiplex.Proofs.Work

/-!
# Where the frames come from

The payloads that a link reads are those of the frames at the front of the bytes that have arrived,
in order and each once. This is so in every run, in whatever chunks the bytes come, whatever faults
come between them, and whoever makes the link drain.

Main statement: `readsOff_of_run`.
-/

namespace Multiplex

variable {M : Type}

/-- The bytes of all that arrives. -/
def flow (items : List Inbound) : Bytes :=
  items.flatMap Inbound.content

theorem arrived_eq_flow (acts : List (Act M)) : arrived acts = flow (arrivals acts) :=
  List.flatMap_def.symm

theorem flow_cons (item : Inbound) (items : List Inbound) :
    flow (item :: items) = item.content ++ flow items :=
  List.flatMap_cons

theorem flow_append (items items' : List Inbound) :
    flow (items ++ items') = flow items ++ flow items' :=
  List.flatMap_append

namespace Link

/-- What a link has read are payloads of the frames at the front of a stream. -/
def ReadsOff (wiring : Wiring M) (stream : Bytes) (link : Link M) : Prop :=
  ∃ payloads stop, Parses wiring stream payloads stop ∧
    readings link.history <+: payloads ++ stop.last

/-- Where a link stands in a stream, of which `later` is still to arrive. -/
inductive Cuts (wiring : Wiring M) (stream : Bytes) (later : List Inbound) (link : Link M) : Prop
  /-- The reader holds the first bytes of a frame, and what is left parses as the rest of the
  stream. -/
  | reads {buffer raw : Bytes} {part : Part} (running : link.reader = .running buffer part)
      (holds : Holds wiring part raw)
      (onward : ∀ payloads stop,
        Parses wiring (raw ++ (buffer ++ flow (link.transport.inbound ++ later))) payloads stop →
          Parses wiring stream (readings link.history ++ payloads) stop)
  | ended (ended : link.reader.isEnded = true) (front : link.ReadsOff wiring stream)

variable {wiring : Wiring M} {act : Act M} {acts : List (Act M)} {link next final : Link M}
  {stream : Bytes} {later : List Inbound}

theorem Cuts.readsOff (sized : 0 < wiring.framing.size) (cuts : Cuts wiring stream later link) :
    link.ReadsOff wiring stream := by
  cases cuts with
  | reads _ _ onward =>
    obtain ⟨payloads, stop, parse⟩ := parses_total sized _
    refine ⟨_, stop, onward payloads stop parse, ?_⟩
    rw [List.append_assoc]
    exact List.prefix_append _ _
  | ended _ front => exact front

/-- What a running reader has before it. -/
theorem Cuts.onward {buffer : Bytes} {part : Part} (cuts : Cuts wiring stream later link)
    (running : link.reader = .running buffer part) :
    ∃ raw, Holds wiring part raw ∧ ∀ payloads stop,
      Parses wiring (raw ++ (buffer ++ flow (link.transport.inbound ++ later))) payloads stop →
        Parses wiring stream (readings link.history ++ payloads) stop := by
  cases cuts with
  | reads running' holds onward =>
    cases running'.symm.trans running
    exact ⟨_, holds, onward⟩
  | ended ended =>
    rw [running] at ended
    cases ended

/-- A reader that has ended without reading anything more leaves what it has read. -/
theorem ReadsOff.ends (front : link.ReadsOff wiring stream) (silent : link.ReadNothing next)
    (ended : next.reader.isEnded = true) : Cuts wiring stream later next := by
  refine .ended ended ?_
  rw [ReadsOff, silent.readings_eq]
  exact front

/-! ## The reader's functions -/

/-- A reader that takes what arrives next has its bytes in its buffer, all or the first of them, or
it ends. -/
theorem reader_of_receive (wiring : Wiring M) {part : Part}
    (running : link.reader = .running [] part) (item : Inbound) (rest : List Inbound) :
    (∃ buffer, (receive wiring link part rest item).reader = .running buffer part ∧
        buffer ++ flow (receive wiring link part rest item).transport.inbound =
          flow (item :: rest)) ∨
      ((receive wiring link part rest item).reader.isEnded = true ∧
        (receive wiring link part rest item).transport.inbound = rest) := by
  have fails (error : LinkError) :
      (failReading { link with transport := { link.transport with inbound := rest } }
          error).reader.isEnded = true ∧
        (failReading { link with transport := { link.transport with inbound := rest } }
          error).transport.inbound = rest :=
    have failed := failReading_eases
      { link with transport := { link.transport with inbound := rest } } error
    ⟨by rw [failed.reader, Reader.isEnded], congrArg Transport.inbound failed.transport⟩
  cases item with
  | chunk bytes =>
    refine .inl ⟨bytes.take (max wiring.config.readBufferSize 1), rfl, ?_⟩
    rw [flow_cons, Inbound.content]
    simp only [receive]
    split
    · next fits => rw [List.take_of_length_le fits]
    -- what the buffer has no room for stays with the transport
    · rw [flow_cons, Inbound.content, ← List.append_assoc, List.take_append_drop]
  | finish =>
    right
    cases part with
    | boundary =>
      have stops := stopReading_eases
        ({ link with transport := { link.transport with inbound := rest } }.note .peerFinished)
        (some .peerClosed)
      exact ⟨by rw [receive, stops.reader, Reader.isEnded],
        congrArg Transport.inbound stops.transport⟩
    | header got => exact fails _
    | payload length missing got => exact fails _
  | fault error =>
    unfold receive
    dsimp only
    split
    · exact .inl ⟨[], running, rfl⟩
    · exact .inr (fails _)

/-- After a payload that is a message the reader goes on with what is left of its buffer; any other
payload is the last one that it reads. -/
theorem reader_of_dispatch (wiring : Wiring M) (link : Link M) (rest payload : Bytes) :
    ((dispatch wiring link rest payload).reader = .running rest .boundary ∧
        ∀ left, wiring.open payload left = .frame payload left) ∨
      ((dispatch wiring link rest payload).reader.isEnded = true ∧
        ∃ stop : Stop, stop.last = [payload] ∧ ∀ left, wiring.open payload left = .stops stop) := by
  unfold dispatch Wiring.open
  dsimp only
  cases wiring.codec.unpack payload with
  | message message => exact .inl ⟨(deliver_tally wiring _ message).2.2.1, fun _ => rfl⟩
  | refused fault => exact .inr ⟨rfl, .refused payload fault, rfl, fun _ => rfl⟩
  | crashed text => exact .inr ⟨rfl, .crashed payload text, rfl, fun _ => rfl⟩

theorem dispatch_transport (wiring : Wiring M) (link : Link M) (rest payload : Bytes) :
    (dispatch wiring link rest payload).transport = link.transport := by
  obtain ⟨reader, -, eases⟩ := dispatch_readsDown wiring link rest payload
  exact eases.transport

/-! ## Runs -/

/-- A complete payload is the next thing in the stream. -/
theorem cuts_dispatch {bytes payload rest : Bytes}
    (cut : wiring.cut bytes =
      wiring.open payload (rest ++ flow (link.transport.inbound ++ later)))
    (onward : ∀ payloads stop, Parses wiring bytes payloads stop →
      Parses wiring stream (readings link.history ++ payloads) stop) :
    Cuts wiring stream later (dispatch wiring link rest payload) := by
  rcases reader_of_dispatch wiring link rest payload with
    ⟨reader, opens⟩ | ⟨reader, stop, last, opens⟩
  -- the frame is the first one of what was left, and the reader is at the boundary behind it
  · refine .reads reader .boundary ?_
    intro payloads stop parse
    rw [dispatch_transport] at parse
    rw [opens] at cut
    rw [readings_of_dispatch, List.append_assoc, List.singleton_append]
    exact onward _ stop (.frame cut parse)
  · rw [opens] at cut
    have all : readings (dispatch wiring link rest payload).history =
        readings link.history ++ [] ++ stop.last := by
      rw [readings_of_dispatch, last, List.append_nil]
    exact .ended reader ⟨_, stop, onward [] stop (.stops cut), all ▸ List.prefix_refl _⟩

/-- A step of the reader. -/
theorem Cuts.read (sized : 0 < wiring.framing.size) (synced : link.Synced)
    (cuts : Cuts wiring stream later link) (moved : readStep? wiring link = some next) :
    Cuts wiring stream later next := by
  have front := cuts.readsOff sized
  cases readsOn_of_readStep? synced moved with
  | stops => exact front.ends (stopReading_readNothing link none) rfl
  | crashes => exact front.ends ⟨[], rfl, fun _ member => nomatch member⟩ rfl
  | @receives part item rest running active arrived =>
    have silent := receive_readNothing wiring link part rest item
    rcases reader_of_receive wiring running item rest with ⟨buffer, reader, split⟩ | ⟨ended, -⟩
    -- the same bytes lie before the reader, some of them in its buffer now
    · obtain ⟨raw, holds, onward⟩ := cuts.onward running
      refine .reads reader holds ?_
      rw [flow_append, ← List.append_assoc buffer, split, ← flow_append, silent.readings_eq,
        ← arrived]
      exact onward
    · exact front.ends silent ended
  | consumes running _ filled =>
    obtain ⟨raw, holds, onward⟩ := cuts.onward running
    rw [← List.append_assoc] at onward
    have consumed := consumes link filled sized holds
    generalize consume wiring link _ _ = next at consumed ⊢
    cases consumed with
    | goesOn holds' split =>
      rw [← split, List.append_assoc] at onward
      exact .reads rfl holds' onward
    | offends => exact front.ends (failReading_readNothing link _) rfl
    | frame split announces =>
      rw [← split, List.append_assoc, List.append_assoc] at onward
      exact cuts_dispatch (announces.cut_frame sized) onward

/-- A step of anybody. -/
theorem Cuts.after (sized : 0 < wiring.framing.size) (sound : link.Sound)
    (moved : act? wiring link act = some next)
    (cuts : Cuts wiring stream (act.arrives?.toList ++ later) link) :
    Cuts wiring stream later next := by
  by_cases reads : act = .read
  · subst reads
    exact cuts.read sized sound.phased.synced moved
  · have silent : link.ReadNothing next :=
      readNothing_of_changes (act?_changes sound.phased.synced moved) reads
    rcases reader_of_act sound moved reads with same | ended
    · cases cuts with
      -- what arrives now goes behind what waits for the reader
      | reads running holds onward =>
        rw [← List.append_assoc link.transport.inbound, ← inbound_of_act sound moved reads,
          ← silent.readings_eq] at onward
        exact .reads (same.trans running) holds onward
      | ended ended front => exact front.ends silent (same ▸ ended)
    · exact (cuts.readsOff sized).ends silent ended

theorem Cuts.follow (sized : 0 < wiring.framing.size) (sound : link.Sound)
    (run : follow? wiring link acts = some final)
    (cuts : Cuts wiring stream (arrivals acts) link) : Cuts wiring stream [] final := by
  -- by induction on the run, at every point of which the arrivals of its rest are still to come
  induction acts generalizing link with
  | nil =>
    cases run
    exact cuts
  | cons act rest ih =>
    obtain ⟨next, moved, run⟩ := follow?_cons.1 run
    rw [arrivals_cons] at cuts
    exact ih (sound.after moved) run (cuts.after sized sound moved)

/-- What has been read in a run are the payloads at the front of what has arrived in it. -/
theorem readsOff_of_run (sized : 0 < wiring.framing.size)
    (run : follow? wiring fresh acts = some link) :
    link.ReadsOff wiring (arrived acts) := by
  rw [arrived_eq_flow]
  have start : Cuts wiring (flow (arrivals acts)) (arrivals acts) (fresh : Link M) :=
    .reads rfl .boundary fun _ _ parse => parse
  exact (start.follow sized sound_fresh run).readsOff sized

end Link

end Multiplex
