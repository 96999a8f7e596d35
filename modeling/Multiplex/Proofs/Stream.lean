import Multiplex.Proofs.Dispatch
import Multiplex.Proofs.Parsing
import Mathlib.Algebra.GroupWithZero.Nat

/-!
# What the reader makes of a stream

The reader's state after some of a stream has arrived is told by the bytes alone: it has read the
frames at the front of the stream, and what is left parses as the rest of the stream
(`Link.Streams`). So what it has read in the end, and why the link drains, depend on the bytes and
on what comes after them, and not on the chunks in which they arrived.

Main statement: `stream_of_run`.
-/

namespace Multiplex

variable {M : Type}

/-- What comes after the bytes of a stream. -/
inductive StreamEnd where
  | silence
  | finish
  | fault (error : IoError)

/-- What arrives at the end of a stream. -/
def StreamEnd.items : StreamEnd → List Inbound
  | .silence => []
  | .finish => [.finish]
  | .fault error => [.fault error]

/-- Why a link drains whose stream ends inside a part of a frame; an interruption is not the end. -/
def StreamEnd.inside (text : String) : StreamEnd → Option DrainReason
  | .silence => none
  | .finish => some (.readFailure (.framing text (some (.plain .unexpectedEof))))
  | .fault error =>
    if error.isInterruption then none else some (.readFailure (.framing text (some error)))

/-- Why a link drains whose stream ends between two frames. -/
def StreamEnd.between : StreamEnd → Option DrainReason
  | .silence => none
  | .finish => some .peerClosed
  | .fault error => some (.readFailure (.framing "reading length header" (some error)))

/-- Why a link drains whose stream stops and ends so; it goes on waiting if there is no reason. -/
def Stop.verdict (ending : StreamEnd) : Stop → Option DrainReason
  | .boundary => ending.between
  | .header => ending.inside "short length header"
  | .payload length => ending.inside ("short read of " ++ toString length ++ " byte payload")
  | .badLength fault => some (.readFailure (.badLength fault))
  | .refused _ fault => some (.readFailure (.undecodable fault))
  | .crashed _ _ => none

/-- The reader is the one that gives this reason. -/
def DrainReason.isReaders : DrainReason → Bool
  | .peerClosed | .readFailure _ => true
  | _ => false

/-- What an act brings to the transport; an empty chunk is nothing. -/
def Act.arrives? : Act M → Option Inbound
  | .play (.arrive (.chunk [])) => none
  | .play (.arrive item) => some item
  | _ => none

/-- What arrives in a run. -/
def arrivals (acts : List (Act M)) : List Inbound :=
  acts.filterMap Act.arrives?

/-- The bytes that arrive; the end of a stream and a fault bring none. -/
def Inbound.content : Inbound → Bytes
  | .chunk bytes => bytes
  | .finish | .fault _ => []

/-- The bytes that arrive in a run, however they are cut into chunks. -/
def arrived (acts : List (Act M)) : Bytes :=
  ((arrivals acts).map Inbound.content).flatten

/-- The payload that an event says was read. -/
def Event.payload? : Event M → Option Bytes
  | .received payload => some payload
  | _ => none

/-- The reason that an event gives for draining. -/
def Event.reason? : Event M → Option DrainReason
  | .draining reason => some reason
  | _ => none

/-- The payloads that have been read, in order. -/
def readings (history : List (Event M)) : List Bytes :=
  (history.filterMap Event.payload?).reverse

/-- The reasons that have been given for draining, in order. -/
def reasons (history : List (Event M)) : List DrainReason :=
  (history.filterMap Event.reason?).reverse

/-- The number of bytes of frames with these payloads. -/
def Wiring.volume (wiring : Wiring M) (payloads : List Bytes) : Nat :=
  (payloads.map fun payload => wiring.framing.size + payload.length).sum

theorem arrivals_cons (act : Act M) (acts : List (Act M)) :
    arrivals (act :: acts) = act.arrives?.toList ++ arrivals acts := by
  rw [arrivals, List.filterMap_cons, arrivals]
  cases act.arrives? <;> rfl

theorem readings_append (new history : List (Event M)) :
    readings (new ++ history) = readings history ++ readings new := by
  rw [readings, List.filterMap_append, List.reverse_append, readings, readings]

theorem reasons_append (new history : List (Event M)) :
    reasons (new ++ history) = reasons history ++ reasons new := by
  rw [reasons, List.filterMap_append, List.reverse_append, reasons, reasons]

theorem mem_reasons {history : List (Event M)} {reason : DrainReason} :
    reason ∈ reasons history ↔ .draining reason ∈ history := by
  rw [reasons, List.mem_reverse, List.mem_filterMap]
  constructor
  · rintro ⟨event, member, given⟩
    cases event with
    | draining other =>
      cases given
      exact member
    | _ => cases given
  · exact fun member => ⟨_, member, rfl⟩

/-- The event says nothing about frames read or reasons to drain. -/
def Event.isAside (event : Event M) : Bool :=
  event.payload?.isNone && event.reason?.isNone

theorem readings_of_aside (new : List (Event M)) (quiet : ∀ event ∈ new, event.isAside = true) :
    readings new = [] ∧ reasons new = [] := by
  rw [readings, reasons, List.reverse_eq_nil_iff, List.reverse_eq_nil_iff,
    List.filterMap_eq_nil_iff, List.filterMap_eq_nil_iff]
  constructor <;> intro event member <;> have aside := quiet event member <;>
    simp only [Event.isAside, Bool.and_eq_true, Option.isNone_iff_eq_none] at aside
  · exact aside.1
  · exact aside.2

theorem Remarks.aside {remarks : List (Event M)} (only : Remarks remarks) :
    ∀ event ∈ remarks, event.isAside = true := by
  intro event member
  have remark := only event member
  cases event <;> first | rfl | cases remark

namespace Link

/-- The frames that a link has read, what it made of them, and why it drains. -/
structure Tally where
  readings : List Bytes
  reasons : List DrainReason
  /-- The number of messages that were handed over or counted as unmatched. -/
  messages : Nat
  /-- The number of bytes that were counted. -/
  bytes : Nat

def tally (link : Link M) : Tally where
  readings := Multiplex.readings link.history
  reasons := Multiplex.reasons link.history
  messages := link.stats.repliesMatched + link.stats.unmatched
  bytes := link.stats.bytesReceived

variable {wiring : Wiring M} {act : Act M} {acts : List (Act M)} {link next final : Link M}

theorem tally_of_aside (new : List (Event M)) (history : next.history = new ++ link.history)
    (quiet : ∀ event ∈ new, event.isAside = true)
    (messages : next.stats.repliesMatched + next.stats.unmatched =
      link.stats.repliesMatched + link.stats.unmatched)
    (bytes : next.stats.bytesReceived = link.stats.bytesReceived) : next.tally = link.tally := by
  obtain ⟨none, none'⟩ := readings_of_aside new quiet
  rw [tally, history, readings_append, reasons_append, none, none', messages, bytes,
    List.append_nil, List.append_nil, tally]

theorem ReadNothing.readings_eq (silent : link.ReadNothing next) :
    readings next.history = readings link.history := by
  obtain ⟨new, history, silent⟩ := silent
  have none : readings new = [] := by
    rw [readings, List.reverse_eq_nil_iff, List.filterMap_eq_nil_iff]
    intro event member
    cases event with
    | received payload => exact absurd member (silent payload)
    | _ => rfl
  rw [history, readings_append, none, List.append_nil]

/-! ## The reader's functions -/

/-- The reader has ended for a reason, and the link with it. -/
structure Quits (link next : Link M) (reason : DrainReason) : Prop where
  tally : next.tally = { link.tally with reasons := link.tally.reasons ++ [reason] }
  reader : next.reader = .ended none
  inactive : next.phase ≠ .active

theorem drain_tally (active : link.phase = .active) (reason : DrainReason) :
    (link.drain reason).tally =
      { link.tally with reasons := link.tally.reasons ++ [reason] } := by
  obtain ⟨told, remarks, only, eq⟩ := drain_of_active active reason
  obtain ⟨none, none'⟩ := readings_of_aside remarks only.aside
  rw [eq, tally, tally]
  dsimp only
  rw [List.append_cons, readings_append, reasons_append, readings_append, reasons_append, none,
    none', List.append_nil, List.append_nil]
  simp [readings, reasons, Event.payload?, Event.reason?]

theorem quits_stopReading (active : link.phase = .active) (reason : DrainReason) :
    Quits link (link.stopReading (some reason)) reason := by
  refine ⟨?_, rfl, drain_phase_ne_active link reason⟩
  rw [← drain_tally active]
  exact tally_of_aside [.readerExited] rfl (by simp [Event.isAside, Event.payload?, Event.reason?])
    rfl rfl

theorem quits_failReading (active : link.phase = .active) (error : LinkError) :
    Quits link (link.failReading error) (.readFailure error) := by
  have noted : (link.note (.readerFailed error)).tally = link.tally :=
    tally_of_aside [.readerFailed error] rfl
      (by simp [Event.isAside, Event.payload?, Event.reason?]) rfl rfl
  have active : (link.note (.readerFailed error)).phase = .active := active
  obtain ⟨tally, reader, inactive⟩ := quits_stopReading active (.readFailure error)
  exact ⟨noted ▸ tally, reader, inactive⟩

theorem deliver_tally (wiring : Wiring M) (link : Link M) (message : M) :
    (deliver wiring link message).tally =
        { link.tally with messages := link.tally.messages + 1 } ∧
      (deliver wiring link message).phase = link.phase ∧
      (deliver wiring link message).reader = link.reader ∧
      (deliver wiring link message).transport = link.transport := by
  have counted {next : Link M} (new : List (Event M)) (history : next.history = new ++ link.history)
      (quiet : ∀ event ∈ new, event.isAside = true)
      (messages : next.stats.repliesMatched + next.stats.unmatched =
        link.stats.repliesMatched + link.stats.unmatched + 1)
      (bytes : next.stats.bytesReceived = link.stats.bytesReceived) :
      next.tally = { link.tally with messages := link.tally.messages + 1 } := by
    obtain ⟨none, none'⟩ := readings_of_aside new quiet
    rw [tally, history, readings_append, reasons_append, none, none', messages, bytes,
      List.append_nil, List.append_nil, tally]
  have step := delivers wiring link message
  generalize deliver wiring link message = next at step ⊢
  cases step with
  | unclaimed _ only | late _ _ _ only =>
    exact ⟨counted _ rfl only.aside rfl rfl, rfl, rfl, rfl⟩
  | @claimed key ticket =>
    exact ⟨counted [.delivered ticket key] rfl
      (by simp [Event.isAside, Event.payload?, Event.reason?]) (Nat.succ_add _ _) rfl,
      rfl, rfl, rfl⟩

theorem readings_of_dispatch (wiring : Wiring M) (link : Link M) (rest payload : Bytes) :
    readings (dispatch wiring link rest payload).history = readings link.history ++ [payload] := by
  obtain ⟨new, history, silent⟩ := dispatch_history wiring link rest payload
  have later : ReadNothing { link with history := .received payload :: link.history }
      (dispatch wiring link rest payload) := ⟨new, history, silent⟩
  exact later.readings_eq.trans (readings_append [.received payload] link.history)

/-! ## What is left of a stream -/

/-- The link drains for a reason that is not its reader's, or its reader has crashed in a poisoned
transport. -/
def Spoiled (link : Link M) : Prop :=
  (∃ reason, .draining reason ∈ link.history ∧ reason.isReaders = false) ∨
    (link.transport.poisoned = true ∧ ∃ text, link.reader = .ended (some text))

/-- Where a link stands that reads a stream, of which `later` is still to arrive. -/
inductive Streams (wiring : Wiring M) (stream : Bytes) (ending : StreamEnd) (later : List Inbound)
    (link : Link M) : Prop
  /-- The reader holds the first bytes of a frame, and what is left parses as the rest of the
  stream. -/
  | reads {buffer raw : Bytes} {part : Part} {chunks : List Bytes} {left : StreamEnd}
      (active : link.phase = .active) (reader : link.reader = .running buffer part)
      (holds : Holds wiring part raw)
      (inbound : link.transport.inbound ++ later = chunks.map .chunk ++ left.items)
      (onward : ∀ payloads stop, Parses wiring (raw ++ buffer ++ chunks.flatten) payloads stop →
        Parses wiring stream (link.tally.readings ++ payloads) stop ∧
          stop.verdict left = stop.verdict ending)
      (reasons : link.tally.reasons = [])
      (messages : link.tally.messages = link.tally.readings.length)
      (bytes : link.tally.bytes = wiring.volume link.tally.readings)
  /-- The reader has ended for the reason that the stream gives. -/
  | ended {payloads : List Bytes} {stop : Stop} {reason : DrainReason}
      (inactive : link.phase ≠ .active) (reader : link.reader = .ended none)
      (parse : Parses wiring stream payloads stop)
      (readings : link.tally.readings = payloads ++ stop.last)
      (verdict : stop.verdict ending = some reason) (reasons : link.tally.reasons = [reason])
      (messages : link.tally.messages = payloads.length)
      (bytes : link.tally.bytes = wiring.volume link.tally.readings)
  /-- The reader has crashed on a payload. -/
  | crashed {payloads : List Bytes} {payload : Bytes} {text : String}
      (reader : link.reader = .ended (some text))
      (parse : Parses wiring stream payloads (.crashed payload text))

variable {stream : Bytes} {ending left : StreamEnd} {later : List Inbound} {chunks : List Bytes}

theorem streams_fresh (arrived : later = chunks.map .chunk ++ ending.items) :
    Streams wiring chunks.flatten ending later (fresh : Link M) := by
  refine .reads rfl rfl .boundary arrived ?_ rfl rfl rfl
  intro payloads stop parse
  exact ⟨parse, rfl⟩

theorem Streams.of_quits {reason : DrainReason} {stop : Stop} (quits : Quits link next reason)
    (parse : Parses wiring stream link.tally.readings stop) (none : stop.last = [])
    (verdict : stop.verdict ending = some reason) (reasons : link.tally.reasons = [])
    (messages : link.tally.messages = link.tally.readings.length)
    (bytes : link.tally.bytes = wiring.volume link.tally.readings) :
    Streams wiring stream ending later next := by
  obtain ⟨tally, reader, inactive⟩ := quits
  refine .ended inactive reader parse ?_ verdict ?_ ?_ ?_
  · rw [tally, none, List.append_nil]
  · rw [tally, reasons, List.nil_append]
  · rw [tally, messages]
  · rw [tally, bytes]

/-- Taking what arrives next. -/
theorem streams_receive {raw : Bytes} {part : Part} {item : Inbound} {rest : List Inbound}
    (sized : 0 < wiring.framing.size) (active : link.phase = .active)
    (reader : link.reader = .running [] part) (holds : Holds wiring part raw)
    (inbound : item :: rest ++ later = chunks.map .chunk ++ left.items)
    (onward : ∀ payloads stop, Parses wiring (raw ++ chunks.flatten) payloads stop →
      Parses wiring stream (link.tally.readings ++ payloads) stop ∧
        stop.verdict left = stop.verdict ending)
    (reasons : link.tally.reasons = [])
    (messages : link.tally.messages = link.tally.readings.length)
    (bytes : link.tally.bytes = wiring.volume link.tally.readings) :
    Streams wiring stream ending later (receive wiring link part rest item) := by
  cases chunks with
  | cons chunk more =>
    rw [List.map_cons, List.cons_append, List.cons_append, List.cons.injEq] at inbound
    obtain ⟨rfl, inbound⟩ := inbound
    rw [List.flatten_cons] at onward
    unfold receive
    dsimp only
    split
    · next fits =>
      refine .reads active rfl holds inbound ?_ reasons messages bytes
      rw [List.take_of_length_le fits, List.append_assoc]
      exact onward
    -- what does not fit into the buffer stays behind as a chunk of its own
    · have inbound' : .chunk (chunk.drop (max wiring.config.readBufferSize 1)) :: rest ++ later =
          (chunk.drop (max wiring.config.readBufferSize 1) :: more).map .chunk ++ left.items := by
        rw [List.map_cons, List.cons_append, List.cons_append, inbound]
      refine .reads active rfl holds inbound' ?_ reasons messages bytes
      rw [List.flatten_cons, List.append_assoc, ← List.append_assoc (chunk.take _),
        List.take_append_drop]
      exact onward
  | nil =>
    rw [List.map_nil, List.nil_append] at inbound
    obtain ⟨parse, verdict⟩ := onward [] part.stop
      (.stops (by rw [List.flatten_nil, List.append_nil]; exact holds.cut sized))
    rw [List.append_nil] at parse
    have none : part.stop.last = [] := by
      cases part <;> rfl
    have quit {base next : Link M} {reason : DrainReason} (quits : Quits base next reason)
        (same : base.tally = link.tally) (given : part.stop.verdict left = some reason) :
        Streams wiring stream ending later next := by
      rw [← same] at parse reasons messages bytes
      exact .of_quits quits parse none (verdict ▸ given) reasons messages bytes
    have fail (error : LinkError)
        (given : part.stop.verdict left = some (.readFailure error)) :
        Streams wiring stream ending later (failReading
          { link with transport := { link.transport with inbound := rest } } error) := by
      have active : ({ link with transport := { link.transport with inbound := rest } }).phase =
          .active := active
      exact quit (quits_failReading active error) rfl given
    cases left with
    | silence => cases inbound
    | finish =>
      rw [StreamEnd.items, List.cons_append, List.cons.injEq] at inbound
      obtain ⟨rfl, inbound⟩ := inbound
      cases part with
      | boundary =>
        have noted : ({ link with
            transport := { link.transport with inbound := rest } }.note .peerFinished).tally =
              link.tally :=
          tally_of_aside [.peerFinished] rfl
            (by simp [Event.isAside, Event.payload?, Event.reason?]) rfl rfl
        have active : ({ link with
            transport := { link.transport with inbound := rest } }.note .peerFinished).phase =
              .active := active
        exact quit (quits_stopReading active .peerClosed) noted rfl
      | header got => exact fail _ rfl
      | payload length missing got => exact fail _ rfl
    | fault error =>
      rw [StreamEnd.items, List.cons_append, List.cons.injEq] at inbound
      obtain ⟨rfl, inbound⟩ := inbound
      unfold receive
      dsimp only
      split
      -- an interruption is forgotten, and it was the last thing to arrive
      · next again =>
        rw [Bool.and_eq_true, decide_eq_true_eq] at again
        have inbound : rest ++ later = [].map .chunk ++ StreamEnd.silence.items := inbound
        refine .reads active reader holds inbound ?_ reasons messages bytes
        intro payloads stop parse'
        obtain ⟨rfl, rfl⟩ := parse'.unique (.stops (by simpa using holds.cut sized))
        have waits : part.stop.verdict (.fault error) = .none := by
          cases part with
          | boundary => exact absurd rfl again.2
          | header got => exact if_pos again.1
          | payload length missing got => exact if_pos again.1
        rw [List.append_nil]
        refine ⟨parse, ?_⟩
        rw [← verdict, waits]
        cases part <;> rfl
      · next breaks =>
        refine fail _ ?_
        cases part with
        | boundary => rfl
        | header got => exact if_neg (by simpa using breaks)
        | payload length missing got => exact if_neg (by simpa using breaks)

/-- A complete payload is the next thing in the stream. -/
theorem streams_dispatch {bytes payload rest : Bytes} (active : link.phase = .active)
    (inbound : link.transport.inbound ++ later = chunks.map .chunk ++ left.items)
    (cut : wiring.cut bytes = wiring.open payload (rest ++ chunks.flatten))
    (onward : ∀ payloads stop, Parses wiring bytes payloads stop →
      Parses wiring stream (link.tally.readings ++ payloads) stop ∧
        stop.verdict left = stop.verdict ending)
    (reasons : link.tally.reasons = [])
    (messages : link.tally.messages = link.tally.readings.length)
    (volume : link.tally.bytes = wiring.volume link.tally.readings) :
    Streams wiring stream ending later (dispatch wiring link rest payload) := by
  obtain ⟨read, eq⟩ : ∃ read : Link M, { link with
      stats := link.stats.readFrame wiring.framing payload.length
      reader := .running rest .boundary
      history := .received payload :: link.history } = read := ⟨_, rfl⟩
  have tally : read.tally = { link.tally with
      readings := link.tally.readings ++ [payload]
      bytes := link.tally.bytes + (wiring.framing.size + payload.length) } := by
    have readings := readings_append [.received payload] link.history
    have reasons := reasons_append [.received payload] link.history
    rw [← eq, Link.tally, Link.tally, ← Nat.add_assoc]
    exact congrArg₂ (fun readings reasons => Tally.mk readings reasons _ _) readings
      (reasons.trans (List.append_nil _))
  have counted : read.tally.bytes = wiring.volume read.tally.readings := by
    rw [tally, volume]
    simp [Wiring.volume]
  have active' : read.phase = .active := by
    rw [← eq]
    exact active
  have inbound' : read.transport.inbound ++ later = chunks.map .chunk ++ left.items := by
    rw [← eq]
    exact inbound
  have reader' : read.reader = .running rest .boundary := by rw [← eq]
  unfold dispatch
  cases unpacked : wiring.codec.unpack payload with
  | message message =>
    show Streams wiring stream ending later (deliver wiring _ message)
    obtain ⟨delivered, phase, reader, transport⟩ := deliver_tally wiring read message
    rw [← transport] at inbound'
    have opens : wiring.cut bytes = .frame payload (rest ++ chunks.flatten) := by
      rw [cut, Wiring.open, unpacked]
    have step : Streams wiring stream ending later (deliver wiring read message) := by
      refine .reads (phase.trans active') (reader.trans reader') .boundary inbound' ?_ ?_ ?_ ?_
      · intro payloads stop parse
        rw [delivered, tally]
        dsimp only
        rw [List.append_assoc, List.singleton_append]
        exact onward _ stop (.frame opens parse)
      · rw [delivered, tally]
        exact reasons
      · rw [delivered, tally]
        simp [messages]
      · rw [delivered]
        exact counted
    rw [← eq] at step
    exact step
  | refused fault =>
    show Streams wiring stream ending later (failReading _ (.undecodable fault))
    have opens : wiring.cut bytes = .stops (.refused payload fault) := by
      rw [cut, Wiring.open, unpacked]
    obtain ⟨parse, -⟩ := onward [] _ (.stops opens)
    rw [List.append_nil] at parse
    obtain ⟨quit, reader, inactive⟩ := quits_failReading active' (.undecodable fault)
    have step : Streams wiring stream ending later (read.failReading (.undecodable fault)) := by
      refine .ended inactive reader parse ?_ rfl ?_ ?_ ?_
      · rw [quit, tally, Stop.last]
      · rw [quit, tally, reasons, List.nil_append]
      · rw [quit, tally]
        exact messages
      · rw [quit]
        exact counted
    rw [← eq] at step
    exact step
  | crashed text =>
    have opens : wiring.cut bytes = .stops (.crashed payload text) := by
      rw [cut, Wiring.open, unpacked]
    exact .crashed rfl (onward [] _ (.stops opens)).1

/-- A step of the reader. -/
theorem Streams.read (sized : 0 < wiring.framing.size) (synced : link.Synced)
    (streams : Streams wiring stream ending later link)
    (moved : readStep? wiring link = some next) :
    Streams wiring stream ending later next ∨ next.Spoiled := by
  have step := readsOn_of_readStep? synced moved
  cases streams with
  | ended _ reader | crashed reader =>
    cases step with
    | stops running | crashes running | receives running | consumes running =>
      rw [reader] at running
      cases running
  | @reads buffer raw part chunks left active reader holds inbound onward reasons messages
      volume =>
    cases step with
    | stops _ inactive => exact absurd active inactive
    | crashes _ _ poisoned => exact .inr (.inr ⟨poisoned, _, rfl⟩)
    | receives running _ arrived =>
      cases reader.symm.trans running
      rw [List.append_nil] at onward
      rw [arrived] at inbound
      exact .inl (streams_receive sized active reader holds inbound onward reasons messages
        volume)
    | consumes running _ filled =>
      cases reader.symm.trans running
      have consumed := consumes link filled sized holds
      generalize consume wiring link buffer part = next at consumed ⊢
      cases consumed with
      | @goesOn part' raw' rest holds' split =>
        rw [← split] at onward
        exact .inl (.reads active rfl holds' inbound onward reasons messages volume)
      | @offends header rest fault split size offends =>
        rw [← split, List.append_assoc] at onward
        obtain ⟨parse, -⟩ := onward [] _ (.stops (Wiring.cut_offence sized size offends))
        rw [List.append_nil] at parse
        exact .inl (.of_quits (quits_failReading active _) parse rfl rfl reasons messages volume)
      | @frame header payload rest split announces =>
        rw [← split, List.append_assoc, List.append_assoc] at onward
        exact .inl (streams_dispatch active inbound (announces.cut_frame sized) onward reasons
          messages volume)

/-! ## What the others do meanwhile -/

theorem Spoiled.change (change : Change wiring act link next) (sound : link.Sound)
    (spoiled : link.Spoiled) : next.Spoiled := by
  rcases spoiled with ⟨reason, member, other⟩ | ⟨poisoned, text, crashed⟩
  · exact .inl ⟨reason, (Grows.of_change change sound.owned).mem_history member, other⟩
  · right
    cases change with
    | read running | endReading _ running | crashReading running =>
      rw [crashed] at running
      cases running
    | aside _ _ same => exact ⟨same.trans poisoned, text, crashed⟩
    | crashWriting | crashClosing => exact ⟨rfl, text, crashed⟩
    | _ => exact ⟨poisoned, text, crashed⟩

/-- The reader is where it was, and what it has made of its stream is the same. -/
structure Untouched (link next : Link M) : Prop where
  tally : next.tally = link.tally
  reader : next.reader = link.reader
  active : next.phase = .active ↔ link.phase = .active

theorem Untouched.refl (link : Link M) : link.Untouched link :=
  ⟨rfl, rfl, Iff.rfl⟩

theorem Untouched.trans (first : link.Untouched next) (second : next.Untouched final) :
    link.Untouched final :=
  ⟨second.tally.trans first.tally, second.reader.trans first.reader,
    second.active.trans first.active⟩

/-- Nobody but the reader reads, and nobody else gives its reasons. -/
theorem untouched_of_change (change : Change wiring act link next) (other : act ≠ .read) :
    link.Untouched next ∨ next.Spoiled := by
  have quiet (new : List (Event M)) (history : next.history = new ++ link.history)
      (aside : ∀ event ∈ new, event.isAside = true)
      (messages : next.stats.repliesMatched + next.stats.unmatched =
        link.stats.repliesMatched + link.stats.unmatched)
      (bytes : next.stats.bytesReceived = link.stats.bytesReceived)
      (reader : next.reader = link.reader) (phase : next.phase = link.phase) :
      link.Untouched next ∨ next.Spoiled :=
    .inl ⟨tally_of_aside new history aside messages bytes, reader, by rw [phase]⟩
  cases change with
  | aside only => exact quiet _ rfl only.aside rfl rfl rfl rfl
  | @drain reason active cause =>
    refine .inr (.inl ⟨reason, List.mem_cons_self, ?_⟩)
    cases cause with
    | finished asked | unreadable asked => exact absurd asked other
    | closed | released | unwritable | exited => rfl
  | closeDown draining =>
    refine .inl ⟨rfl, rfl, ?_⟩
    rw [draining]
    simp
  | read | undecoded | unclaimed | claimed | late | endReading => exact absurd (by assumption) other
  | crashReading _ _ asked => exact .inr (.inr ⟨asked.resolve_left other, _, rfl⟩)
  | skip =>
    exact quiet [_, _] rfl (by simp [Event.isAside, Event.payload?, Event.reason?]) rfl rfl rfl rfl
  | issue | send | reject | enqueue | finish | conclude | refuse | register | sent | fail =>
    exact quiet [_] rfl (by simp [Event.isAside, Event.payload?, Event.reason?]) rfl rfl rfl rfl
  | _ => exact quiet [] rfl (by simp) rfl rfl rfl rfl

/-- What arrives comes last, and only the reader takes it. -/
theorem inbound_of_act (sound : link.Sound) (moved : act? wiring link act = some next)
    (other : act ≠ .read) :
    next.transport.inbound = link.transport.inbound ++ act.arrives?.toList := by
  by_cases arrives : ∃ item, act = .play (.arrive item)
  · obtain ⟨item, rfl⟩ := arrives
    cases moved
    simp only [play, arrive]
    split
    · rw [Act.arrives?, Option.toList_none, List.append_nil]
    · next filled =>
      have given : (Act.play (.arrive item) : Act M).arrives? = some item := by
        unfold Act.arrives?
        split
        · next empty =>
          cases empty
          exact absurd rfl filled
        · next same =>
          cases same
          rfl
        · next never => exact absurd rfl (never item)
      rw [given, Transport.arrive, Option.toList_some]
  · have none : act.arrives? = none := by
      unfold Act.arrives?
      split
      · rfl
      · exact absurd ⟨_, rfl⟩ arrives
      · rfl
    rw [none, Option.toList_none, List.append_nil]
    refine sound.keeps (motive := fun after =>
      after.transport.inbound = link.transport.inbound) ?_ moved rfl
    intro before after change _ same
    refine Eq.trans ?_ same
    cases change with
    | aside _ _ _ _ inbound => exact inbound other fun item asked => arrives ⟨item, asked⟩
    | _ => rfl

/-- Nobody else touches the reader, except that a crash may end it. -/
theorem reader_of_act (sound : link.Sound) (moved : act? wiring link act = some next)
    (other : act ≠ .read) : next.reader = link.reader ∨ next.reader.isEnded = true := by
  refine sound.keeps (motive := fun after =>
    after.reader = link.reader ∨ after.reader.isEnded = true) ?_ moved (.inl rfl)
  intro before after change _ same
  cases change with
  | read _ asked | endReading _ _ asked => exact absurd asked other
  | crashReading => exact .inr rfl
  | _ => exact same

theorem Streams.elsewhere (sound : link.Sound) (moved : act? wiring link act = some next)
    (other : act ≠ .read)
    (streams : Streams wiring stream ending (act.arrives?.toList ++ later) link) :
    Streams wiring stream ending later next ∨ next.Spoiled := by
  have kept : link.Untouched next ∨ next.Spoiled := by
    refine sound.keeps (motive := fun after => link.Untouched after ∨ after.Spoiled) ?_ moved
      (.inl (.refl link))
    intro before after change sound so_far
    rcases so_far with untouched | spoiled
    · exact (untouched_of_change change other).imp_left untouched.trans
    · exact .inr (spoiled.change change sound)
  refine kept.imp_left fun untouched => ?_
  obtain ⟨tally, reader, phase⟩ := untouched
  cases streams with
  | reads active running holds inbound onward reasons messages bytes =>
    rw [← List.append_assoc, ← inbound_of_act sound moved other] at inbound
    rw [← tally] at onward reasons messages bytes
    exact .reads (phase.2 active) (reader.trans running) holds inbound onward reasons messages bytes
  | ended inactive ended parse readings verdict reasons messages bytes =>
    rw [← tally] at readings reasons messages bytes
    exact .ended (fun active => inactive (phase.1 active)) (reader.trans ended) parse readings
      verdict reasons messages bytes
  | crashed ended parse => exact .crashed (reader.trans ended) parse

/-! ## Runs -/

theorem Streams.after (sized : 0 < wiring.framing.size) (sound : link.Sound)
    (moved : act? wiring link act = some next)
    (streams : Streams wiring stream ending (act.arrives?.toList ++ later) link) :
    Streams wiring stream ending later next ∨ next.Spoiled := by
  by_cases reads : act = .read
  · subst reads
    exact streams.read sized sound.phased.synced moved
  · exact streams.elsewhere sound moved reads

theorem Streams.follow (sized : 0 < wiring.framing.size) (sound : link.Sound)
    (run : follow? wiring link acts = some final)
    (streams : Streams wiring stream ending (arrivals acts) link) :
    Streams wiring stream ending [] final ∨ final.Spoiled := by
  induction acts generalizing link with
  | nil =>
    cases run
    exact .inl streams
  | cons act rest ih =>
    obtain ⟨next, moved, run⟩ := follow?_cons.1 run
    rw [arrivals_cons] at streams
    rcases streams.after sized sound moved with streams | spoiled
    · exact ih (sound.after moved) run streams
    · refine .inr ((sound.after moved).follow_keeps (motive := Spoiled) ?_ run spoiled)
      intro act link next change sound spoiled
      exact spoiled.change change sound

theorem streams_of_run (sized : 0 < wiring.framing.size)
    (run : follow? wiring fresh acts = some link)
    (arrived : arrivals acts = chunks.map .chunk ++ ending.items) :
    Streams wiring chunks.flatten ending [] link ∨ link.Spoiled :=
  (streams_fresh arrived).follow sized sound_fresh run

/-- The reader has made of its stream what there is to make of it. -/
structure Interpreted (wiring : Wiring M) (link : Link M) (payloads : List Bytes) (stop : Stop)
    (ending : StreamEnd) : Prop where
  readings : readings link.history = payloads ++ stop.last
  messages : link.stats.repliesMatched + link.stats.unmatched = payloads.length
  bytes : link.stats.bytesReceived = wiring.volume (payloads ++ stop.last)
  reasons : reasons link.history = (stop.verdict ending).toList
  /-- The reader waits for more exactly if there is no reason to drain. -/
  active : link.phase = .active ↔ stop.verdict ending = none
  waits : link.reader.isEnded = false ↔ stop.verdict ending = none

/-- A reader that can take no step, and has not crashed, has made of its stream what there is to
make of it. -/
theorem Streams.interpreted (sized : 0 < wiring.framing.size) (synced : link.Synced)
    (streams : Streams wiring stream ending [] link)
    (calm : ∀ text, link.reader ≠ .ended (some text)) (idle : act? wiring link .read = none) :
    ∃ payloads stop, Parses wiring stream payloads stop ∧
      Interpreted wiring link payloads stop ending := by
  cases streams with
  | crashed reader => exact absurd reader (calm _)
  | @ended payloads stop reason inactive reader parse read verdict reasons messages bytes =>
    refine ⟨payloads, stop, parse, read, messages, read ▸ bytes, ?_, ?_, ?_⟩
    · rw [verdict]
      exact reasons
    · simp [inactive, verdict]
    · simp [reader, Reader.isEnded, verdict]
  | @reads buffer raw part chunks left active reader holds inbound onward reasons messages bytes =>
    -- its buffer is empty and nothing more has arrived
    rw [List.append_nil] at inbound
    simp only [act?, readStep?, reader, synced.unasked_iff.2 active, Bool.false_eq_true,
      if_false] at idle
    split at idle
    · next empty =>
      rw [List.isEmpty_iff] at empty
      subst empty
      split at idle
      · next none =>
        rw [none] at inbound
        obtain ⟨nothing, silent⟩ := List.append_eq_nil_iff.1 inbound.symm
        rw [List.map_eq_nil_iff] at nothing
        subst nothing
        have silent : left = .silence := by
          cases left with
          | silence => rfl
          | finish | fault => cases silent
        subst silent
        rw [List.append_nil, List.flatten_nil, List.append_nil] at onward
        obtain ⟨parse, verdict⟩ := onward [] part.stop (.stops (holds.cut sized))
        rw [List.append_nil] at parse
        have waits : part.stop.verdict ending = .none := by
          rw [← verdict]
          cases part <;> rfl
        have last : part.stop.last = [] := by
          cases part <;> rfl
        refine ⟨_, part.stop, parse, ?_, messages, ?_, ?_, ?_, ?_⟩
        · rw [last, List.append_nil]
          rfl
        · rw [last, List.append_nil]
          exact bytes
        · rw [waits]
          exact reasons
        · simp [active, waits]
        · simp [reader, Reader.isEnded, waits]
      · split at idle <;> cases idle
    · cases idle

/-- What has been read is the beginning of what there is to read. -/
theorem Streams.readings_prefix (sized : 0 < wiring.framing.size)
    (streams : Streams wiring stream ending later link)
    (calm : ∀ text, link.reader ≠ .ended (some text)) {payloads : List Bytes} {stop : Stop}
    (parse : Parses wiring stream payloads stop) :
    readings link.history <+: payloads ++ stop.last := by
  cases streams with
  | crashed reader => exact absurd reader (calm _)
  | ended _ _ parse' read =>
    obtain ⟨rfl, rfl⟩ := parse'.unique parse
    exact ⟨[], by rw [← read, List.append_nil]; rfl⟩
  | @reads buffer raw part chunks left active reader holds inbound onward =>
    obtain ⟨rest, stop', later⟩ := parses_total sized (raw ++ buffer ++ chunks.flatten)
    obtain ⟨rfl, rfl⟩ := (onward rest stop' later).1.unique parse
    rw [List.append_assoc]
    exact List.prefix_append _ _

/-- Whatever else happens, and however the stream is cut into chunks: a reader that does not crash,
on a link that nobody else drains, reads the payloads of the frames at the front of its stream, in
order and each once. When it has nothing left to do, it has read all of them up to the first
offence, and the link drains for the reason that the stream gives, or waits. -/
theorem stream_of_run (sized : 0 < wiring.framing.size)
    (run : follow? wiring fresh acts = some link)
    (arrived : arrivals acts = chunks.map .chunk ++ ending.items)
    (alone : ∀ reason ∈ reasons link.history, reason.isReaders = true)
    (calm : ∀ text, link.reader ≠ .ended (some text)) :
    ∃ payloads stop, Parses wiring chunks.flatten payloads stop ∧
      readings link.history <+: payloads ++ stop.last ∧
      (act? wiring link .read = none → Interpreted wiring link payloads stop ending) := by
  have unspoiled : ¬link.Spoiled := by
    rintro (⟨reason, member, other⟩ | ⟨-, text, crashed⟩)
    · rw [alone reason (mem_reasons.2 member)] at other
      cases other
    · exact calm text crashed
  have streams := (streams_of_run sized run arrived).resolve_right unspoiled
  obtain ⟨payloads, stop, parse⟩ := parses_total sized chunks.flatten
  refine ⟨payloads, stop, parse, streams.readings_prefix sized calm parse, fun idle => ?_⟩
  obtain ⟨payloads', stop', parse', interpreted⟩ := streams.interpreted sized
    (sound_of_run run).phased.synced calm idle
  obtain ⟨rfl, rfl⟩ := parse.unique parse'
  exact interpreted

/-! ## A stream with an offence -/

section Offence

open Rehearsal

/-- A frame, a header that cannot be read, and one more byte arrive, cut in two. -/
def offenceRun : List (Act Scripted) :=
  [.play (.arrive (.chunk [0, 4, 0, 0, 48, 50])), .read, .read,
    .play (.arrive (.chunk [48, 48, 0, 0, 1, 0, 9])), .play (.arrive .finish), .read, .read, .read,
    .read]

/-- Where the stream of that run stops. -/
def offenceStop : Stop :=
  .badLength (.badHeader [0, 0, 1, 0] "reserved bytes not zero")

theorem parses_offence :
    Parses scriptedWiring [0, 4, 0, 0, 48, 50, 48, 48, 0, 0, 1, 0, 9] [[48, 50, 48, 48]]
      offenceStop := by
  have first : scriptedWiring.cut [0, 4, 0, 0, 48, 50, 48, 48, 0, 0, 1, 0, 9] =
      .frame [48, 50, 48, 48] [0, 0, 1, 0, 9] := by decide +kernel
  exact .frame first (.stops (by decide +kernel))

theorem stream_of_run_offence :
    follow? scriptedWiring fresh offenceRun = some (scriptedLink offenceRun) ∧
      readings (scriptedLink offenceRun).history = [[48, 50, 48, 48]] ∧
      Interpreted scriptedWiring (scriptedLink offenceRun) [[48, 50, 48, 48]] offenceStop
        .finish := by
  have run : follow? scriptedWiring fresh offenceRun = some (scriptedLink offenceRun) :=
    follow?_scripted (by decide +kernel)
  have sized : 0 < scriptedWiring.framing.size := by decide
  have ended : (scriptedLink offenceRun).reader = .ended none := by decide +kernel
  have arrived : arrivals offenceRun =
      [[0, 4, 0, 0, 48, 50], [48, 48, 0, 0, 1, 0, 9]].map .chunk ++ StreamEnd.finish.items := rfl
  obtain ⟨payloads, stop, parse, -, interpreted⟩ := stream_of_run sized run arrived
    (by decide +kernel) (by rw [ended]; simp)
  obtain ⟨rfl, rfl⟩ := parse.unique parses_offence
  have idle : act? scriptedWiring (scriptedLink offenceRun) .read = none := by
    simp only [act?, readStep?, ended]
  exact ⟨run, (interpreted idle).readings, interpreted idle⟩

end Offence

/-! ## A read that is interrupted -/

section Interrupted

open Rehearsal

/-- The fault of a read that a signal interrupts. -/
def interruption : IoError :=
  .described .interrupted "sig"

/-- The first byte of a payload of eight arrives; then a read is interrupted. -/
def interruptedRun : List (Act Scripted) :=
  [.play (.arrive (.chunk [0, 8, 0, 0, 48])), .play (.arrive (.fault interruption)), .read, .read,
    .read, .read]

theorem interruptedLink_eq : (scriptedLink interruptedRun).phase = .active ∧
    (scriptedLink interruptedRun).reader = .running [] (.payload 8 7 [48]) ∧
    (scriptedLink interruptedRun).transport.inbound = [] ∧
    reasons (scriptedLink interruptedRun).history = [] := by
  decide +kernel

/-- Not every fault inside a payload makes a link drain, even if it is the last thing that arrives:
the reader tries an interrupted read again. -/
theorem interruption_retried : ¬∀ (acts : List (Act Scripted)) (link : Link Scripted)
    (chunks payloads : List Bytes) (length : Nat) (error : IoError),
    follow? scriptedWiring fresh acts = some link →
      arrivals acts = chunks.map .chunk ++ [.fault error] →
        Parses scriptedWiring chunks.flatten payloads (.payload length) →
          (∀ reason ∈ reasons link.history, reason.isReaders = true) →
            (∀ text, link.reader ≠ .ended (some text)) →
              act? scriptedWiring link .read = none →
                ∃ text, reasons link.history = [.readFailure (.framing text (some error))] := by
  intro breaks
  obtain ⟨active, reader, inbound, none⟩ := interruptedLink_eq
  have run : follow? scriptedWiring fresh interruptedRun = some (scriptedLink interruptedRun) :=
    follow?_scripted (by decide +kernel)
  have unasked := (sound_of_run run).phased.synced.unasked_iff.2 active
  have parse : Parses scriptedWiring [[0, 8, 0, 0, 48]].flatten [] (.payload 8) :=
    .stops (by decide +kernel)
  have idle : act? scriptedWiring (scriptedLink interruptedRun) .read = .none := by
    simp [act?, readStep?, reader, unasked, inbound]
  obtain ⟨text, given⟩ := breaks interruptedRun _ _ _ _ interruption run rfl parse (by simp [none])
    (by simp [reader]) idle
  rw [none] at given
  cases given

end Interrupted

end Link

end Multiplex
