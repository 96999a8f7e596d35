import Multiplex.Proofs.Frames
import Multiplex.Proofs.Handing
import Mathlib.Algebra.GroupWithZero.Nat

/-!
# What is on the wire

The bytes that a transport has accepted are pieces of frames, one for each request that the writer
has begun with, in the order in which the requests were handed over. Each piece is the beginning of
its frame, and the whole of it once the request counts as sent (`Link.Laid`). If a link drains when
a frame could not be written, every piece but the last is a whole frame, and nothing comes after a
piece that is broken off (`Link.Tidy`).

Main statement: `wire_of_run`.
-/

namespace Multiplex

variable {M : Type}

/-- The ticket and the length of a frame that an event says was sent. -/
def Event.sent? : Event M → Option (Ticket × Nat)
  | .sent ticket _ length => some (ticket, length)
  | _ => none

/-- The frames that have been sent, in order. -/
def sentLog (history : List (Event M)) : List (Ticket × Nat) :=
  (history.filterMap Event.sent?).reverse

/-- The writer has begun with the request of a ticket, and has not left it out. -/
def Begun (history : List (Event M)) (ticket : Ticket) : Prop :=
  (∃ key, .registered ticket key ∈ history) ∧ ∀ key, .skipped ticket key ∉ history

/-- The event has to do with the writer's queue and the frames that it writes. -/
def Event.isInk : Event M → Bool
  | .queued _ | .registered _ _ | .skipped _ _ | .sent _ _ _ => true
  | _ => false

/-- What is still to be written of a frame. -/
def Writer.unwritten : Writer → Bytes
  | .writing _ rest => rest
  | _ => []

theorem Begun.of_quiet {new history : List (Event M)} (quiet : ∀ event ∈ new, event.isInk = false)
    (ticket : Ticket) : Begun (new ++ history) ticket ↔ Begun history ticket := by
  have skip {event : Event M} (ink : event.isInk = true) :
      event ∈ new ++ history ↔ event ∈ history := by
    rw [List.mem_append, or_iff_right]
    intro member
    rw [quiet event member] at ink
    cases ink
  unfold Begun
  simp only [skip (show Event.isInk (.registered _ _) = true from rfl),
    skip (show Event.isInk (.skipped _ _) = true from rfl)]

theorem sentLog_append (new history : List (Event M)) :
    sentLog (new ++ history) = sentLog history ++ sentLog new := by
  rw [sentLog, List.filterMap_append, List.reverse_append, sentLog, sentLog]

/-- Events that say nothing about frames sent. -/
theorem sentLog_of_quiet (new : List (Event M)) (quiet : ∀ event ∈ new, event.sent? = none)
    (history : List (Event M)) : sentLog (new ++ history) = sentLog history := by
  have none : sentLog new = [] := by
    rw [sentLog, List.reverse_eq_nil_iff, List.filterMap_eq_nil_iff]
    exact quiet
  rw [sentLog_append, none, List.append_nil]

theorem Event.none_of_isInk {event : Event M} (quiet : event.isInk = false) :
    event.queued? = none ∧ event.sent? = none := by
  cases event with
  | queued | sent => cases quiet
  | _ => exact ⟨rfl, rfl⟩

theorem Remarks.quiet {remarks : List (Event M)} (only : Remarks remarks) :
    ∀ event ∈ remarks, event.isInk = false := by
  intro event member
  have remark := only event member
  cases event <;> first | rfl | cases remark

namespace Link

/-- The ticket and the length of the frame of a piece. -/
def entry (piece : Request × Bytes) : Ticket × Nat :=
  (piece.1.ticket, piece.1.frame.length)

/-- The pieces are what is on the wire, in order. -/
structure Laid (link : Link M) (pieces : List (Request × Bytes)) : Prop where
  wire : link.transport.wire = (pieces.map Prod.snd).flatten
  beginning : ∀ piece ∈ pieces, piece.2 <+: piece.1.frame
  order : (pieces.map (fun piece => piece.1.ticket) ++ link.queue.map Request.ticket).Sublist
    (handedOver link.history)
  begun : ∀ ticket, ticket ∈ pieces.map (fun piece => piece.1.ticket) ↔ Begun link.history ticket
  known : ∀ piece ∈ pieces, ∃ message, .prepared message piece.1 ∈ link.history
  sent : (sentLog link.history).Sublist (pieces.map entry)
  whole : ∀ piece ∈ pieces, piece.1.ticket ∈ (sentLog link.history).map Prod.fst →
    piece.2 = piece.1.frame
  count : link.stats.requestsSent = (sentLog link.history).length
  bytes : link.stats.bytesSent = ((sentLog link.history).map Prod.snd).sum
  working : ∀ request, link.writer.request? = some request → ∃ init written,
    pieces = init ++ [(request, written)] ∧ written ++ link.writer.unwritten = request.frame ∧
      (sentLog link.history).Sublist (init.map entry)
  skipped : ∀ ticket key, .skipped ticket key ∈ link.history →
    ∃ key, .registered ticket key ∈ link.history

variable {wiring : Wiring M} {act : Act M} {acts : List (Act M)} {link next final : Link M}
  {pieces : List (Request × Bytes)}

theorem laid_fresh : (fresh : Link M).Laid [] where
  wire := rfl
  beginning _ member := nomatch member
  order := List.Sublist.refl _
  begun ticket := by simp [fresh, Begun]
  known _ member := nomatch member
  sent := List.Sublist.refl _
  whole _ member := nomatch member
  count := rfl
  bytes := rfl
  working _ working := nomatch working
  skipped ticket key member := by simp [fresh] at member

/-- What a change makes of the pieces on the wire. -/
inductive Relaid (act : Act M) (link next : Link M) (pieces : List (Request × Bytes)) :
    List (Request × Bytes) → Prop
  | same : Relaid act link next pieces pieces
  /-- The writer begins with a request. -/
  | begins {request : Request} (asked : act = .write) (idle : link.writer = .idle)
      (active : link.phase = .active) (begun : next.writer.request? = some request) :
      Relaid act link next pieces (pieces ++ [(request, [])])
  /-- More is written of the last piece. -/
  | grows {init : List (Request × Bytes)} {request : Request} {written : Bytes} (more : Bytes)
      (asked : act = .write) (split : pieces = init ++ [(request, written)])
      (working : next.writer.request? = some request) :
      Relaid act link next pieces (init ++ [(request, written ++ more)])

theorem Laid.known_append (laid : link.Laid pieces) (new : List (Event M)) :
    ∀ piece ∈ pieces, ∃ message, .prepared message piece.1 ∈ new ++ link.history := by
  intro piece member
  obtain ⟨message, known⟩ := laid.known piece member
  exact ⟨message, List.mem_append_right _ known⟩

theorem Laid.skipped_append (laid : link.Laid pieces) (new : List (Event M))
    (none : ∀ ticket key, .skipped ticket key ∉ new) :
    ∀ ticket key, .skipped ticket key ∈ new ++ link.history →
      ∃ key, .registered ticket key ∈ new ++ link.history := by
  intro ticket key member
  obtain ⟨key, registered⟩ :=
    laid.skipped ticket key ((List.mem_append.1 member).resolve_left (none ticket key))
  exact ⟨key, List.mem_append_right _ registered⟩

/-- Nothing is handed over, begun with, left out or sent, and the writer does not go on. -/
theorem Laid.of_quiet (laid : link.Laid pieces) (new : List (Event M))
    (history : next.history = new ++ link.history) (quiet : ∀ event ∈ new, event.isInk = false)
    (wire : next.transport.wire = link.transport.wire)
    (queue : (next.queue.map Request.ticket).Sublist (link.queue.map Request.ticket))
    (count : next.stats.requestsSent = link.stats.requestsSent)
    (bytes : next.stats.bytesSent = link.stats.bytesSent)
    (writer : ∀ request, next.writer.request? = some request →
      link.writer.request? = some request ∧ next.writer.unwritten = link.writer.unwritten) :
    next.Laid pieces := by
  have log : sentLog next.history = sentLog link.history := by
    rw [history]
    exact sentLog_of_quiet new (fun event member => (Event.none_of_isInk (quiet event member)).2) _
  have handed : handedOver next.history = handedOver link.history := by
    rw [history]
    exact handedOver_of_quiet new
      (fun event member => (Event.none_of_isInk (quiet event member)).1) _
  have unskipped (ticket : Ticket) (key : String) : .skipped ticket key ∉ new :=
    fun recent => nomatch quiet _ recent
  constructor
  · exact wire.trans laid.wire
  · exact laid.beginning
  · rw [handed]
    exact ((List.Sublist.refl _).append queue).trans laid.order
  · intro ticket
    rw [laid.begun, history, Begun.of_quiet quiet]
  · rw [history]
    exact laid.known_append new
  · rw [log]
    exact laid.sent
  · rw [log]
    exact laid.whole
  · rw [count, laid.count, log]
  · rw [bytes, laid.bytes, log]
  · intro request working
    obtain ⟨before, same⟩ := writer request working
    rw [log, same]
    exact laid.working request before
  · rw [history]
    exact laid.skipped_append new unskipped

/-- Each request has one piece at most. -/
theorem Laid.nodup (laid : link.Laid pieces) (lined : link.Lined) :
    (pieces.map fun piece => piece.1.ticket).Nodup :=
  (List.nodup_append.1 (lined.once.sublist laid.order)).1

theorem Laid.accept {request : Request} {rest : Bytes} {count : Nat} (laid : link.Laid pieces)
    (lined : link.Lined) (writing : link.writer = .writing request rest) :
    ∃ init written, pieces = init ++ [(request, written)] ∧
      Laid { link with
        transport := link.transport.accept (rest.take count)
        writer := .writing request (rest.drop count) }
        (init ++ [(request, written ++ rest.take count)]) := by
  have nodup := laid.nodup lined
  obtain ⟨init, written, rfl, all, earlier⟩ :=
    laid.working request (by rw [writing, Writer.request?])
  rw [writing, Writer.unwritten] at all
  refine ⟨init, written, rfl, ?_⟩
  have before (piece : Request × Bytes) (member : piece ∈ init) :
      piece ∈ init ++ [(request, written)] := List.mem_append_left _ member
  -- the piece that grows has not been sent, as no other piece has its ticket
  have unsent : request.ticket ∉ (sentLog link.history).map Prod.fst := by
    intro sent
    have there := (earlier.map Prod.fst).subset sent
    simp only [List.map_map, List.mem_map, Function.comp_apply] at there
    obtain ⟨piece, member, same⟩ := there
    rw [List.map_append, List.nodup_append] at nodup
    exact nodup.2.2 piece.1.ticket (List.mem_map.2 ⟨piece, member, rfl⟩) request.ticket (by simp)
      same
  constructor
  · simp [Transport.accept, laid.wire]
  · intro piece member
    rcases List.mem_append.1 member with earlier | last
    · exact laid.beginning piece (before piece earlier)
    · rw [List.mem_singleton.1 last, ← all]
      exact (List.prefix_append_right_inj written).2 (List.take_prefix _ _)
  · simpa using laid.order
  · simpa using laid.begun
  · intro piece member
    rcases List.mem_append.1 member with earlier | last
    · exact laid.known piece (before piece earlier)
    · rw [List.mem_singleton.1 last]
      exact laid.known (request, written) (by simp)
  · simpa [entry] using laid.sent
  · intro piece member sent
    rcases List.mem_append.1 member with earlier | last
    · exact laid.whole piece (before piece earlier) sent
    · rw [List.mem_singleton.1 last] at sent
      exact absurd sent unsent
  · exact laid.count
  · exact laid.bytes
  · intro other working
    cases working
    refine ⟨init, _, rfl, ?_, earlier⟩
    rw [Writer.unwritten, List.append_assoc, List.take_append_drop]
    exact all
  · exact laid.skipped

/-- What has not been taken from the queue has no piece, and has not been sent. -/
theorem Laid.absent (laid : link.Laid pieces) (consistent : link.Consistent wiring)
    {ticket : Ticket} (waits : ticket ∈ link.unfiled) :
    ¬Begun link.history ticket ∧ (∀ key, .skipped ticket key ∉ link.history) ∧
      ticket ∉ (sentLog link.history).map Prod.fst := by
  have unbegun : ¬Begun link.history ticket := by
    rintro ⟨⟨key, registered⟩, -⟩
    exact consistent.recorded.unregistered waits registered
  refine ⟨unbegun, ?_, ?_⟩
  · intro key member
    obtain ⟨key, registered⟩ := laid.skipped ticket key member
    exact consistent.recorded.unregistered waits registered
  · intro sent
    apply unbegun
    rw [← laid.begun]
    have there := (laid.sent.map Prod.fst).subset sent
    rwa [List.map_map] at there

/-- The writer begins with the first request of the queue. -/
theorem Laid.register {request : Request} {rest : List Request} {table : Table}
    {exchanges : Exchanges M} (laid : link.Laid pieces) (consistent : link.Consistent wiring)
    (first : link.queue = request :: rest) :
    Laid { link with
      queue := rest
      table
      exchanges
      writer := .writing request request.frame
      history := .registered request.ticket request.key :: link.history }
      (pieces ++ [(request, [])]) := by
  obtain ⟨unbegun, unskipped, unsent⟩ := laid.absent consistent (unfiled_of_first first)
  have log : sentLog (.registered request.ticket request.key :: link.history) =
      sentLog link.history := sentLog_of_quiet [_] (by simp [Event.sent?]) _
  constructor
  · simp [laid.wire]
  · intro piece member
    rcases List.mem_append.1 member with earlier | last
    · exact laid.beginning piece earlier
    · rw [List.mem_singleton.1 last]
      exact List.nil_prefix
  · have handed : handedOver (.registered request.ticket request.key :: link.history) =
        handedOver link.history := handedOver_of_quiet [_] (by simp [Event.queued?]) _
    rw [handed]
    simpa [first] using laid.order
  · intro ticket
    rw [List.map_append, List.mem_append, laid.begun]
    constructor
    · rintro (⟨⟨key, registered⟩, kept⟩ | last)
      · exact ⟨⟨key, List.mem_cons_of_mem _ registered⟩, fun key => by simpa using kept key⟩
      · have own : ticket = request.ticket := by simpa using last
        subst own
        exact ⟨⟨_, List.mem_cons_self⟩, fun key => by simpa using unskipped key⟩
    · rintro ⟨⟨key, registered⟩, kept⟩
      rcases List.mem_cons.1 registered with new | old
      · cases new
        exact .inr (by simp)
      · exact .inl ⟨⟨key, old⟩, fun key member => kept key (List.mem_cons_of_mem _ member)⟩
  · intro piece member
    rcases List.mem_append.1 member with earlier | last
    · exact laid.known_append [_] piece earlier
    · obtain ⟨message, known⟩ :=
        consistent.recorded.carried (.queue (first ▸ List.mem_cons_self))
      rw [List.mem_singleton.1 last]
      exact ⟨message, List.mem_cons_of_mem _ known⟩
  · rw [log, List.map_append]
    exact laid.sent.trans (List.sublist_append_left _ _)
  · rw [log]
    intro piece member sent
    rcases List.mem_append.1 member with earlier | last
    · exact laid.whole piece earlier sent
    · rw [List.mem_singleton.1 last] at sent
      exact absurd sent unsent
  · rw [log]
    exact laid.count
  · rw [log]
    exact laid.bytes
  · intro other working
    cases working
    rw [log]
    exact ⟨pieces, [], rfl, rfl, laid.sent⟩
  · exact laid.skipped_append [_] (by simp)

/-- The first request of the queue is left out. -/
theorem Laid.skip {request : Request} {rest : List Request} {table : Table}
    {exchanges : Exchanges M} (laid : link.Laid pieces) (consistent : link.Consistent wiring)
    (idle : link.writer = .idle) (first : link.queue = request :: rest) :
    Laid { link with
      queue := rest
      table
      exchanges
      history := .skipped request.ticket request.key ::
        .registered request.ticket request.key :: link.history } pieces := by
  obtain ⟨unbegun, -, -⟩ := laid.absent consistent (unfiled_of_first first)
  have log : sentLog (.skipped request.ticket request.key ::
      .registered request.ticket request.key :: link.history) = sentLog link.history :=
    sentLog_of_quiet [_, _] (by simp [Event.sent?]) _
  constructor
  · exact laid.wire
  · exact laid.beginning
  · have handed : handedOver (.skipped request.ticket request.key ::
        .registered request.ticket request.key :: link.history) = handedOver link.history :=
      handedOver_of_quiet [_, _] (by simp [Event.queued?]) _
    rw [handed]
    refine List.Sublist.trans ?_ laid.order
    rw [first]
    exact (List.Sublist.refl _).append (List.sublist_cons_self _ _)
  · intro ticket
    rw [laid.begun]
    constructor
    · rintro ⟨⟨key, registered⟩, kept⟩
      have differs : ticket ≠ request.ticket := by
        rintro rfl
        exact unbegun ⟨⟨key, registered⟩, kept⟩
      refine ⟨⟨key, List.mem_cons_of_mem _ (List.mem_cons_of_mem _ registered)⟩, fun key => ?_⟩
      simpa [differs] using kept key
    · rintro ⟨⟨key, registered⟩, kept⟩
      have differs : ticket ≠ request.ticket := by
        rintro rfl
        exact kept _ List.mem_cons_self
      refine ⟨⟨key, by simpa [differs] using registered⟩, fun key member => kept key ?_⟩
      exact List.mem_cons_of_mem _ (List.mem_cons_of_mem _ member)
  · exact laid.known_append [_, _]
  · rw [log]
    exact laid.sent
  · rw [log]
    exact laid.whole
  · rw [log]
    exact laid.count
  · rw [log]
    exact laid.bytes
  · intro other working
    rw [idle] at working
    cases working
  · intro ticket key member
    rcases List.mem_cons.1 member with new | member
    · cases new
      exact ⟨_, List.mem_cons_of_mem _ List.mem_cons_self⟩
    · obtain ⟨key, registered⟩ := laid.skipped ticket key (by simpa using member)
      exact ⟨key, List.mem_cons_of_mem _ (List.mem_cons_of_mem _ registered)⟩

/-- The frame that is being flushed counts as sent. -/
theorem Laid.send {request : Request} (laid : link.Laid pieces) (lined : link.Lined)
    (flushing : link.writer = .flushing request) :
    Laid { link with
      writer := .idle
      stats :=
        { link.stats with
          requestsSent := link.stats.requestsSent + 1
          bytesSent := link.stats.bytesSent + request.frame.length }
      history := .sent request.ticket request.key request.frame.length :: link.history }
      pieces := by
  have nodup := laid.nodup lined
  have log : sentLog (.sent request.ticket request.key request.frame.length :: link.history) =
      sentLog link.history ++ [(request.ticket, request.frame.length)] := sentLog_append [_] _
  have handed : handedOver (.sent request.ticket request.key request.frame.length ::
      link.history) = handedOver link.history :=
    handedOver_of_quiet [_] (by simp [Event.queued?]) _
  have begun (ticket : Ticket) : Begun (.sent request.ticket request.key request.frame.length ::
      link.history) ticket ↔ Begun link.history ticket := by
    simp [Begun]
  obtain ⟨init, written, split, all, earlier⟩ :=
    laid.working request (by rw [flushing, Writer.request?])
  have all : written = request.frame := by simpa [flushing, Writer.unwritten] using all
  constructor
  · exact laid.wire
  · exact laid.beginning
  · rw [handed]
    exact laid.order
  · intro ticket
    rw [laid.begun, begun]
  · exact laid.known_append [_]
  · rw [log, split, List.map_append]
    exact earlier.append (List.Sublist.refl _)
  · intro piece member sent
    rw [log, List.map_append, List.mem_append] at sent
    rcases sent with before | now
    · exact laid.whole piece member before
    -- no other piece has the ticket of the frame
    · have last : (request, written) ∈ pieces := by simp [split]
      have same : piece.1.ticket = request.ticket := by simpa using now
      rw [List.inj_on_of_nodup_map nodup member last same]
      exact all
  · rw [log, List.length_append, ← laid.count]
    rfl
  · rw [log, List.map_append, List.sum_append, ← laid.bytes]
    rfl
  · intro other working
    cases working
  · exact laid.skipped_append [_] (by simp)

/-- One more request is handed over. -/
theorem Laid.enqueue {request : Request} {calls : List Call} (laid : link.Laid pieces) :
    Laid { link with
      queue := link.queue ++ [request]
      calls
      history := .queued request.ticket :: link.history } pieces := by
  have log : sentLog (.queued request.ticket :: link.history) = sentLog link.history :=
    sentLog_of_quiet [_] (by simp [Event.sent?]) _
  have handed : handedOver (.queued request.ticket :: link.history) =
      handedOver link.history ++ [request.ticket] := handedOver_append [_] _
  have begun (ticket : Ticket) : Begun (.queued request.ticket :: link.history) ticket ↔
      Begun link.history ticket := by
    simp [Begun]
  constructor
  · exact laid.wire
  · exact laid.beginning
  · rw [handed, List.map_append, ← List.append_assoc]
    exact laid.order.append (List.Sublist.refl _)
  · intro ticket
    rw [laid.begun, begun]
  · exact laid.known_append [_]
  · rw [log]
    exact laid.sent
  · rw [log]
    exact laid.whole
  · rw [log]
    exact laid.count
  · rw [log]
    exact laid.bytes
  · rw [log]
    exact laid.working
  · exact laid.skipped_append [_] (by simp)

theorem Laid.change (change : Change wiring act link next) (consistent : link.Consistent wiring)
    (lined : link.Lined) (laid : link.Laid pieces) :
    ∃ pieces', next.Laid pieces' ∧ Relaid act link next pieces pieces' := by
  have keeps (new : List (Event M)) (history : next.history = new ++ link.history)
      (quiet : ∀ event ∈ new, event.isInk = false)
      (wire : next.transport.wire = link.transport.wire)
      (queue : (next.queue.map Request.ticket).Sublist (link.queue.map Request.ticket))
      (count : next.stats.requestsSent = link.stats.requestsSent)
      (bytes : next.stats.bytesSent = link.stats.bytesSent)
      (writer : ∀ request, next.writer.request? = some request →
        link.writer.request? = some request ∧ next.writer.unwritten = link.writer.unwritten) :
      ∃ pieces', next.Laid pieces' ∧ Relaid act link next pieces pieces' :=
    ⟨pieces, laid.of_quiet new history quiet wire queue count bytes writer, .same⟩
  have same (request : Request) (working : link.writer.request? = some request) :
      link.writer.request? = some request ∧ link.writer.unwritten = link.writer.unwritten :=
    ⟨working, rfl⟩
  cases change with
  | aside only wire =>
    exact keeps _ rfl only.quiet wire (List.Sublist.refl _) rfl rfl same
  | drain | issue | send | reject | finish | conclude | undecoded | unclaimed | late =>
    exact keeps [_] rfl (by simp [Event.isInk]) rfl (List.Sublist.refl _) rfl rfl same
  | claimed =>
    exact keeps [_, _] rfl (by simp [Event.isInk]) rfl (List.Sublist.refl _) rfl rfl same
  | enqueue => exact ⟨pieces, laid.enqueue, .same⟩
  | refuse active idle first =>
    refine keeps [_] rfl (by simp [Event.isInk]) rfl ?_ rfl rfl same
    rw [first]
    exact List.sublist_cons_self _ _
  | skip active idle first => exact ⟨pieces, laid.skip consistent idle first, .same⟩
  | register active idle first free live asked =>
    exact ⟨_, laid.register consistent first, .begins asked idle active rfl⟩
  | accept active writing positive most asked =>
    obtain ⟨init, written, split, laid'⟩ := laid.accept lined writing
    exact ⟨_, laid', .grows _ asked split rfl⟩
  | flush active written =>
    refine keeps [] rfl (by simp) rfl (List.Sublist.refl _) rfl rfl ?_
    intro request working
    rw [written]
    exact ⟨working, rfl⟩
  | sent active flushing => exact ⟨pieces, laid.send lined flushing, .same⟩
  | fail =>
    exact keeps [_] rfl (by simp [Event.isInk]) rfl (List.Sublist.refl _) rfl rfl
      fun request working => nomatch working
  | stopWriting | crashWriting =>
    exact keeps [] rfl (by simp) rfl (List.nil_sublist _) rfl rfl
      fun request working => nomatch working
  | interrupt | crashClosing | endWriting =>
    exact keeps [] rfl (by simp) rfl (List.Sublist.refl _) rfl rfl
      fun request working => nomatch working
  | _ => exact keeps [] rfl (by simp) rfl (List.Sublist.refl _) rfl rfl same

/-! ## Frames that are broken off -/

/-- Every piece but the last is a whole frame, and the last one is as long as the writer is about to
begin with another. -/
structure Tidy (link : Link M) (pieces : List (Request × Bytes)) : Prop where
  init : ∀ piece ∈ pieces.dropLast, piece.2 = piece.1.frame
  idle : link.phase = .active → link.writer = .idle → ∀ piece ∈ pieces, piece.2 = piece.1.frame

theorem tidy_fresh : (fresh : Link M).Tidy [] := by
  constructor
  · intro piece member
    cases member
  · intro active idle piece member
    cases member

theorem Tidy.relaid {pieces' : List (Request × Bytes)} (tidy : link.Tidy pieces)
    (relaid : Relaid act link next pieces pieces') :
    ∀ piece ∈ pieces'.dropLast, piece.2 = piece.1.frame := by
  cases relaid with
  | same => exact tidy.init
  | begins asked idle active =>
    rw [List.dropLast_concat]
    exact tidy.idle active idle
  | grows more asked split =>
    have init := tidy.init
    rw [split, List.dropLast_concat] at init
    rw [List.dropLast_concat]
    exact init

/-- The writer is idle after a change if it was before, or has sent a frame, or given one up. -/
theorem idle_of_change (change : Change wiring act link next) (idle : next.writer = .idle)
    (active : link.phase = .active) :
    link.writer = .idle ∨ (∃ request, link.writer = .flushing request) ∨
      next.stats.writeFailures ≠ link.stats.writeFailures := by
  cases change with
  | sent active flushing => exact .inr (.inl ⟨_, flushing⟩)
  | fail => exact .inr (.inr (Nat.succ_ne_self _))
  | interrupt inactive => exact absurd active inactive
  | stopWriting | register | accept | flush | crashWriting | crashClosing
  | endWriting => cases idle
  | _ => exact .inl idle

/-- What follows a change in the same act leaves the wire and the writer alone. -/
theorem Laid.trail (trail : Relation.ReflTransGen (Trails wiring act) link next)
    (laid : link.Laid pieces) : next.Laid pieces ∧ next.writer = link.writer ∧
      (next.phase = .active → link.phase = .active) := by
  induction trail with
  | refl => exact ⟨laid, rfl, id⟩
  | tail _ trails ih =>
    obtain ⟨laid, writer, active⟩ := ih
    cases trails with
    | aside only wire =>
      refine ⟨laid.of_quiet _ rfl only.quiet wire (List.Sublist.refl _) rfl rfl ?_, writer, active⟩
      exact fun request working => ⟨working, rfl⟩
    | drain =>
      refine ⟨laid.of_quiet [_] rfl (by simp [Event.isInk]) rfl (List.Sublist.refl _) rfl
        rfl ?_, writer, fun active => nomatch active⟩
      exact fun request working => ⟨working, rfl⟩

/-- The frame that is being flushed is on the wire as a whole. -/
theorem Tidy.of_flushing {request : Request} (tidy : link.Tidy pieces) (laid : link.Laid pieces)
    (flushing : link.writer = .flushing request) : ∀ piece ∈ pieces, piece.2 = piece.1.frame := by
  obtain ⟨init, written, split, all, -⟩ :=
    laid.working request (by rw [flushing, Writer.request?])
  have all : written = request.frame := by simpa [flushing, Writer.unwritten] using all
  intro piece member
  rw [split] at member
  rcases List.mem_append.1 member with earlier | last
  · apply tidy.init
    rw [split, List.dropLast_concat]
    exact earlier
  · rw [List.mem_singleton.1 last]
    exact all

theorem laid_of_act (consistent : link.Consistent wiring) (lined : link.Lined)
    (moved : act? wiring link act = some next) (laid : link.Laid pieces)
    (tidy : wiring.config.closeOnWriteFailure = true → link.Tidy pieces) :
    ∃ pieces', next.Laid pieces' ∧
      (wiring.config.closeOnWriteFailure = true → next.Tidy pieces') := by
  have synced := consistent.sound.phased.synced
  by_cases write : act = .write
  · subst write
    obtain ⟨change, trail, falls⟩ := writerStep?_moves synced moved
    obtain ⟨pieces', laid', relaid⟩ := laid.change change consistent lined
    obtain ⟨laid'', writer, active⟩ := laid'.trail trail
    refine ⟨pieces', laid'', fun policy => ⟨(tidy policy).relaid relaid, ?_⟩⟩
    intro now idle
    rw [writer] at idle
    have before := (Grows.of_change change consistent.sound.owned).active (active now)
    cases relaid with
    | begins _ _ _ begun =>
      rw [idle] at begun
      cases begun
    | grows _ _ _ working =>
      rw [idle] at working
      cases working
    | same =>
      rcases idle_of_change change idle before with idle | ⟨request, flushing⟩ | failed
      · exact (tidy policy).idle before idle
      · exact (tidy policy).of_flushing laid flushing
      -- the link drains in the same act, so it is not active any more
      · exact absurd now (falls policy failed)
  -- the other tasks leave the pieces and the writer as they are
  · have kept := (act?_changes synced moved).keeps
      (motive := fun mid => mid.Consistent wiring ∧ mid.Lined ∧ mid.Laid pieces ∧
        mid.writer = link.writer ∧ (mid.phase = .active → link.phase = .active))
      (fun change holds => by
        obtain ⟨consistent, lined, laid, writer, active⟩ := holds
        obtain ⟨pieces', laid', relaid⟩ := laid.change change consistent lined
        have grows := Grows.of_change change consistent.sound.owned
        refine ⟨consistent.change change, lined.change change consistent.sound, ?_,
          (writer_of_change change write).trans writer, fun now => active (grows.active now)⟩
        cases relaid with
        | same => exact laid'
        | begins asked => exact absurd asked write
        | grows more asked => exact absurd asked write)
      ⟨consistent, lined, laid, rfl, id⟩
    obtain ⟨-, -, laid', writer, active⟩ := kept
    refine ⟨pieces, laid', fun policy => ⟨(tidy policy).init, ?_⟩⟩
    intro now idle
    exact (tidy policy).idle (active now) (writer.symm.trans idle)

theorem laid_of_run (run : follow? wiring fresh acts = some link) :
    link.Lined ∧ ∃ pieces, link.Laid pieces ∧
      (wiring.config.closeOnWriteFailure = true → link.Tidy pieces) := by
  have all := follow?_invariant (motive := fun link => link.Consistent wiring ∧ link.Lined ∧
      ∃ pieces, link.Laid pieces ∧ (wiring.config.closeOnWriteFailure = true → link.Tidy pieces))
    (fun moved holds => by
      obtain ⟨consistent, lined, pieces, laid, tidy⟩ := holds
      refine ⟨consistent.after moved, ?_, laid_of_act consistent lined moved laid tidy⟩
      exact consistent.sound.keeps (motive := Lined)
        (fun change sound lined => lined.change change sound) moved lined)
    run ⟨consistent_fresh, lined_fresh, [], laid_fresh, fun _ => tidy_fresh⟩
  exact all.2

/-- What the bytes on the wire are after a run: one piece for each request that the writer has begun
with, which is the beginning of the frame of that request. -/
structure OnWire (wiring : Wiring M) (acts : List (Act M)) (link : Link M)
    (pieces : List (Request × Bytes)) : Prop where
  wire : link.transport.wire = (pieces.map Prod.snd).flatten
  beginning : ∀ piece ∈ pieces, piece.2 <+: piece.1.frame
  once : (pieces.map fun piece => piece.1.ticket).Nodup
  begun : ∀ ticket, ticket ∈ pieces.map (fun piece => piece.1.ticket) ↔ Begun link.history ticket
  order : (pieces.map fun piece => piece.1.ticket).Sublist (handedOver link.history)
  origin : ∀ piece ∈ pieces, ∃ message, Origin wiring acts message piece.1
  /-- The frames that count as sent are pieces. -/
  sent : (sentLog link.history).Sublist (pieces.map entry)
  whole : ∀ piece ∈ pieces, piece.1.ticket ∈ (sentLog link.history).map Prod.fst →
    piece.2 = piece.1.frame
  count : link.stats.requestsSent = (sentLog link.history).length

/-- After every run the wire holds one piece for each request that the writer has begun with, in the
order in which the requests were handed over, and that is the order in which they were made if the
queue is fair. If a link drains when a frame could not be written, only the last piece may be broken
off. -/
theorem wire_of_run (run : follow? wiring fresh acts = some link) :
    ∃ pieces, OnWire wiring acts link pieces ∧
      (wiring.config.closeOnWriteFailure = true →
        ∀ piece ∈ pieces.dropLast, piece.2 = piece.1.frame) ∧
      (Fair wiring fresh acts → (pieces.map fun piece => piece.1.ticket).Pairwise (· < ·)) := by
  obtain ⟨lined, pieces, laid, tidy⟩ := laid_of_run run
  have order := (List.sublist_append_left _ _).trans laid.order
  refine ⟨pieces, ?_, fun policy => (tidy policy).init,
    fun fair => (ascending_of_fair run fair).sublist order⟩
  constructor
  · exact laid.wire
  · exact laid.beginning
  · exact laid.nodup lined
  · exact laid.begun
  · exact order
  · intro piece member
    obtain ⟨message, known⟩ := laid.known piece member
    exact ⟨message, origin_of_run run known⟩
  · exact laid.sent
  · exact laid.whole
  · exact laid.count

/-! ## A frame that is broken off -/

section Torn

open Rehearsal

/-- The transport takes the first request's frame and five bytes of the second one's, and fails. -/
def tornRun : List (Act Scripted) :=
  [.play (.transport { write := some (some 23, .fault (.plain .brokenPipe)) }),
    .play (.send (scriptedMessage "000001") none), .play (.send (scriptedMessage "000002") none),
    .turn 0 true, .write, .turn 1 true, .write, .write, .write, .write, .write, .write]

theorem wire_of_run_torn :
    follow? scriptedWiring fresh tornRun = some (scriptedLink tornRun) ∧
      Fair scriptedWiring fresh tornRun ∧ (scriptedLink tornRun).stats.requestsSent = 1 ∧
      ∃ pieces, OnWire scriptedWiring tornRun (scriptedLink tornRun) pieces ∧
        (pieces.map Prod.snd).flatten.length = 23 ∧
        (pieces.map fun piece => piece.1.ticket).Pairwise (· < ·) ∧
        ∀ piece ∈ pieces.dropLast, piece.2 = piece.1.frame := by
  have run : follow? scriptedWiring fresh tornRun = some (scriptedLink tornRun) :=
    follow?_scripted (by decide +kernel)
  have fair : Fair scriptedWiring fresh tornRun := by decide +kernel
  have written : (scriptedLink tornRun).transport.wire.length = 23 := by decide +kernel
  obtain ⟨pieces, reads, tidy, order⟩ := wire_of_run run
  refine ⟨run, fair, by decide +kernel, pieces, reads, ?_, order fair, tidy rfl⟩
  rw [← reads.wire, written]

end Torn

end Link

end Multiplex
