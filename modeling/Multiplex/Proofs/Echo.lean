import Multiplex.Proofs.Answering
import Multiplex.Proofs.Correlation
import Multiplex.Proofs.Wire

/-!
# An echoing peer

A peer that sends every frame back as it is, in any order and in any chunks, answers every request
with its own message (`Link.echo_of_run`). Nothing is left over: the table is empty, no message is
unmatched, and as many bytes come back as were sent.
-/

namespace Multiplex

variable {M : Type} {wiring : Wiring M} {drafts : List (Draft M)}
  {echoes : List (Draft M × Ticket)} {acts before later : List (Act M)}

/-- The message with a trace number in a field, if that is empty. -/
def Message.stamped (message : Message) (id : FieldId) (stan : String) : Message :=
  if message.text id = "" then message.withField id stan else message

namespace Link

/-- The frame of a ticket's request has been written as a whole; it may have to be flushed yet. -/
def FullyWritten (link : Link M) (ticket : Ticket) : Prop :=
  ticket ∈ (sentLog link.history).map Prod.fst ∨
    link.writer.request?.map Request.ticket = some ticket ∧ link.writer.unwritten = []

instance (link : Link M) (ticket : Ticket) : Decidable (link.FullyWritten ticket) :=
  inferInstanceAs (Decidable (_ ∨ _))

/-- A calm run in which all messages can be sent and no request runs out of time, with a peer that
sends the frame of every request back once, in the order of `echoes`. -/
structure EchoRun (wiring : Wiring M) (drafts : List (Draft M)) (echoes : List (Draft M × Ticket))
    (acts : List (Act M)) (link : Link M) : Prop where
  run : follow? wiring fresh acts = some link
  calmly : ∀ act ∈ acts, act.isCalm = true
  timely : ∀ event ∈ link.history, event.isTimeout = false
  passed : enlist wiring .fresh (sends acts) = some drafts
  /-- No two requests have one key. -/
  distinct : (drafts.map Draft.key).Nodup
  all : echoes.Perm drafts.zipIdx
  bytes : arrived acts = frames (echoes.map Prod.fst)
  /-- No part of a frame comes back before that has been written as a whole. -/
  paced : ∀ moment ≤ acts.length, ∀ mid ∈ follow? wiring fresh (acts.take moment),
    ∃ count ≤ echoes.length,
      arrived (acts.take moment) <+: frames ((echoes.take count).map Prod.fst) ∧
        ∀ echo ∈ echoes.take count, mid.FullyWritten echo.2

variable {link mid : Link M}

theorem registered_of_fullyWritten (run : follow? wiring fresh acts = some link) {ticket : Ticket}
    (written : link.FullyWritten ticket) : ∃ key, .registered ticket key ∈ link.history := by
  rcases written with sent | ⟨working, -⟩
  · obtain ⟨-, pieces, laid, -⟩ := laid_of_run run
    have there := (laid.sent.map Prod.fst).subset sent
    rw [List.map_map] at there
    exact ((laid.begun ticket).1 there).1
  · obtain ⟨request, serves, rfl⟩ := Option.map_eq_some_iff.1 working
    exact ⟨request.key, (consistent_of_run run).recorded.working serves⟩

namespace EchoRun

variable (echoed : EchoRun wiring drafts echoes acts link)

include echoed

theorem echoable (faithful : wiring.Faithful) : Echoable wiring drafts echoes :=
  ⟨echoed.all, echoed.distinct, faithful.readsBack echoed.passed⟩

theorem onward (split : acts = before ++ later) (first : follow? wiring fresh before = some mid) :
    follow? wiring mid later = some link := by
  have whole := echoed.run
  rw [split] at whole
  obtain ⟨other, same, onward⟩ := follow?_append.1 whole
  rw [first, Option.some.injEq] at same
  exact same ▸ onward

theorem arrived_prefix (split : acts = before ++ later) :
    arrived before <+: frames ((echoes.take echoes.length).map Prod.fst) := by
  rw [List.take_length, ← echoed.bytes, split, arrived_append]
  exact List.prefix_append _ _

/-- At every moment of the run, what has arrived are echoes of frames that have been written. -/
theorem pace (split : acts = before ++ later) (first : follow? wiring fresh before = some mid) :
    ∃ count, arrived before <+: frames ((echoes.take count).map Prod.fst) ∧
      ∀ echo ∈ echoes.take count, mid.FullyWritten echo.2 := by
  have moment : acts.take before.length = before := by rw [split, List.take_left]
  have bound : before.length ≤ acts.length := by
    rw [split, List.length_append]
    exact Nat.le_add_right _ _
  have paced := echoed.paced before.length bound
  rw [moment] at paced
  obtain ⟨count, -, arrived, written⟩ := paced mid first
  exact ⟨count, arrived, written⟩

variable (sized : 0 < wiring.framing.size) (faithful : wiring.Faithful)

include sized faithful

/-- What has been read after a part of the run, if no more than the first echoes have arrived. -/
theorem reads (split : acts = before ++ later) (first : follow? wiring fresh before = some mid)
    {count : Nat} (within : arrived before <+: frames ((echoes.take count).map Prod.fst)) :
    mid.phase = .active ∧ (∀ text, mid.reader ≠ .ended (some text)) ∧
      readings mid.history <+: (echoes.take count).map fun echo => echo.1.payload wiring := by
  have reads := (echoed.echoable faithful).readsBack (List.take_subset count echoes)
  have calmly : ∀ act ∈ before, act.isCalm = true := fun act member =>
    echoed.calmly act (split ▸ List.mem_append_left _ member)
  have result := reads_of_frames sized first calmly reads within
  rwa [List.map_map] at result

/-- At every moment of the run the requests are the first drafts, and each of them has been answered
by its own echo or not at all. -/
theorem kept (split : acts = before ++ later) (first : follow? wiring fresh before = some mid) :
    mid.phase = .active ∧ Enrolled wiring drafts later mid ∧ mid.Echoing echoes := by
  induction before using List.reverseRecOn generalizing later mid with
  | nil =>
    cases first
    exact ⟨rfl, enrolled_fresh (by rw [← echoed.passed, split, List.nil_append]), echoing_fresh⟩
  | append_singleton earlier act ih =>
    obtain ⟨link', run, last⟩ := follow?_append.1 first
    obtain ⟨after, moved, done⟩ := follow?_cons.1 last
    cases done
    have split' : acts = earlier ++ act :: later := by
      rw [split, List.append_assoc, List.singleton_append]
    obtain ⟨active, enrolled, echoing⟩ := ih split' run
    have consistent := consistent_of_run run
    have calmly := echoed.calmly act (split' ▸ List.mem_append_right _ List.mem_cons_self)
    obtain ⟨calm, gentle⟩ := calm_of_run run fun act member =>
      echoed.calmly act (split' ▸ List.mem_append_left _ member)
    have enrolled' := enrolled.after consistent.sound.phased.synced active calm.handle moved
    -- the reader takes what had arrived before, which are echoes of registered requests
    obtain ⟨count, within, begun⟩ : ∃ count,
        arrived (earlier ++ [act]) <+: frames ((echoes.take count).map Prod.fst) ∧
        (act = .read → ∀ echo ∈ echoes.take count, ∃ key,
          .registered echo.2 key ∈ link'.history) := by
      by_cases asked : act = .read
      · obtain ⟨count, within, written⟩ := echoed.pace split' run
        refine ⟨count, ?_, fun _ echo early => registered_of_fullyWritten run (written echo early)⟩
        rw [arrived_append, asked]
        exact (List.append_nil (arrived earlier)).symm ▸ within
      · exact ⟨echoes.length, echoed.arrived_prefix split, fun same => absurd same asked⟩
    obtain ⟨active', -, read⟩ := echoed.reads sized faithful split first within
    have grows := Grows.of_follow (sound_of_run first) (echoed.onward split first)
    have timely : ∀ event ∈ mid.history, event.isTimeout = false :=
      fun event member => echoed.timely event (grows.mem_history member)
    have smooth : Smooth wiring drafts echoes count mid :=
      ⟨active', timely, enrolled'.known, read⟩
    exact ⟨active', enrolled', echoing.after consistent calm gentle calmly
      (echoed.echoable faithful) moved smooth begun⟩

/-! ## What the run comes to -/

variable (settled : Settled wiring link)

include settled

/-- All echoes have been read. -/
theorem all_read :
    readings link.history = echoes.map (fun echo => echo.1.payload wiring) ∧
      link.stats.repliesMatched + link.stats.unmatched = echoes.length ∧
      link.stats.bytesReceived = (echoes.map fun echo => echo.1.frame.length).sum := by
  have reads := (echoed.echoable faithful).readsBack (List.Subset.refl echoes)
  have whole := (List.append_nil acts).symm
  obtain ⟨-, crashless, -⟩ :=
    echoed.reads sized faithful whole echoed.run (echoed.arrived_prefix whole)
  have calm := (calm_of_run echoed.run echoed.calmly).1
  have sound := sound_of_run echoed.run
  have streams := (streams_of_run sized echoed.run (arrivals_of_calm echoed.calmly)).resolve_right
    (calm.unspoiled sound)
  obtain ⟨payloads, stop, parse, interpreted⟩ :=
    streams.interpreted sized sound.phased.synced crashless (settled .read rfl)
  have stream : ((arrivals acts).map Inbound.content).flatten = frames (echoes.map Prod.fst) :=
    echoed.bytes
  rw [stream] at parse
  obtain ⟨rfl, rfl⟩ := parse.unique (parses_frames sized reads)
  obtain ⟨readings, messages, bytes, -⟩ := interpreted
  have last : Stop.boundary.last = [] := rfl
  rw [last, List.append_nil] at readings bytes
  rw [volume_payloads reads, List.map_map] at bytes
  rw [List.map_map] at readings
  rw [List.length_map, List.length_map] at messages
  exact ⟨readings, messages, bytes⟩

/-- All frames have been sent. -/
theorem all_sent (idle : link.writer = .idle) :
    (sentLog link.history).Perm (echoes.map fun echo => (echo.2, echo.1.frame.length)) := by
  have able := echoed.echoable faithful
  have whole := (List.append_nil acts).symm
  have known := (echoed.kept sized faithful whole echoed.run).2.1.known
  obtain ⟨lined, pieces, laid, -⟩ := laid_of_run echoed.run
  have own {entry : Ticket × Nat} (member : entry ∈ sentLog link.history) :
      ∃ echo ∈ echoes, (echo.2, echo.1.frame.length) = entry := by
    obtain ⟨piece, inside, rfl⟩ := List.mem_map.1 (laid.sent.subset member)
    obtain ⟨message, prepared⟩ := laid.known piece inside
    have made : (⟨message, piece.1.key, piece.1.frame⟩, piece.1.ticket) ∈ echoes :=
      able.mem_iff.2 (known _ _ prepared)
    exact ⟨_, made, rfl⟩
  -- every echo that has been read is of a frame that has been written, and these are all
  have written : ∀ echo ∈ echoes, link.FullyWritten echo.2 := by
    obtain ⟨count, within, written⟩ := echoed.pace whole echoed.run
    obtain ⟨-, -, read⟩ := echoed.reads sized faithful whole echoed.run within
    have length := read.length_le
    rw [(echoed.all_read sized faithful settled).1, List.length_map, List.length_map] at length
    have all : echoes.take count = echoes :=
      (List.take_sublist _ _).eq_of_length_le length
    exact all ▸ written
  apply (List.perm_ext_iff_of_nodup ?_ ?_).2
  · intro entry
    constructor
    · intro member
      obtain ⟨echo, inside, same⟩ := own member
      exact List.mem_map.2 ⟨echo, inside, same⟩
    · intro member
      obtain ⟨echo, inside, rfl⟩ := List.mem_map.1 member
      have sent := (written echo inside).resolve_right (by simp [idle, Writer.request?])
      obtain ⟨entry, there, ticket⟩ := List.mem_map.1 sent
      obtain ⟨other, inside', rfl⟩ := own there
      rwa [able.eq_of_ticket inside' inside ticket] at there
  · have tickets := laid.nodup lined
    have same : pieces.map (fun piece => piece.1.ticket) = (pieces.map entry).map Prod.fst := by
      rw [List.map_map]
      rfl
    rw [same] at tickets
    exact laid.sent.nodup tickets.of_map
  · exact able.nodup.map_on fun echo inside echo' inside' same =>
      able.eq_of_ticket inside inside' (congrArg Prod.fst same)

/-- Every request has been answered with its own message. -/
theorem all_answered :
    link.exchanges.length = drafts.length ∧ ∀ echo ∈ echoes,
      link.exchanges.poll echo.2 = some (.ok echo.1.message) ∧
        ∃ number, .returned number (some echo.2) (.replied echo.1.message) ∈ link.history := by
  have able := echoed.echoable faithful
  obtain ⟨active, enrolled, echoing⟩ :=
    echoed.kept sized faithful (List.append_nil acts).symm echoed.run
  have owned := (sound_of_run echoed.run).owned
  have heard : link.heard echoes = echoes := by
    rw [Link.heard, (echoed.all_read sized faithful settled).1, List.length_map, List.take_length]
  have length : link.exchanges.length = drafts.length := by
    have none := enrolled.rest
    rw [sends, List.filterMap_nil, enlist, Option.some.injEq, eq_comm, List.drop_eq_nil_iff] at none
    exact Nat.le_antisymm enrolled.bound none
  refine ⟨length, fun echo member => ?_⟩
  have seen := echoing.replied echo (heard.symm ▸ member)
  have inside := (List.getElem?_eq_some_iff.1 (able.mem_iff.1 member)).1
  refine ⟨seen, ?_⟩
  -- a call that has not returned would still wait for its outcome
  have gone : link.exchanges.isAbandoned echo.2 = true := by
    rw [← Bool.not_eq_false]
    intro live
    obtain ⟨number, request, handed, timer, waits, own⟩ := owned.caller_of_live live
    have unseen := (settled.send_waits owned waits rfl).1
    rw [own, seen] at unseen
    cases unseen
  obtain ⟨draft, number, answered, returned⟩ := echoing.left echo.2 (length ▸ inside) gone
  have same := able.eq_of_ticket (List.mem_of_mem_take answered) member rfl
  exact ⟨number, by rw [← same]; exact returned⟩

/-- A send of the run makes a draft, and its call returns the message of that draft and nothing
else. -/
theorem returns {original : M} {timeout : Option Nat} {start : Link M}
    (split : acts = before ++ .play (.send original timeout) :: later)
    (first : follow? wiring fresh before = some start) :
    ∃ message stan, assignStan wiring start.stan original = (.ok message, stan) ∧
      ∀ ticket? result, .returned start.made ticket? result ∈ link.history ↔
        ticket? = some start.exchanges.length ∧ result = .replied message := by
  obtain ⟨active, enrolled, -⟩ := echoed.kept sized faithful split first
  obtain ⟨draft, stan, there, assigned, framed, -⟩ := enrolled.draft
  refine ⟨draft.message, stan, assigned, ?_⟩
  obtain ⟨next, moved, onward⟩ := follow?_cons.1 (echoed.onward split first)
  have calm := (calm_of_run first fun act member =>
    echoed.calmly act (split ▸ List.mem_append_left _ member)).1
  obtain ⟨-, -, timer, waits⟩ :=
    send_of_keyedFrame (timeout <|> wiring.config.requestTimeout) active assigned framed
  rw [← eq_send_of_act calm.handle moved] at waits
  have consistent := (consistent_of_run first).after moved
  have belongs : link.Belongs start.made start.exchanges.length :=
    consistent.sound.follow_keeps
      (motive := fun mid => mid.Belongs start.made start.exchanges.length) Belongs.change onward
      (.of_member consistent.sound.owned consistent.accounted waits rfl)
  have able := echoed.echoable faithful
  obtain ⟨-, all⟩ := echoed.all_answered sized faithful settled
  obtain ⟨-, number, returned⟩ := all (draft, start.exchanges.length) (able.mem_iff.2 there)
  have own := (belongs.returned returned).2 rfl
  subst own
  intro ticket? result
  constructor
  · intro returned'
    obtain ⟨rfl, rfl⟩ :=
      (consistent_of_run echoed.run).accounted.unique returned returned'
    exact ⟨rfl, rfl⟩
  · rintro ⟨rfl, rfl⟩
    exact returned

/-- Nothing is left over. -/
theorem leaves_nothing (idle : link.writer = .idle) :
    link.table.slots = [] ∧ link.stats.unmatched = 0 ∧
      link.stats.requestsSent = (sends acts).length ∧
      link.stats.repliesMatched = (sends acts).length ∧
      link.stats.bytesSent = link.stats.bytesReceived := by
  have able := echoed.echoable faithful
  have owned := (sound_of_run echoed.run).owned
  obtain ⟨-, pieces, laid, -⟩ := laid_of_run echoed.run
  obtain ⟨length, answered⟩ := echoed.all_answered sized faithful settled
  obtain ⟨-, messages, received⟩ := echoed.all_read sized faithful settled
  have sent := echoed.all_sent sized faithful settled idle
  have matched := (echoed.kept sized faithful (List.append_nil acts).symm echoed.run).2.2.matched
  have count : echoes.length = (sends acts).length := by
    rw [echoed.all.length_eq, List.length_zipIdx, length_enlist echoed.passed]
  refine ⟨?_, matched, ?_, ?_, ?_⟩
  · apply List.eq_nil_iff_forall_not_mem.2
    rintro ⟨key, ticket⟩ slot
    have unseen := owned.poll_of_slot (List.mem_map_of_mem slot)
    have inside := Exchanges.lt_length_of_poll unseen
    rw [length] at inside
    obtain ⟨seen, -⟩ := answered (drafts[ticket], ticket)
      (able.mem_iff.2 (List.getElem?_eq_getElem inside))
    rw [seen] at unseen
    cases unseen
  · rw [laid.count, sent.length_eq, List.length_map, count]
  · rw [← count, ← messages, matched, Nat.add_zero]
  · rw [laid.bytes, received, (sent.map Prod.snd).sum_nat, List.map_map]
    rfl

end EchoRun

theorem assignStan_codec {header : Header} {policy : Policy} {config : Config}
    {original message : Message} {stan stan' : Stan}
    (assigned : assignStan (Setup.wiring ⟨Message.codec, header, policy, config⟩) stan original =
      (.ok message, stan')) :
    message = original.stamped config.stanField stan.next.text := by
  have text : (Setup.wiring ⟨Message.codec, header, policy, config⟩).codec.text original
      config.stanField = .ok (original.text config.stanField) := rfl
  have field : (Setup.wiring ⟨Message.codec, header, policy, config⟩).config.stanField =
      config.stanField := rfl
  unfold assignStan at assigned
  dsimp only at assigned
  rw [field, text] at assigned
  dsimp only at assigned
  rw [Message.stamped]
  split at assigned
  · next filled =>
    cases assigned
    exact (if_neg filled).symm
  · next empty =>
    rw [if_pos (Decidable.not_not.1 empty)]
    split at assigned
    · next stamped =>
      cases assigned
      exact (Message.set_eq_ok_iff.1 stamped).2
    · cases assigned

/-- Every send returns its own message and nothing else if the peer echoes, in every layout of the
header, with every policy and with all settings. -/
theorem echo_of_run {header : Header} {policy : Policy} {config : Config}
    {drafts : List (Draft Message)} {echoes : List (Draft Message × Ticket)}
    {acts : List (Act Message)} {link : Link Message}
    (echoed : EchoRun (Setup.wiring ⟨Message.codec, header, policy, config⟩) drafts echoes acts
      link)
    (settled : Settled (Setup.wiring ⟨Message.codec, header, policy, config⟩) link)
    (idle : link.writer = .idle) :
    (∀ {before later : List (Act Message)} {original : Message} {timeout : Option Nat}
      {start : Link Message}, acts = before ++ .play (.send original timeout) :: later →
        follow? (Setup.wiring ⟨Message.codec, header, policy, config⟩) fresh before = some start →
          ∀ ticket? result, .returned start.made ticket? result ∈ link.history ↔
            ticket? = some start.exchanges.length ∧
              result = .replied (original.stamped config.stanField start.stan.next.text)) ∧
      link.table.slots = [] ∧ link.stats.unmatched = 0 ∧
      link.stats.requestsSent = (sends acts).length ∧
      link.stats.repliesMatched = (sends acts).length ∧
      link.stats.bytesSent = link.stats.bytesReceived := by
  have faithful := faithful_setup header policy config
  have sized : 0 < (Setup.wiring ⟨Message.codec, header, policy, config⟩).framing.size :=
    Nat.lt_of_lt_of_le Nat.two_pos header.two_le_size
  refine ⟨?_, echoed.leaves_nothing sized faithful settled idle⟩
  intro before later original timeout start split first
  obtain ⟨message, stan, assigned, returns⟩ := echoed.returns sized faithful settled split first
  rw [assignStan_codec assigned] at returns
  exact returns

/-! ## Two requests, echoed in the other order -/

section Crosswise

/-- What a link of plain messages is built from by default. -/
def plainWiring : Wiring Message :=
  Setup.wiring ⟨Message.codec, .vml, .field 11, {}⟩

/-- The draft of a message with one field, a trace number that ends in a digit. -/
def plainDraft (digit : Char) : Draft Message where
  message := (Message.ofType "0200").withField 11 (String.ofList ['0', '0', '0', '0', '0', digit])
  key := String.ofList ['0', '0', '0', '0', '0', digit]
  frame := [0, 14, 0, 0, 48, 50, 48, 48, 0, 11, 0, 6, 48, 48, 48, 48, 48, UInt8.ofNat digit.toNat]

/-- Two requests are sent, the first without a trace number. Their frames come back in the other
order, cut in the middle of both. -/
def crosswiseRun : List (Act Message) :=
  [.play (.send (Message.ofType "0200") none), .play (.send (plainDraft '7').message none),
    .turn 0 true, .write, .turn 1 true, .write, .write, .write, .write, .write, .write, .write,
    .play (.arrive (.chunk ((plainDraft '7').frame.take 9))), .read, .read, .read,
    .play (.arrive (.chunk ((plainDraft '7').frame.drop 9 ++ (plainDraft '1').frame.take 2))),
    .read, .read, .read, .play (.arrive (.chunk ((plainDraft '1').frame.drop 2))), .read, .read,
    .read, .turn 0 false, .turn 1 false]

/-- The link after that run. -/
def crosswiseLink : Link Message :=
  (follow? plainWiring fresh crosswiseRun).getD fresh

theorem follow?_crosswiseRun : follow? plainWiring fresh crosswiseRun = some crosswiseLink :=
  (Option.getD_of_ne_none (Option.isSome_iff_ne_none.1 (by decide +kernel)) fresh).symm

theorem crosswiseLink_eq : crosswiseLink.phase = .active ∧ crosswiseLink.writer = .idle ∧
    crosswiseLink.queue = [] ∧ crosswiseLink.calls = [] ∧
    crosswiseLink.reader = .running [] .boundary ∧ crosswiseLink.transport.inbound = [] := by
  decide +kernel

theorem settled_crosswiseLink : Settled plainWiring crosswiseLink := by
  obtain ⟨phase, writer, queue, calls, reader, inbound⟩ := crosswiseLink_eq
  have unasked := (sound_of_run follow?_crosswiseRun).phased.synced.unasked_iff.2 phase
  refine settled_of ?_ ?_ ?_ (superviseStep?_eq_none (.inr ?_))
  · simp [readStep?, reader, unasked, inbound]
  · simp [writerStep?, writer, unasked, queue]
  · intro call member
    rw [calls] at member
    cases member
  · rw [writer]
    rfl

theorem echoRun_crosswise : EchoRun plainWiring [plainDraft '1', plainDraft '7']
    [(plainDraft '7', 1), (plainDraft '1', 0)] crosswiseRun crosswiseLink where
  run := follow?_crosswiseRun
  calmly := by decide +kernel
  timely := by decide +kernel
  passed := by decide +kernel
  distinct := by decide +kernel
  all := List.Perm.swap _ _ _
  bytes := by decide +kernel
  paced := by decide +kernel

theorem echo_of_run_crosswise :
    EchoRun plainWiring [plainDraft '1', plainDraft '7']
        [(plainDraft '7', 1), (plainDraft '1', 0)] crosswiseRun crosswiseLink ∧
      Settled plainWiring crosswiseLink ∧ crosswiseLink.writer = .idle ∧
      (∀ ticket? result, .returned 0 ticket? result ∈ crosswiseLink.history ↔
        ticket? = some 0 ∧ result = .replied (plainDraft '1').message) ∧
      crosswiseLink.table.slots = [] ∧ crosswiseLink.stats.unmatched = 0 ∧
      crosswiseLink.stats.requestsSent = 2 ∧ crosswiseLink.stats.repliesMatched = 2 ∧
      crosswiseLink.stats.bytesSent = crosswiseLink.stats.bytesReceived := by
  obtain ⟨-, idle, -⟩ := crosswiseLink_eq
  obtain ⟨returns, counted⟩ := echo_of_run echoRun_crosswise settled_crosswiseLink idle
  have first : crosswiseRun = [] ++ .play (.send (Message.ofType "0200") none) ::
      crosswiseRun.tail := rfl
  have stamped : (Message.ofType "0200").stamped 11 (fresh : Link Message).stan.next.text =
      (plainDraft '1').message := by decide +kernel
  refine ⟨echoRun_crosswise, settled_crosswiseLink, idle, ?_, counted⟩
  rw [← stamped]
  exact returns first rfl

end Crosswise

end Link

end Multiplex
