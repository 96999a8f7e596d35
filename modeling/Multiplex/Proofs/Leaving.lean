import Multiplex.Proofs.Consistent

/-!
# What the end of the active phase freezes

The step in which a link leaves its active phase drains the table: whatever is in it then is failed
and counted (`Link.Leaves`). From that step on the wire, the counters and the trace numbers stay as
they are, the table stays empty, and a message that is sent is turned away at once (`Link.Frozen`).

Main statement: `frozen_of_left`.
-/

namespace Multiplex.Link

variable {M : Type}

/-- What an act finds in the table and on the counters when it makes the link drain. -/
inductive AtDrain (wiring : Wiring M) (act : Act M) (link : Link M) : Table → Stats → Prop
  /-- What was there before the act. -/
  | plain (elsewhere : act ≠ .write) : AtDrain wiring act link link.table link.stats
  /-- A frame has just been read that the codec refuses. -/
  | undecodable {payload : Bytes} {fault : WireError} (asked : act = .read)
      (refused : wiring.codec.unpack payload = .refused fault) :
      AtDrain wiring act link link.table (link.stats.readFrame wiring.framing payload.length)
  /-- The writer has just failed the request whose frame it could not write. -/
  | unwritable {request : Request} (asked : act = .write)
      (working : link.writer.request? = some request) :
      AtDrain wiring act link (link.table.erase request.key)
        { link.stats with writeFailures := link.stats.writeFailures + 1 }
  /-- The last call has just run out of time and taken along an entry that nobody waits for. -/
  | withdrawn {call : Call} {request : Request} {handed first : Bool} {timer : Option Timer}
      {holder : Ticket} (asked : act = .turn call.number first) (member : call ∈ link.calls)
      (task : call.task = .send request handed timer)
      (found : link.table.find? request.key = some holder)
      (gone : holder = request.ticket ∨ link.exchanges.isAbandoned holder = true) :
      AtDrain wiring act link (link.table.erase request.key) link.stats

/-- An act that makes the link leave its active phase. No byte is written in it and no trace number
issued; every entry that it finds in the table is failed and counted. -/
structure Leaves (wiring : Wiring M) (act : Act M) (link next : Link M) : Prop where
  wire : next.transport.wire = link.transport.wire
  stan : next.stan = link.stan
  table : next.table = ⟨[], true⟩
  drained : ∃ table stats, AtDrain wiring act link table stats ∧
    next.stats = { stats with drained := table.size } ∧
    ∀ slot ∈ table.slots, next.exchanges.poll slot.2 = some (.error .closed)

/-- The second link is a later state of the first, which had left its active phase. What has
happened in between concerns neither trace numbers nor requests nor frames, apart from what calls
have returned. -/
structure Frozen (link next : Link M) : Prop where
  inactive : next.phase ≠ .active
  wire : next.transport.wire = link.transport.wire
  table : next.table = link.table
  stan : next.stan = link.stan
  stats : next.stats = link.stats
  history : ∃ new, next.history = new ++ link.history ∧
    ∀ event ∈ new, event.isRemark = true ∨ event.returned?.isSome = true

variable {wiring : Wiring M} {act : Act M} {acts later : List (Act M)}
  {link mid next final : Link M} {reason : DrainReason}

/-! ## After the active phase -/

theorem Frozen.refl (inactive : link.phase ≠ .active) : link.Frozen link :=
  ⟨inactive, rfl, rfl, rfl, rfl, [], rfl, fun _ member => nomatch member⟩

/-- Nothing that touches the wire, the counters or the trace numbers can happen after the active
phase, and there is no entry left to take out of the table. -/
theorem Frozen.change (change : Change wiring act mid next) (phased : mid.Phased)
    (frozen : link.Frozen mid) : link.Frozen next := by
  obtain ⟨inactive, wire, table, stan, stats, history⟩ := frozen
  obtain ⟨new, history, quiet⟩ := history
  have erased (key : String) : mid.table.erase key = link.table := by
    rw [← table]
    exact Table.erase_eq_self (by simp [Table.find?, phased.slots_eq_nil inactive])
  have noted {event : Event M} (late : event.isRemark = true ∨ event.returned?.isSome = true) :
      ∃ new, event :: mid.history = new ++ link.history ∧
        ∀ event ∈ new, event.isRemark = true ∨ event.returned?.isSome = true :=
    ⟨event :: new, by rw [history, List.cons_append], List.forall_mem_cons.2 ⟨late, quiet⟩⟩
  have same : ∃ new, mid.history = new ++ link.history ∧
      ∀ event ∈ new, event.isRemark = true ∨ event.returned?.isSome = true :=
    ⟨new, history, quiet⟩
  cases change with
  | @aside remarks _ _ _ _ _ only same =>
    refine ⟨inactive, same.trans wire, table, stan, stats, remarks ++ new, ?_, ?_⟩
    · rw [history, List.append_assoc]
    · exact List.forall_mem_append.2 ⟨fun event remark => .inl (only event remark), quiet⟩
  | closeDown => exact ⟨by simp, wire, table, stan, stats, same⟩
  | reject | finish | conclude => exact ⟨inactive, wire, table, stan, stats, noted (.inr rfl)⟩
  | withdraw | interrupt => exact ⟨inactive, wire, erased _, stan, stats, same⟩
  | advance | await | abort | read | endReading | crashReading | stopWriting | crashClosing
  | endWriting =>
    exact ⟨inactive, wire, table, stan, stats, same⟩
  | drain | issue | send | enqueue | undecoded | unclaimed | claimed | late | refuse | skip
  | register | accept | flush | sent | fail | crashWriting =>
    exact absurd (by assumption) inactive

theorem Frozen.follow (sound : link.Sound) (inactive : link.phase ≠ .active)
    (run : follow? wiring link later = some final) : link.Frozen final :=
  sound.follow_keeps (motive := link.Frozen)
    (fun change sound frozen => frozen.change change sound.phased) run (.refl inactive)

/-- After the active phase a message that is sent is turned away, and nothing else happens. -/
theorem send_of_inactive (inactive : link.phase ≠ .active) (message : M) (timeout : Option Nat) :
    link.send wiring message timeout =
      { link with
        made := link.made + 1
        history := .returned link.made none (.failed .closed) :: link.history } := by
  unfold send prepare
  rw [if_pos inactive]
  rfl

/-! ## The end of the active phase -/

/-- What a drain makes of an active link. -/
structure Drained (link next : Link M) : Prop where
  wire : next.transport.wire = link.transport.wire
  stan : next.stan = link.stan
  table : next.table = ⟨[], true⟩
  stats : next.stats = { link.stats with drained := link.stats.drained + link.table.size }
  closed : ∀ slot ∈ link.table.slots, next.exchanges.poll slot.2 = some (.error .closed)

theorem drained_drain (active : link.phase = .active) (reason : DrainReason) :
    Drained link (link.drain reason) := by
  obtain ⟨told, remarks, -, eq⟩ := drain_of_active active reason
  rw [eq]
  refine ⟨rfl, rfl, rfl, rfl, ?_⟩
  intro slot member
  rw [Exchanges.poll_closeAll, if_pos (List.mem_map_of_mem member)]

theorem drained_stopReading (active : link.phase = .active) (reason : DrainReason) :
    Drained link (link.stopReading (some reason)) := by
  obtain ⟨wire, stan, table, stats, closed⟩ := drained_drain active reason
  exact ⟨wire, stan, table, stats, closed⟩

theorem drained_failReading (active : link.phase = .active) (error : LinkError) :
    Drained link (link.failReading error) := by
  have noted : (link.note (.readerFailed error)).phase = .active := active
  obtain ⟨wire, stan, table, stats, closed⟩ := drained_stopReading noted (.readFailure error)
  exact ⟨wire, stan, table, stats, closed⟩

theorem drained_release (active : link.phase = .active) (left : link.release.phase ≠ .active) :
    Drained link link.release := by
  unfold release at left ⊢
  split
  · obtain ⟨wire, stan, table, stats, closed⟩ := drained_drain active .clientDropped
    dsimp only
    split
    · exact ⟨wire, stan, table, stats, closed⟩
    · exact ⟨wire, stan, table, stats, closed⟩
  · next held =>
    rw [if_neg held] at left
    exact absurd active left

/-- The counter of drained entries is still at zero. -/
theorem drained_eq_zero (run : follow? wiring fresh acts = some link)
    (active : link.phase = .active) : link.stats.drained = 0 := by
  refine sound_fresh.follow_keeps
    (motive := fun link => link.phase = .active → link.stats.drained = 0)
    (fun change sound zero active => ?_) run (fun _ => rfl) active
  have zero := zero ((Grows.of_change change sound.owned).active active)
  cases change with
  | drain | closeDown => cases active
  | _ => exact zero

/-- An act that leaves the active phase takes the link to one that a drain has to do with. -/
theorem Leaves.of_drained (zero : link.stats.drained = 0) (drained : Drained mid next)
    (wire : mid.transport.wire = link.transport.wire) (stan : mid.stan = link.stan)
    (found : AtDrain wiring act link mid.table mid.stats) : Leaves wiring act link next := by
  have zero : mid.stats.drained = 0 := by
    generalize mid.table = table, mid.stats = stats at found
    cases found with
    | plain | undecodable | unwritable | withdrawn => exact zero
  refine ⟨drained.wire.trans wire, drained.stan.trans stan, drained.table, _, _, found, ?_,
    drained.closed⟩
  rw [drained.stats, zero, Nat.zero_add]

theorem deliver_phase (wiring : Wiring M) (link : Link M) (message : M) :
    (deliver wiring link message).phase = link.phase := by
  have step := delivers wiring link message
  generalize deliver wiring link message = next at step ⊢
  cases step <;> rfl

theorem register_phase (link : Link M) (request : Request)
    (unsealed : link.table.isSealed = false) : (link.register request).phase = link.phase := by
  have step := registers link request unsealed
  generalize link.register request = next at step ⊢
  cases step <;> rfl

/-! ### The reader -/

section Steps

variable (zero : link.stats.drained = 0) (active : link.phase = .active)

include zero active

theorem leaves_failReading (error : LinkError) :
    Leaves wiring .read link (link.failReading error) :=
  .of_drained zero (drained_failReading active error) rfl rfl (.plain (by simp))

theorem leaves_dispatch {rest payload : Bytes} (h : dispatch wiring link rest payload = next)
    (left : next.phase ≠ .active) : Leaves wiring .read link next := by
  subst h
  unfold dispatch at left ⊢
  cases read : wiring.codec.unpack payload with
  | message message =>
    simp only [read, deliver_phase] at left
    exact absurd active left
  | refused fault =>
    -- the frame is counted before the link drains because of it
    have counted : ({ link with
        stats := link.stats.readFrame wiring.framing payload.length
        reader := .running rest .boundary }.note (.received payload)).phase = .active := active
    exact .of_drained zero (drained_failReading counted _) rfl rfl (.undecodable rfl read)
  | crashed text =>
    simp only [read] at left
    exact absurd active left

theorem leaves_announce {rest header : Bytes} (h : announce wiring link rest header = next)
    (left : next.phase ≠ .active) : Leaves wiring .read link next := by
  unfold announce at h
  split at h
  · subst h
    exact leaves_failReading zero active _
  · split at h
    · subst h
      exact leaves_failReading zero active _
    · split at h
      · exact leaves_dispatch zero active h left
      · subst h
        exact absurd active left

theorem leaves_consume {buffer : Bytes} {part : Part}
    (h : consume wiring link buffer part = next) (left : next.phase ≠ .active) :
    Leaves wiring .read link next := by
  have header (got : Bytes) (h : readHeader wiring link buffer got = next) :
      Leaves wiring .read link next := by
    unfold readHeader at h
    dsimp only at h
    split at h
    · subst h
      exact absurd active left
    · exact leaves_announce zero active h left
  cases part with
  | boundary => exact header [] h
  | header got => exact header got h
  | payload length missing got =>
    unfold consume readPayload at h
    dsimp only at h
    split at h
    · exact leaves_dispatch zero active h left
    · subst h
      exact absurd active left

theorem leaves_receive {part : Part} {rest : List Inbound} {item : Inbound}
    (h : receive wiring link part rest item = next) (left : next.phase ≠ .active) :
    Leaves wiring .read link next := by
  have taken : ({ link with
      transport := { link.transport with inbound := rest } } : Link M).phase = .active := active
  have broken (error : LinkError) : Leaves wiring .read link
      ({ link with transport := { link.transport with inbound := rest } }.failReading error) :=
    .of_drained zero (drained_failReading taken error) rfl rfl (.plain (by simp))
  cases item with
  | chunk bytes =>
    subst h
    exact absurd active left
  | finish =>
    subst h
    cases part with
    | boundary =>
      have noted : ({ link with
          transport := { link.transport with inbound := rest } }.note .peerFinished).phase =
            .active := active
      exact .of_drained zero (drained_stopReading noted _) rfl rfl (.plain (by simp))
    | header got => exact broken _
    | payload length missing got => exact broken _
  | fault error =>
    unfold receive at h
    dsimp only at h
    split at h
    · subst h
      exact absurd active left
    · subst h
      exact broken _

theorem leaves_readStep? (synced : link.Synced) (h : readStep? wiring link = some next)
    (left : next.phase ≠ .active) : Leaves wiring .read link next := by
  cases readsOn_of_readStep? synced h with
  | stops _ inactive => exact absurd active inactive
  | crashes => exact absurd active left
  | receives => exact leaves_receive zero active rfl left
  | consumes => exact leaves_consume zero active rfl left

/-! ### The writer -/

theorem leaves_failWriting {request : Request} {error : IoError}
    (working : link.writer.request? = some request)
    (h : failWriting wiring link request error = next) (left : next.phase ≠ .active) :
    Leaves wiring .write link next := by
  unfold failWriting at h
  dsimp only at h
  obtain ⟨told, eq⟩ := failKey_eq
    ({ link with
        stats := { link.stats with writeFailures := link.stats.writeFailures + 1 }
        writer := .idle }.note (.writeFailed request.ticket request.key error))
    request.key (.writeFailed request.key error)
  generalize mid : failKey _ _ _ = failed at eq h
  have active' : failed.phase = .active := by rw [eq]; exact active
  split at h
  · subst h
    refine .of_drained zero (drained_drain active' _) (by rw [eq]; rfl) (by rw [eq]; rfl) ?_
    rw [eq]
    exact .unwritable rfl working
  · subst h
    exact absurd active' left

theorem leaves_writerStep? (synced : link.Synced) (h : writerStep? wiring link = some next)
    (left : next.phase ≠ .active) : Leaves wiring .write link next := by
  have unsealed := synced.unsealed active
  unfold writerStep? at h
  simp only [synced.stopAsked_iff] at h
  split at h
  · split at h
    · next inactive => exact absurd active inactive
    · split at h
      · cases h
      · next request rest first =>
        cases h
        rw [register_phase { link with queue := rest } request unsealed] at left
        exact absurd active left
  · next request rest writing =>
    have working : link.writer.request? = some request := by rw [writing, Writer.request?]
    unfold writeStep? at h
    dsimp only at h
    split at h
    · next inactive => exact absurd active inactive
    · split at h
      · cases h
        exact absurd active left
      · split at h
        · cases h
          exact absurd active left
        · split at h
          · cases h
          · exact leaves_failWriting zero active working (Option.some.inj h) left
          · exact leaves_failWriting zero active working (Option.some.inj h) left
          · cases h
            rw [crashWriting_phase] at left
            exact absurd active left
  · next request flushing =>
    have working : link.writer.request? = some request := by rw [flushing, Writer.request?]
    unfold flushStep? at h
    dsimp only at h
    split at h
    · next inactive => exact absurd active inactive
    · split at h
      · cases h
      · exact leaves_failWriting zero active working (Option.some.inj h) left
      · cases h
        rw [crashWriting_phase] at left
        exact absurd active left
      · cases h
        exact absurd active left
  · unfold shutdownStep? at h
    dsimp only at h
    split at h
    · cases h
      exact absurd active left
    · cases h
      exact absurd active left
    · cases h
      exact absurd active left
    · split at h
      · cases h
      · cases h
        exact absurd active left
  · cases h

end Steps

/-! ### The calls -/

theorem leaves_finish {call : Call} {result : Result M} (zero : link.stats.drained = 0)
    (phase : mid.phase = .active) (wire : mid.transport.wire = link.transport.wire)
    (stan : mid.stan = link.stan) (found : AtDrain wiring act link mid.table mid.stats)
    (left : (mid.finish call result).phase ≠ .active) :
    Leaves wiring act link (mid.finish call result) := by
  have returned : ((mid.removeCall call).note
      (.returned call.number call.ticket? result)).phase = .active := phase
  exact .of_drained zero (drained_release returned left) wire stan found

/-- A call that runs out of time takes at most one entry out of the table. -/
theorem atDrain_expire (mid : Link M) {call : Call} {request : Request}
    {handed handed' first : Bool} {timer : Option Timer} (member : call ∈ link.calls)
    (task : call.task = .send request handed timer) (table : mid.table = link.table)
    (stats : mid.stats = link.stats) (exchanges : mid.exchanges = link.exchanges)
    (deadline : Timer) :
    AtDrain wiring (.turn call.number first) link (mid.expire request handed' deadline).1.table
        (mid.expire request handed' deadline).1.stats ∧
      (mid.expire request handed' deadline).1.phase = mid.phase ∧
      (mid.expire request handed' deadline).1.transport.wire = mid.transport.wire ∧
      (mid.expire request handed' deadline).1.stan = mid.stan := by
  obtain ⟨told, remarks, -, expired⟩ := expire_eq mid request handed' deadline
  rcases expired with ⟨holder, found, gone, eq⟩ | ⟨-, eq⟩
  · rw [eq]
    refine ⟨?_, rfl, rfl, rfl⟩
    simp only [table, stats]
    rw [table] at found
    rw [exchanges, Exchanges.isAbandoned_quit] at gone
    refine .withdrawn rfl member task found ?_
    split at gone
    · next own => exact .inl own
    · exact .inr gone
  · rw [eq]
    refine ⟨?_, rfl, rfl, rfl⟩
    simp only [table, stats]
    exact .plain (by simp)

/-- What a call that takes its turn leaves in the table. -/
theorem atDrain_turn {call : Call} {ready first : Bool} {how : Turn M}
    (member : call ∈ link.calls) (turn : turn? wiring link ready call = some (mid, how)) :
    AtDrain wiring (.turn call.number first) link mid.table mid.stats ∧
      mid.phase = link.phase ∧ mid.transport.wire = link.transport.wire ∧
      mid.stan = link.stan := by
  have plain : AtDrain wiring (.turn call.number first) link link.table link.stats :=
    .plain (by simp)
  unfold turn? at turn
  cases task : call.task with
  | send request handed timer =>
    cases handed with
    | false =>
      simp only [task] at turn
      split at turn
      · cases turn
        obtain ⟨told, eq⟩ := leave_eq link request false
        rw [eq]
        exact ⟨plain, rfl, rfl, rfl⟩
      · split at turn
        · split at turn
          · next done due =>
            cases turn
            obtain ⟨deadline, -, -, expired⟩ := expireIfDue_eq_some due
            cases expired
            exact atDrain_expire
              ({ link with queue := link.queue ++ [request] }.note (.queued request.ticket))
              member task rfl rfl rfl deadline
          · cases turn
            exact ⟨plain, rfl, rfl, rfl⟩
        · obtain ⟨deadline, -, -, expired⟩ := expireIfDue_eq_some turn
          cases expired
          exact atDrain_expire _ member task rfl rfl rfl deadline
    | true =>
      simp only [task] at turn
      split at turn
      · cases turn
        exact ⟨plain, rfl, rfl, rfl⟩
      · cases turn
        exact ⟨plain, rfl, rfl, rfl⟩
      · obtain ⟨deadline, -, -, expired⟩ := expireIfDue_eq_some turn
        cases expired
        exact atDrain_expire _ member task rfl rfl rfl deadline
  | close =>
    simp only [task] at turn
    split at turn
    · cases turn
      exact ⟨plain, rfl, rfl, rfl⟩
    · cases turn
      exact ⟨plain, rfl, rfl, rfl⟩
    · cases turn
  | watch =>
    simp only [task] at turn
    split at turn
    · cases turn
      exact ⟨plain, rfl, rfl, rfl⟩
    · cases turn

theorem leaves_turn {number : Nat} {first : Bool} (zero : link.stats.drained = 0)
    (active : link.phase = .active) (h : act? wiring link (.turn number first) = some next)
    (left : next.phase ≠ .active) : Leaves wiring (.turn number first) link next := by
  obtain ⟨call, found, turned⟩ := Option.bind_eq_some_iff.1 h
  have same : call.number = number := by simpa using List.find?_some found
  obtain ⟨⟨mid, how⟩, turn, rfl⟩ := turnOf?_eq_some turned
  subst same
  obtain ⟨found, phase, wire, stan⟩ := atDrain_turn (List.mem_of_find?_eq_some found) turn
  cases how with
  | goOn call => exact absurd (phase.trans active) left
  | returns result => exact leaves_finish zero (phase.trans active) wire stan found left

/-! ### The supervisor and the operations -/

theorem leaves_superviseStep? (zero : link.stats.drained = 0) (active : link.phase = .active)
    (h : link.superviseStep? = some next) : Leaves wiring .supervise link next := by
  have closes (noted : Link M) (fault : Option LinkError) (phase : noted.phase = .active)
      (wire : noted.transport.wire = link.transport.wire) (stan : noted.stan = link.stan)
      (found : AtDrain wiring .supervise link noted.table noted.stats) :
      Leaves wiring .supervise link
        ({ noted.drain .loopsExited with phase := .closed, shutdownFault := fault }.note
          .closed) := by
    obtain ⟨wire', stan', table, stats, closed⟩ := drained_drain phase .loopsExited
    exact .of_drained zero ⟨wire', stan', table, stats, closed⟩ wire stan found
  have plain : AtDrain wiring .supervise link link.table link.stats := .plain (by simp)
  unfold superviseStep? at h
  split at h
  · cases h
  · next how crash writer reader unclosed =>
    cases how <;> cases crash <;> cases h <;> exact closes _ _ active rfl rfl plain
  · cases h

/-- An act that gives no reason to drain leaves a link active. -/
theorem active_of_changes (chain : Changes wiring act link next)
    (never : ∀ mid reason, ¬DrainCause wiring act mid reason) (active : link.phase = .active) :
    next.phase = .active := by
  refine chain.keeps (motive := fun link => link.phase = .active) ?_ active
  intro before after change active
  cases change with
  | drain _ cause => exact absurd cause (never _ _)
  | closeDown draining =>
    rw [draining] at active
    cases active
  | _ => exact active

theorem leaves_play {operation : Operation M} (zero : link.stats.drained = 0)
    (active : link.phase = .active) (left : (play wiring link operation).2.phase ≠ .active) :
    Leaves wiring (.play operation) link (play wiring link operation).2 := by
  have plain : AtDrain wiring (.play operation) link link.table link.stats := .plain (by simp)
  have remains (calm : ∀ mid reason, ¬DrainCause wiring (.play operation) mid reason) :
      Leaves wiring (.play operation) link (play wiring link operation).2 :=
    absurd (active_of_changes (play_changes operation) calm active) left
  cases operation with
  | close =>
    simp only [play, withHandle] at left ⊢
    split at left
    · next handle =>
      rw [if_pos handle]
      obtain ⟨wire, stan, table, stats, closed⟩ := drained_drain active .userClose
      exact .of_drained zero ⟨wire, stan, table, stats, closed⟩ rfl rfl plain
    · exact absurd active left
  | abort number =>
    simp only [play, abort] at left ⊢
    split at left
    · exact absurd active left
    · next call found =>
      cases task : call.task with
      | send request handed timer =>
        obtain ⟨told, eq⟩ := leave_eq (link.removeCall call) request handed
        simp only [task, eq] at left ⊢
        exact .of_drained zero (drained_release active left) rfl rfl plain
      | close | watch =>
        simp only [task] at left ⊢
        exact .of_drained zero (drained_release active left) rfl rfl plain
  | dropHandle =>
    simp only [play, dropHandle] at left ⊢
    split at left
    · next handle =>
      rw [if_pos handle]
      exact .of_drained zero (drained_release active left) rfl rfl plain
    · exact absurd active left
  | pause | send | watch | arrive | transport | advance | takeUnmatched | dropUnmatched
  | receiveUnmatched =>
    refine remains ?_
    intro mid reason cause
    cases cause with
    | closed asked | finished asked | unreadable asked | unwritable asked | exited asked =>
      cases asked
    | released asked => cases asked

/-- An act after which the link is no longer active drains it. -/
theorem leaves_of_act (run : follow? wiring fresh acts = some link)
    (moved : act? wiring link act = some next) (active : link.phase = .active)
    (left : next.phase ≠ .active) : Leaves wiring act link next := by
  have zero := drained_eq_zero run active
  have synced := (consistent_of_run run).sound.phased.synced
  cases act with
  | read => exact leaves_readStep? zero active synced moved left
  | write => exact leaves_writerStep? zero active synced moved left
  | turn number first => exact leaves_turn zero active moved left
  | supervise => exact leaves_superviseStep? zero active moved
  | play operation =>
    cases moved
    exact leaves_play zero active left

/-- A link that is not active any more has left its active phase in one step of its run. -/
theorem exists_leaves (run : follow? wiring fresh acts = some link)
    (inactive : link.phase ≠ .active) : ∃ earlier act later mid next,
      acts = earlier ++ act :: later ∧ follow? wiring fresh earlier = some mid ∧
        act? wiring mid act = some next ∧ mid.phase = .active ∧ next.phase ≠ .active ∧
          Leaves wiring act mid next ∧ next.Frozen link := by
  obtain ⟨earlier, act, later, mid, next, split, run', moved, onward, before, left⟩ :=
    exists_act_of_follow (motive := fun link => link.phase ≠ .active) run (fun start => start rfl)
      inactive
  have active := Decidable.not_not.1 before
  have sound := (consistent_of_run run').sound.after moved
  exact ⟨earlier, act, later, mid, next, split, run', moved, active, left,
    leaves_of_act run' moved active left, .follow sound left onward⟩

/-- In the step in which a link leaves its active phase no byte is written and no trace number
issued, and the counter of drained entries is set to the number of those that are failed. After
that step nothing is written, filed, issued or counted, whatever the tasks, the user and the peer
do; a message that is sent is turned away at once; and the link is never active again. -/
theorem frozen_of_left (run : follow? wiring fresh acts = some link)
    (moved : act? wiring link act = some next) (active : link.phase = .active)
    (left : next.phase ≠ .active) :
    Leaves wiring act link next ∧
      ∀ later final, follow? wiring next later = some final →
        Frozen next final ∧
          ∀ message timeout, act? wiring final (.play (.send message timeout)) =
            some (if final.handle then
              { final with
                made := final.made + 1
                history := .returned final.made none (.failed .closed) :: final.history }
            else final) := by
  refine ⟨leaves_of_act run moved active left, ?_⟩
  intro later final onward
  have sound := (consistent_of_run run).sound.after moved
  have frozen := Frozen.follow sound left onward
  refine ⟨frozen, ?_⟩
  intro message timeout
  simp only [act?, play, withHandle]
  split
  · rw [send_of_inactive frozen.inactive]
  · rfl

/-! ## A link that is closed while it writes -/

section Busy

open Rehearsal

/-- The transport has taken five bytes of the first request's frame; a second request is queued. -/
def busyRun : List (Act Scripted) :=
  [.play (.transport { write := some (some 5, .stalled) }),
    .play (.send (scriptedMessage "000001") none), .turn 0 true, .write, .write,
    .play (.send (scriptedMessage "000002") none), .turn 1 true]

/-- The link after that run, and when its user has closed it. -/
def busyLink : Link Scripted × Link Scripted :=
  (scriptedLink busyRun, scriptedLink (busyRun ++ [.play .close]))

theorem follow?_busy : follow? scriptedWiring fresh busyRun = some busyLink.1 ∧
    act? scriptedWiring busyLink.1 (.play .close) = some busyLink.2 := by
  have run : follow? scriptedWiring fresh busyRun = some busyLink.1 :=
    follow?_scripted (by decide +kernel)
  have all : follow? scriptedWiring fresh (busyRun ++ [.play .close]) = some busyLink.2 :=
    follow?_scripted (by decide +kernel)
  obtain ⟨link, run', closed⟩ := follow?_append.1 all
  rw [run] at run'
  cases run'
  obtain ⟨next, moved, last⟩ := follow?_cons.1 closed
  cases last
  exact ⟨run, moved⟩

theorem busyLink_eq : busyLink.1.phase = .active ∧ busyLink.2.phase ≠ .active ∧
    busyLink.2.transport.wire = [0, 14, 0, 0, 48] ∧ busyLink.2.queue.length = 1 ∧
    busyLink.2.stats.drained = 1 := by
  decide +kernel

theorem frozen_of_left_busy :
    busyLink.1.phase = .active ∧ busyLink.2.phase ≠ .active ∧
      Leaves scriptedWiring (.play .close) busyLink.1 busyLink.2 ∧
      ∀ later final, follow? scriptedWiring busyLink.2 later = some final →
        final.phase ≠ .active ∧ final.transport.wire = [0, 14, 0, 0, 48] ∧
          final.stats.drained = 1 := by
  obtain ⟨active, left, wire, -, drained⟩ := busyLink_eq
  obtain ⟨leaves, onward⟩ := frozen_of_left follow?_busy.1 follow?_busy.2 active left
  refine ⟨active, left, leaves, ?_⟩
  intro later final run
  obtain ⟨frozen, -⟩ := onward later final run
  exact ⟨frozen.inactive, frozen.wire.trans wire, by rw [frozen.stats, drained]⟩

end Busy

end Multiplex.Link
