import Multiplex.Proofs.Change

/-!
# Every act is a chain of elementary changes

One lemma for each function of the reader, the writer, the supervisor, the calls and the user; the
main statement is `act?_changes`.
-/

namespace Multiplex

variable {M : Type}

namespace Link

variable {wiring : Wiring M} {act : Act M} {link next : Link M}

theorem note_changes (event : Event M) (remark : event.isRemark = true) :
    Changes wiring act link (link.note event) :=
  .single (.remarked (.cons _ remark .nil))

theorem drain_trails {reason : DrainReason}
    (cause : link.phase = .active → DrainCause wiring act link reason) :
    Relation.ReflTransGen (Trails wiring act) link (link.drain reason) := by
  by_cases active : link.phase = .active
  · obtain ⟨told, remarks, only, eq⟩ := drain_of_active active reason
    rw [eq]
    exact .head (.drain active (cause active)) (.single (.remarked only))
  · rw [drain_of_not_active active]
    exact .single (.remarked (.cons _ rfl .nil))

theorem drain_changes {reason : DrainReason}
    (cause : link.phase = .active → DrainCause wiring act link reason) :
    Changes wiring act link (link.drain reason) :=
  (drain_trails cause).lift id fun _ _ => Trails.change

theorem release_changes (asked : act.mayRelease = true) :
    Changes wiring act link link.release := by
  unfold release
  split
  · next nobody =>
    obtain ⟨handle, calls⟩ : link.handle = false ∧ link.calls = [] := by simpa using nobody
    have drained : Changes wiring act link (link.drain .clientDropped) :=
      drain_changes fun _ => .released asked handle calls
    dsimp only
    split
    · exact .tail drained (.remarked .nil)
    · exact drained
  · exact .refl

/-! ## The reader -/

theorem stopReading_changes {buffer : Bytes} {part : Part}
    (running : link.reader = .running buffer part) (reason : Option DrainReason)
    (drained : reason = none → link.phase ≠ .active)
    (cause : ∀ own, reason = some own → DrainCause wiring .read link own) :
    Changes wiring .read link (link.stopReading reason) := by
  unfold stopReading
  cases reason with
  | none =>
    exact .tail (.single (.endReading (drained rfl) running rfl)) (.remarked (.cons _ rfl .nil))
  | some reason =>
    -- the link drains first, so the reader ends on a link that is no longer active
    have ended : Change wiring .read (link.drain reason)
        { link.drain reason with reader := .ended none } :=
      .endReading (drain_phase_ne_active link reason) ((drain_reader link reason).trans running)
        rfl
    exact .tail (.tail (drain_changes fun _ => cause reason rfl) ended)
      (.remarked (.cons _ rfl .nil))

theorem failReading_changes {buffer : Bytes} {part : Part}
    (running : link.reader = .running buffer part) (error : LinkError) :
    Changes wiring .read link (link.failReading error) := by
  unfold failReading
  have running : (link.note (.readerFailed error)).reader = .running buffer part := running
  refine .trans (note_changes _ rfl) (stopReading_changes running _ (fun none => nomatch none) ?_)
  intro own same
  cases same
  exact .unreadable rfl

theorem deliver_changes {buffer payload : Bytes} {part : Part} {message : M}
    (active : link.phase = .active) (running : link.reader = .running buffer part)
    (read : wiring.codec.unpack payload = .message message) :
    Changes wiring .read link (deliver wiring
      { link with
        stats := link.stats.readFrame wiring.framing payload.length
        history := .received payload :: link.history } message) := by
  -- whether an entry has the message's key is settled before the frame is counted
  have step := delivers wiring
    { link with
      stats := link.stats.readFrame wiring.framing payload.length
      history := .received payload :: link.history } message
  generalize deliver wiring _ message = next at step ⊢
  cases step with
  | unclaimed nobody only =>
    exact .tail (.single (.unclaimed active running read nobody rfl)) (.remarked only)
  | claimed derived found live =>
    exact .tail (.single (.claimed active running read derived found live rfl)) (.remarked .nil)
  | late derived found gone only =>
    exact .tail (.single (.late active running read derived found gone rfl)) (.remarked only)

theorem dispatch_changes {buffer : Bytes} {part : Part} (active : link.phase = .active)
    (running : link.reader = .running buffer part) (rest payload : Bytes) :
    Changes wiring .read link (dispatch wiring link rest payload) := by
  -- the frame is taken off the buffer before it is looked at
  have moved : Change wiring .read link { link with reader := .running rest .boundary } :=
    .read running rfl
  have boundary (stats : Stats) (history : List (Event M)) :
      ({ link with reader := .running rest .boundary, stats, history } : Link M).reader =
        .running rest .boundary := rfl
  refine .trans (.single moved) ?_
  unfold dispatch
  cases read : wiring.codec.unpack payload with
  | message message => exact deliver_changes active (boundary _ _) read
  | refused fault =>
    have unread : ∀ message, wiring.codec.unpack payload ≠ .message message := by simp [read]
    exact .trans (.single (.undecoded active (boundary _ _) unread rfl))
      (failReading_changes (boundary _ _) _)
  | crashed text =>
    have unread : ∀ message, wiring.codec.unpack payload ≠ .message message := by simp [read]
    exact .tail (.single (.undecoded active (boundary _ _) unread rfl))
      (.crashReading (boundary _ _) (.inr ⟨payload, List.mem_cons_self, read⟩) (.inl rfl))

theorem announce_changes {buffer : Bytes} {part : Part} (active : link.phase = .active)
    (running : link.reader = .running buffer part) (rest header : Bytes) :
    Changes wiring .read link (announce wiring link rest header) := by
  unfold announce
  cases wiring.framing.decode header with
  | error fault => exact failReading_changes running _
  | ok length =>
    dsimp only
    split
    · exact failReading_changes running _
    · split
      · exact dispatch_changes active running rest []
      · exact .single (.read running rfl)

theorem consume_changes {buffer : Bytes} {part : Part} (active : link.phase = .active)
    (running : link.reader = .running buffer part) :
    Changes wiring .read link (consume wiring link buffer part) := by
  have header : ∀ got, Changes wiring .read link (readHeader wiring link buffer got) := by
    intro got
    unfold readHeader
    dsimp only
    split
    · exact .single (.read running rfl)
    · exact announce_changes active running _ _
  cases part with
  | boundary => exact header []
  | header got => exact header got
  | payload length missing got =>
    unfold consume readPayload
    dsimp only
    split
    · exact dispatch_changes active running _ _
    · exact .single (.read running rfl)

theorem receive_changes {buffer : Bytes} {part : Part}
    (running : link.reader = .running buffer part) (rest : List Inbound) (item : Inbound) :
    Changes wiring .read link (receive wiring link part rest item) := by
  have taken (inbound : List Inbound) : Change wiring .read link
      { link with transport := { link.transport with inbound } } :=
    .aside .nil rfl rfl (fun _ => rfl) (fun asked => absurd rfl asked) fun _ => rfl
  have broken (error : LinkError) : Changes wiring .read link
      ({ link with transport := { link.transport with inbound := rest } }.failReading error) := by
    have running :
        ({ link with transport := { link.transport with inbound := rest } } : Link M).reader =
          .running buffer part := running
    exact .trans (.single (taken rest)) (failReading_changes running error)
  cases item with
  | chunk bytes =>
    exact .tail (.single (.read running rfl))
      (.aside .nil rfl rfl (fun _ => rfl) (fun asked => absurd rfl asked) fun _ => rfl)
  | finish =>
    cases part with
    | boundary =>
      refine .trans (.single (taken rest)) (.trans (note_changes .peerFinished rfl) ?_)
      have running :
          ({ link with transport := { link.transport with inbound := rest } }.note
            .peerFinished).reader = .running buffer .boundary := running
      refine stopReading_changes running (some .peerClosed) (fun none => nomatch none) ?_
      intro own same
      cases same
      exact .finished rfl
    | header got => exact broken _
    | payload length missing got => exact broken _
  | fault error =>
    unfold receive
    dsimp only
    split
    · exact .single (taken rest)
    · exact broken _

theorem readStep?_changes (synced : link.Synced) (h : readStep? wiring link = some next) :
    Changes wiring .read link next := by
  cases readsOn_of_readStep? synced h with
  | stops running inactive =>
    exact stopReading_changes running none (fun _ => inactive) fun own same => nomatch same
  | crashes running _ poisoned => exact .single (.crashReading running (.inl poisoned) (.inl rfl))
  | receives running => exact receive_changes running _ _
  | consumes running active => exact consume_changes active running

/-! ## The writer -/

theorem register_moves {request : Request} {rest : List Request}
    (active : link.phase = .active) (unsealed : link.table.isSealed = false)
    (idle : link.writer = .idle) (first : link.queue = request :: rest) :
    Moves wiring .write link ({ link with queue := rest }.register request) := by
  have step := registers { link with queue := rest } request unsealed
  generalize register _ request = next at step ⊢
  cases step with
  | refused found live =>
    exact .of_trail (.refuse active idle first found live rfl) (.single (.remarked .nil)) rfl
  | skipped free gone =>
    exact .of_trail (.skip active idle first free gone rfl) (.single (.remarked .nil)) rfl
  | begun free live =>
    exact .of_trail (.register active idle first free live rfl) (.single (.remarked .nil)) rfl

theorem failWriting_moves {request : Request} {error : IoError} (active : link.phase = .active)
    (working : link.writer.request? = some request)
    (unwilling : link.transport.stop ≠ .stalled ∨ link.transport.flush = .fault error) :
    Moves wiring .write link (failWriting wiring link request error) := by
  unfold failWriting
  dsimp only
  obtain ⟨told, eq⟩ := failKey_eq
    ({ link with
        stats := { link.stats with writeFailures := link.stats.writeFailures + 1 }
        writer := .idle }.note (.writeFailed request.ticket request.key error))
    request.key (.writeFailed request.key error)
  rw [eq]
  split
  · next policy =>
    refine .intro (.fail active working rfl unwilling)
      (.trans (.single (.remarked .nil)) (drain_trails fun _ =>
        .unwritable rfl policy ⟨_, _, _, List.mem_cons_self⟩)) ?_
    exact fun _ _ => drain_phase_ne_active _ _
  · next policy =>
    exact .intro (.fail active working rfl unwilling) (.single (.remarked .nil))
      fun policy' => absurd policy' policy

theorem interrupt_moves {request : Request} (inactive : link.phase ≠ .active)
    (working : link.writer.request? = some request) :
    Moves wiring .write link (link.interrupt request) := by
  obtain ⟨told, eq⟩ := failKey_eq
    ({ link with writer := .idle }.note (.interrupted request.ticket request.key))
    request.key .closed
  unfold interrupt
  dsimp only
  rw [eq]
  exact .of_trail (.interrupt inactive working rfl)
    (.single (.remarked (.cons (.interrupted request.ticket request.key) rfl .nil))) rfl

theorem crashWriting_moves {request : Request} (active : link.phase = .active)
    (working : link.writer.request? = some request) {text : String}
    (stop : link.transport.stop = .crashes text ∨ link.transport.flush = .crashes text) :
    Moves wiring .write link (link.crashWriting text) := by
  obtain ⟨told, eq⟩ := crashWriting_eq link text
  rw [eq]
  exact .of_trail (.crashWriting active working rfl stop) (.single (.remarked .nil)) rfl

theorem writeStep?_moves {request : Request} {rest : Bytes} (active : link.phase = .active)
    (writing : link.writer = .writing request rest)
    (h : writeStep? wiring link request rest = some next) : Moves wiring .write link next := by
  have working : link.writer.request? = some request := by rw [writing, Writer.request?]
  unfold writeStep? at h
  split at h
  · next done =>
    rw [List.isEmpty_iff.1 done] at writing
    cases h
    exact .of_trail (.flush active writing rfl) .refl rfl
  · dsimp only at h
    split at h
    · next positive =>
      have most := link.transport.accepts_le rest.length
      cases h
      exact .of_trail (.accept active writing positive most rfl) .refl rfl
    · split at h
      · cases h
      · next error stop =>
        cases h
        exact failWriting_moves active working (.inl (by simp [stop]))
      · next stop =>
        cases h
        exact failWriting_moves active working (.inl (by simp [stop]))
      · next stop =>
        cases h
        exact crashWriting_moves active working (.inl stop)

theorem flushStep?_moves {request : Request} (active : link.phase = .active)
    (flushing : link.writer = .flushing request)
    (h : flushStep? wiring link request = some next) : Moves wiring .write link next := by
  have working : link.writer.request? = some request := by rw [flushing, Writer.request?]
  unfold flushStep? at h
  split at h
  · cases h
  · next error flush =>
    cases h
    exact failWriting_moves active working (.inr flush)
  · next flush =>
    cases h
    exact crashWriting_moves active working (.inr flush)
  · cases h
    exact .of_trail (.sent active flushing rfl) .refl rfl

theorem shutdownStep?_moves (closing : link.writer = .closing)
    (h : link.shutdownStep? = some next) : Moves wiring .write link next := by
  have ends (how : WriterEnd) (quiet : ∀ text, how ≠ .crashed text) : Moves wiring .write link
      { link with
        transport := { link.transport with shutdownAsked := true }
        writer := .ended how } :=
    .of_trail (.endWriting closing quiet rfl) (.single (.aside .nil rfl rfl rfl rfl)) rfl
  unfold shutdownStep? at h
  split at h
  · cases h
    exact ends .done fun text same => nomatch same
  · cases h
    exact ends (.fault _) fun text same => nomatch same
  · next answer =>
    cases h
    exact .of_trail (.crashClosing closing rfl answer)
      (.single (.aside .nil rfl rfl rfl rfl)) rfl
  · split at h
    · cases h
    · cases h
      have asked : Change wiring .write link
          { link with transport := { link.transport with shutdownAsked := true } } :=
        .aside .nil rfl rfl (fun _ => rfl) (fun _ _ => rfl) fun _ => rfl
      exact .of_trail asked .refl rfl

/-- A step of the writer is one change, which a drain follows if a frame could not be written. -/
theorem writerStep?_moves (synced : link.Synced) (h : writerStep? wiring link = some next) :
    Moves wiring .write link next := by
  unfold writerStep? at h
  simp only [synced.stopAsked_iff] at h
  split at h
  · next idle =>
    split at h
    · next inactive =>
      cases h
      obtain ⟨told, remarks, only, eq⟩ := stopWriting_eq link
      rw [eq]
      exact .of_trail (.stopWriting inactive idle rfl) (.single (.remarked only)) rfl
    · next active =>
      have active := Decidable.not_not.1 active
      split at h
      · cases h
      · next request rest first =>
        cases h
        exact register_moves active (synced.unsealed active) idle first
  · next request rest writing =>
    split at h
    · next inactive =>
      cases h
      exact interrupt_moves inactive (by rw [writing, Writer.request?])
    · next active => exact writeStep?_moves (Decidable.not_not.1 active) writing h
  · next request flushing =>
    split at h
    · next inactive =>
      cases h
      exact interrupt_moves inactive (by rw [flushing, Writer.request?])
    · next active => exact flushStep?_moves (Decidable.not_not.1 active) flushing h
  · next closing => exact shutdownStep?_moves closing h
  · cases h

/-! ## The supervisor -/

theorem closeDown_changes {how : WriterEnd} {crash : Option String}
    (unclosed : link.phase ≠ .closed) (writer : link.writer = .ended how)
    (reader : link.reader = .ended crash) :
    Changes wiring .supervise link
      ({ link.drain .loopsExited with
          phase := .closed, shutdownFault := how.fault? }.note .closed) := by
  have draining := drain_phase_of_not_closed unclosed .loopsExited
  have closed : Change wiring .supervise (link.drain .loopsExited)
      { link.drain .loopsExited with phase := .closed, shutdownFault := how.fault? } :=
    .closeDown draining ((drain_writer link _).trans writer) ((drain_reader link _).trans reader)
      rfl
  have drained : Changes wiring .supervise link (link.drain .loopsExited) :=
    drain_changes fun _ =>
      .exited rfl (by rw [writer, Writer.isEnded]) (by rw [reader, Reader.isEnded])
  exact .trans (.tail drained closed) (note_changes _ rfl)

theorem superviseStep?_changes (h : link.superviseStep? = some next) :
    Changes wiring .supervise link next := by
  unfold superviseStep? at h
  split at h
  · cases h
  · next how crash writer reader unclosed =>
    -- a loop that did not end in order is remarked on; then the link drains and closes
    have noted : ∃ noted : Link M, Changes wiring .supervise link noted ∧ noted.phase ≠ .closed ∧
        noted.writer = .ended how ∧ noted.reader = .ended crash ∧
        next = { noted.drain .loopsExited with
          phase := .closed, shutdownFault := how.fault? }.note .closed := by
      cases how <;> cases crash <;> cases h
      · exact ⟨link, .refl, unclosed, writer, reader, rfl⟩
      · exact ⟨_, note_changes _ rfl, unclosed, writer, reader, rfl⟩
      · exact ⟨link, .refl, unclosed, writer, reader, rfl⟩
      · exact ⟨_, note_changes _ rfl, unclosed, writer, reader, rfl⟩
      · exact ⟨_, note_changes _ rfl, unclosed, writer, reader, rfl⟩
      · exact ⟨_, .trans (note_changes _ rfl) (note_changes _ rfl), unclosed, writer, reader, rfl⟩
    obtain ⟨noted, chain, unclosed, writer, reader, rfl⟩ := noted
    exact .trans chain (closeDown_changes unclosed writer reader)
  · cases h

/-! ## The calls -/

/-- A call that may return does so, and the caller of its ticket is gone. -/
theorem returned_changes (link : Link M) (call : Call) {request : Request} {handed : Bool}
    {timer : Option Timer} {result : Result M} {first : Bool}
    (asked : act = .turn call.number first) (member : call ∈ link.calls)
    (task : call.task = .send request handed timer)
    (returns : Returns link request timer handed result) {remarks : List (Event M)}
    (only : Remarks remarks) (told : List Ticket) :
    Changes wiring act link
      { link with
        exchanges := link.exchanges.quit request.ticket handed
        calls := link.calls.filter fun other => other.number ≠ call.number
        told
        history := .returned call.number (some request.ticket) result ::
          (remarks ++ link.history) } := by
  -- remarks have no part in what a call may return
  have returns : Returns { link with told, history := remarks ++ link.history }
      request timer handed result := by
    cases returns with
    | outcome there => exact .outcome there
    | turnedAway shut => exact .turnedAway shut
    | late timed passed nothing => exact .late timed passed nothing
  have noted : Change wiring act link { link with told, history := remarks ++ link.history } :=
    .remarked only
  exact .tail (.single noted) (.finish asked member task returns)

theorem finish_changes {call : Call} {request : Request} {handed : Bool} {timer : Option Timer}
    {result : Result M} {first : Bool} (asked : act = .turn call.number first)
    (member : call ∈ link.calls) (task : call.task = .send request handed timer)
    (returns : Returns link request timer handed result) (told : List Ticket) :
    Changes wiring act link
      ({ link with
          exchanges := link.exchanges.quit request.ticket handed, told }.finish call result) := by
  have ticket : call.ticket? = some request.ticket := by rw [Call.ticket?, task]
  unfold finish
  rw [ticket]
  exact .trans (returned_changes link call asked member task returns .nil _)
    (release_changes (by rw [asked, Act.mayRelease]))

/-- A call whose deadline has passed ends, also if its request was handed over just before, which
changes nothing about the other calls. -/
theorem expire_changes {start : Link M} (calls : List Call) {call : Call} {request : Request}
    {handed : Bool} (timer : Option Timer) {deadline : Timer} {first : Bool}
    (asked : act = .turn call.number first)
    (begun : Changes wiring act start { link with calls })
    (others : (calls.filter fun other => other.number ≠ call.number) =
      link.calls.filter fun other => other.number ≠ call.number)
    (member : ⟨call.number, .send request handed timer⟩ ∈ calls)
    (ticket : call.ticket? = some request.ticket)
    (returns : Returns { link with calls } request timer handed
      (.failed (.timedOut request.key deadline.millis))) :
    Changes wiring act start
      ((link.expire request handed deadline).1.finish call
        (.failed (.timedOut request.key deadline.millis))) := by
  obtain ⟨told, remarks, only, expired⟩ := expire_eq link request handed deadline
  have returned : Changes wiring act { link with calls } _ :=
    returned_changes { link with calls } ⟨call.number, .send request handed timer⟩ asked member rfl
      returns only (told.filter fun ticket => call.ticket? ≠ some ticket)
  rw [others] at returned
  have ends : act.mayRelease = true := by rw [asked, Act.mayRelease]
  unfold finish
  rw [ticket]
  rcases expired with ⟨holder, found, gone, eq⟩ | ⟨-, eq⟩
  · rw [eq]
    exact .trans (.tail (.trans begun returned) (.withdraw found gone ⟨_, _, asked⟩))
      (release_changes ends)
  · rw [eq]
    exact .trans (.trans begun returned) (release_changes ends)

/-- What `expireIfDue` gives is the end of a call whose deadline has passed. -/
theorem expireIfDue_eq_some {request : Request} {handed : Bool} {timer : Option Timer}
    {after : Link M × Turn M} (h : link.expireIfDue request handed timer = some after) :
    ∃ deadline, timer = some deadline ∧ deadline.due ≤ link.clock ∧
      after = ((link.expire request handed deadline).1,
        .returns (.failed (.timedOut request.key deadline.millis))) := by
  unfold expireIfDue at h
  cases timer with
  | none => cases h
  | some deadline =>
    dsimp only at h
    split at h
    · next passed =>
      cases h
      exact ⟨deadline, rfl, passed, rfl⟩
    · cases h

/-- The link after one call has come to something. -/
def settleTurn (call : Call) : Link M × Turn M → Link M
  | (link, .goOn call) =>
    { link with
      calls := link.calls.map fun other => if other.number = call.number then call else other }
  | (link, .returns result) => link.finish call result

theorem turnOf?_eq_some {first : Option Nat} {call : Call}
    (h : turnOf? wiring link first call = some next) :
    ∃ after, turn? wiring link (first = some call.number) call = some after ∧
      next = settleTurn call after := by
  unfold turnOf? at h
  split at h
  · cases h
  · next turn =>
    cases h
    exact ⟨_, turn, rfl⟩
  · next turn =>
    cases h
    exact ⟨_, turn, rfl⟩

theorem filter_replaced {calls : List Call} {call : Call} {number : Nat}
    (same : call.number = number) :
    ((calls.map fun other => if other.number = number then call else other).filter
        fun other => other.number ≠ number) =
      calls.filter fun other => other.number ≠ number := by
  induction calls with
  | nil => rfl
  | cons other rest ih =>
    by_cases replaced : other.number = number
    · simp only [List.map_cons, replaced, if_true, ne_eq, same, not_true_eq_false, decide_false,
        Bool.false_eq_true, not_false_eq_true, List.filter_cons_of_neg]
      exact ih
    · simp only [List.map_cons, replaced, if_false, ne_eq, not_false_eq_true, decide_true,
        List.filter_cons_of_pos, List.cons.injEq, true_and]
      exact ih

/-- A call that is still in line is turned away, hands its request over, or runs out of time. -/
theorem lineTurn_changes (synced : link.Synced) {first : Bool} {call : Call} {request : Request}
    {timer : Option Timer} {after : Link M × Turn M} {turn : Bool}
    (asked : act = .turn call.number turn) (ahead : first = true → turn = true)
    (member : call ∈ link.calls) (task : call.task = .send request false timer)
    (h : turn? wiring link first call = some after) :
    Changes wiring act link (settleTurn call after) := by
  have ticket : call.ticket? = some request.ticket := by rw [Call.ticket?, task]
  unfold turn? at h
  simp only [task] at h
  split at h
  · next shut =>
    cases h
    obtain ⟨told, eq⟩ := leave_eq link request false
    have shut : link.phase ≠ .active ∨ link.queueOpen = false := by
      simpa [synced.stopAsked_iff] using shut
    unfold settleTurn
    rw [eq]
    exact finish_changes asked member task (.turnedAway shut) told
  · next opened =>
    have opened : link.phase = .active ∧ link.queueOpen = true := by
      simpa [synced.unasked_iff] using opened
    split at h
    · next room =>
      obtain ⟨ready, room⟩ :
          first = true ∧ link.queue.length < max wiring.config.writeQueueDepth 1 := by
        simpa using room
      have asked' : act = .turn call.number true := by rw [asked, ahead ready]
      have handed : Changes wiring act link
          { ({ link with queue := link.queue ++ [request] }.note (.queued request.ticket)) with
            calls := link.calls.map fun other =>
              if other.number = call.number then { call with task := .send request true timer }
              else other } :=
        .single (.enqueue member task opened.1 opened.2 room asked')
      split at h
      -- handed over and out of time in one turn: the request stays in the queue, abandoned
      · next done due =>
        cases h
        obtain ⟨deadline, timed, passed, rfl⟩ := expireIfDue_eq_some due
        refine expire_changes _ timer asked handed (filter_replaced rfl) ?_ ticket ?_
        · exact List.mem_map.2 ⟨call, member, if_pos rfl⟩
        · exact .late timed passed fun _ => .inr (List.mem_append_right _ List.mem_cons_self)
      · cases h
        exact handed
    -- no room: it waits on, unless its deadline has passed
    · obtain ⟨deadline, timed, passed, rfl⟩ := expireIfDue_eq_some h
      refine expire_changes link.calls timer asked .refl rfl ?_ ticket
        (.late timed passed fun handed => nomatch handed)
      rw [← task]
      exact member

/-- A call whose request was handed over learns its outcome or runs out of time. -/
theorem outcomeTurn_changes {first : Bool} {call : Call} {request : Request}
    {timer : Option Timer} {after : Link M × Turn M} {turn : Bool}
    (asked : act = .turn call.number turn) (member : call ∈ link.calls)
    (task : call.task = .send request true timer)
    (h : turn? wiring link first call = some after) :
    Changes wiring act link (settleTurn call after) := by
  have ticket : call.ticket? = some request.ticket := by rw [Call.ticket?, task]
  unfold turn? at h
  simp only [task] at h
  split at h
  · next message there =>
    cases h
    exact finish_changes asked member task (.outcome there) link.told
  · next error there =>
    cases h
    exact finish_changes asked member task (.outcome there) link.told
  · next nothing =>
    obtain ⟨deadline, timed, passed, rfl⟩ := expireIfDue_eq_some h
    refine expire_changes link.calls timer asked .refl rfl ?_ ticket
      (.late timed passed fun _ => .inl nothing)
    rw [← task]
    exact member

theorem conclude_changes {call : Call} {first : Bool} (asked : act = .turn call.number first)
    (member : call ∈ link.calls) (wait : call.task = .close ∨ call.task = .watch)
    (closed : link.phase = .closed) :
    Changes wiring act link (link.finish call (link.conclusion call.task)) := by
  have ticket : call.ticket? = none := by
    rcases wait with task | task <;> rw [Call.ticket?, task]
  unfold finish
  rw [ticket]
  have ends : act.mayRelease = true := by rw [asked, Act.mayRelease]
  refine .trans (.tail (.single (.conclude member wait closed ⟨_, asked⟩)) ?_)
    (release_changes ends)
  exact .remarked .nil

theorem turnOf?_changes (synced : link.Synced) {first : Option Nat} {call : Call} {turn : Bool}
    (asked : act = .turn call.number turn) (ahead : first = some call.number → turn = true)
    (member : call ∈ link.calls) (h : turnOf? wiring link first call = some next) :
    Changes wiring act link next := by
  obtain ⟨after, turn, rfl⟩ := turnOf?_eq_some h
  cases task : call.task with
  | send request handed timer =>
    cases handed with
    | false => exact lineTurn_changes synced asked (by simpa using ahead) member task turn
    | true => exact outcomeTurn_changes asked member task turn
  | close =>
    have concluded (closed : link.phase = .closed) :
        Changes wiring act link (link.finish call (link.conclusion call.task)) :=
      conclude_changes asked member (.inl task) closed
    simp only [conclusion, task] at concluded
    unfold turn? at turn
    simp only [task] at turn
    split at turn
    · next closed fault =>
      cases turn
      rw [fault] at concluded
      exact concluded closed
    · next closed fault =>
      cases turn
      rw [fault] at concluded
      exact concluded closed
    · cases turn
  | watch =>
    have concluded (closed : link.phase = .closed) :
        Changes wiring act link (link.finish call (link.conclusion call.task)) :=
      conclude_changes asked member (.inr task) closed
    simp only [conclusion, task] at concluded
    unfold turn? at turn
    simp only [task] at turn
    split at turn
    · next closed =>
      cases turn
      exact concluded closed
    · cases turn

/-! ## The operations -/

/-- Issuing a trace number moves the counter. -/
theorem last_next_ne (stan : Stan) : stan.next.last ≠ stan.last := by
  have le := stan.last_le
  rw [Stan.last_next]
  omega

/-- A message gets the next trace number or none. -/
theorem assignStan_snd (wiring : Wiring M) (stan : Stan) (message : M) :
    (assignStan wiring stan message).2 = stan ∨ (assignStan wiring stan message).2 = stan.next := by
  unfold assignStan
  dsimp only
  split
  · exact .inl rfl
  · split
    · exact .inl rfl
    · split
      · exact .inr rfl
      · exact .inr rfl

/-- Preparing a message issues a trace number at most, unless it builds a request. -/
theorem prepare_cases (wiring : Wiring M) (link : Link M) (message : M) (timeout : Option Nat) :
    (∃ error after, prepare wiring link message = (.error error, after) ∧
        Changes wiring (.play (.send message timeout)) link after) ∨
      (∃ request keyed after, prepare wiring link message =
          (.ok request, { after with
            exchanges := after.exchanges ++ [Exchange.fresh]
            history := .prepared keyed request :: after.history }) ∧
        Changes wiring (.play (.send message timeout)) link after ∧ after.phase = .active ∧
        after.made = link.made ∧ after.clock = link.clock ∧
        request.ticket = after.exchanges.length ∧
        keyedFrame wiring keyed = .ok (request.key, request.frame) ∧
        assignStan wiring link.stan message = (.ok keyed, after.stan)) := by
  unfold prepare
  split
  · exact .inl ⟨_, _, rfl, .refl⟩
  · next active =>
    have active := Decidable.not_not.1 active
    -- a trace number that was issued stays issued, whatever becomes of the message
    obtain ⟨issued, eq, chain, phase, made, clock, stan⟩ :
        ∃ issued : Link M,
          (if (assignStan wiring link.stan message).2.last = link.stan.last then link
            else { link with stan := (assignStan wiring link.stan message).2 }.note
              (.issued (assignStan wiring link.stan message).2.text)) = issued ∧
          Changes wiring (.play (.send message timeout)) link issued ∧ issued.phase = .active ∧
          issued.made = link.made ∧ issued.clock = link.clock ∧
          (assignStan wiring link.stan message).2 = issued.stan := by
      rcases assignStan_snd wiring link.stan message with same | next
      · rw [same, if_pos rfl]
        exact ⟨link, rfl, .refl, active, rfl, rfl, rfl⟩
      · rw [next, if_neg (last_next_ne link.stan)]
        exact ⟨_, rfl, .single (.issue active rfl), active, rfl, rfl, rfl⟩
    dsimp only
    rw [eq]
    split
    · exact .inl ⟨_, _, rfl, chain⟩
    · next keyed assigned =>
      split
      · exact .inl ⟨_, _, rfl, chain⟩
      · next key frame framed =>
        exact .inr ⟨⟨issued.exchanges.length, key, frame⟩, keyed, issued, rfl, chain, phase,
          made, clock, rfl, framed, Prod.ext assigned stan⟩

theorem send_changes (wiring : Wiring M) (link : Link M) (message : M) (given : Option Nat) :
    Changes wiring (.play (.send message given)) link
      (link.send wiring message (given <|> wiring.config.requestTimeout)) := by
  unfold send
  rcases prepare_cases wiring link message given with
    ⟨error, after, eq, chain⟩ |
      ⟨request, keyed, after, eq, chain, active, made, clock, ticket, framed, assigned⟩
  · rw [eq]
    exact .tail chain (.reject rfl)
  · rw [eq]
    exact .tail chain (.send rfl active ticket framed ⟨_, _, _, rfl, rfl, assigned⟩)

theorem abort_changes {number : Nat} (asked : act = .play (.abort number)) :
    Changes wiring act link (link.abort number) := by
  unfold abort
  split
  · exact .refl
  · next call found =>
    have member := List.mem_of_find?_eq_some found
    have same : call.number = number := by simpa using List.find?_some found
    subst same
    dsimp only
    have ends : act.mayRelease = true := by rw [asked, Act.mayRelease]
    refine .trans (.tail (.single (.abort asked member)) ?_) (release_changes ends)
    cases task : call.task with
    | send request handed timer =>
      obtain ⟨told, eq⟩ := leave_eq (link.removeCall call) request handed
      dsimp only
      rw [eq]
      exact .remarked .nil
    | close => exact .remarked .nil
    | watch => exact .remarked .nil

theorem apply_wire (change : TransportChange) (transport : Transport) :
    (change.apply transport).wire = transport.wire ∧
      (change.apply transport).poisoned = transport.poisoned ∧
      (change.apply transport).inbound = transport.inbound := by
  obtain ⟨write, flush, shutdown⟩ := change
  cases write <;> exact ⟨rfl, rfl, rfl⟩

theorem changeTransport_changes (change : TransportChange) :
    Changes wiring (.play (.transport change)) link (link.changeTransport change) := by
  obtain ⟨wire, poisoned, inbound⟩ := apply_wire change link.transport
  have changed : Change wiring (.play (.transport change)) link
      { link with transport := change.apply link.transport } :=
    .aside .nil wire poisoned (fun other => absurd rfl (other change)) (fun _ _ => inbound)
      fun _ => rfl
  unfold changeTransport
  cases reader : link.reader with
  | ended crash =>
    simp only [Reader.isEnded, Bool.not_true, Bool.and_false, Bool.false_eq_true, if_false]
    rw [← reader]
    exact .single changed
  | running buffer part =>
    cases poison : link.transport.poisoned with
    | false =>
      simp only [Bool.false_and, Bool.false_eq_true, if_false]
      rw [← reader]
      exact .single changed
    -- a poisoned transport is touched, which crashes the reader at once
    | true =>
      have poisoned := poisoned.trans poison
      exact .tail (.single changed) (.crashReading reader (.inl poisoned) (.inr poisoned))

theorem play_changes (operation : Operation M) :
    Changes wiring (.play operation) link (play wiring link operation).2 := by
  cases operation with
  | pause => exact .refl
  | send message timeout =>
    simp only [play, withHandle]
    split
    · exact send_changes wiring link message timeout
    · exact .refl
  | close =>
    simp only [play, withHandle]
    split
    · exact .tail (drain_changes fun _ => .closed rfl) (.await rfl (.inl rfl))
    · exact .refl
  | watch =>
    simp only [play, withHandle]
    split
    · exact .single (.await rfl (.inr rfl))
    · exact .refl
  | abort number => exact abort_changes rfl
  | dropHandle =>
    simp only [play]
    split
    · have dropped : Change wiring (.play .dropHandle) link { link with handle := false } :=
        .aside .nil rfl rfl (fun _ => rfl) (fun _ _ => rfl) fun other => absurd rfl other
      exact .trans (.single dropped) (release_changes rfl)
    · exact .refl
  | arrive item =>
    simp only [play, arrive]
    split
    · exact .refl
    · exact .single (.aside .nil rfl rfl (fun _ => rfl) (fun _ other => absurd rfl (other item))
        fun _ => rfl)
  | transport change => exact changeTransport_changes change
  | advance millis => exact .single (.advance rfl)
  | takeUnmatched =>
    simp only [play, withHandle]
    split
    · split
      · exact .single (.remarked .nil)
      · exact .refl
    · exact .refl
  | dropUnmatched =>
    simp only [play]
    split
    · exact .single (.remarked .nil)
    · exact .refl
  | receiveUnmatched limit =>
    simp only [play]
    split
    · exact .single (.remarked .nil)
    · exact .refl

/-! ## Acts and runs -/

/-- Every act is a chain of elementary changes. What the tasks look at must agree with the phase of
the link, as it always does in a run. -/
theorem act?_changes (synced : link.Synced) (h : act? wiring link act = some next) :
    Changes wiring act link next := by
  cases act with
  | read => exact readStep?_changes synced h
  | write => exact (writerStep?_moves synced h).changes
  | turn number first =>
    obtain ⟨call, found, turn⟩ := Option.bind_eq_some_iff.1 h
    have same : call.number = number := by simpa using List.find?_some found
    have ahead : (if first then some number else none) = some call.number → first = true := by
      cases first <;> simp
    exact turnOf?_changes synced (by rw [same]) ahead (List.mem_of_find?_eq_some found) turn
  | supervise => exact superviseStep?_changes h
  | play operation =>
    cases h
    exact play_changes operation

end Link

end Multiplex
