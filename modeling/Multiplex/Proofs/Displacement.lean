import Multiplex.Proofs.Consistent

/-!
# A live entry is never displaced

An entry whose caller waits stays under its key until that caller is answered, or gives up itself.
Whatever other callers, other requests and their failures do, they leave it alone. A request whose
key such an entry holds is the one that has to go: it is refused, and nothing of it is ever written.

Main statement: `live_entries_stay`.
-/

namespace Multiplex.Link

variable {M : Type}

/-- The outcome of an entry that was in the table, under a key. -/
inductive Outcome (wiring : Wiring M) (link next : Link M) (key : String) (ticket : Ticket) : Prop
  /-- A reply, which has its key and has just been read. -/
  | replied {new : List (Event M)} {payload : Bytes} {message : M}
      (history : next.history = new ++ link.history) (received : .received payload ∈ new)
      (read : wiring.codec.unpack payload = .message message)
      (derived : wiring.key message = .ok key)
      (seen : next.exchanges.poll ticket = some (.ok message))
  /-- Its own frame could not be written. -/
  | writeFailed {new : List (Event M)} {source : IoError}
      (history : next.history = new ++ link.history)
      (failed : .writeFailed ticket key source ∈ new)
      (seen : next.exchanges.poll ticket = some (.error (.writeFailed key source)))
  /-- The link left its active phase. -/
  | drained (active : link.phase = .active) (left : next.phase ≠ .active)
      (seen : next.exchanges.poll ticket = some (.error .closed))

/-- The caller of an entry that was in the table, under a key, waits no longer: it is there to see
the outcome. -/
structure Resolved (wiring : Wiring M) (link next : Link M) (key : String) (ticket : Ticket) :
    Prop where
  live : next.exchanges.isAbandoned ticket = false
  outcome : Outcome wiring link next key ticket

/-- What an act makes of an entry that was in the table, under a key, and whose caller was
waiting. -/
inductive EntryAfter (wiring : Wiring M) (act : Act M) (link next : Link M) (key : String)
    (ticket : Ticket) : Prop
  /-- Nothing: it is where it was, and its caller waits. -/
  | untouched (found : next.table.find? key = some ticket)
      (unseen : next.exchanges.poll ticket = none)
      (live : next.exchanges.isAbandoned ticket = false)
  /-- Its caller is given an outcome, and no call ends in this act. -/
  | resolved (unreleased : act.mayRelease = false) (resolved : Resolved wiring link next key ticket)
  /-- Its own call has run out of time. -/
  | expired {number millis : Nat} {first : Bool} (asked : act = .turn number first)
      (own : ∃ call ∈ link.calls, call.number = number ∧ call.ticket? = some ticket)
      (returned : .returned number (some ticket) (.failed (.timedOut key millis)) ∈ next.history)
  /-- Its own call has been cancelled, which leaves it where it is unless the link drains. -/
  | cancelled {number : Nat} (asked : act = .play (.abort number))
      (own : ∃ call ∈ link.calls, call.number = number ∧ call.ticket? = some ticket)
      (gone : next.exchanges.isAbandoned ticket = true)
      (stays : next.table.find? key = some ticket ∨ next.phase ≠ .active)

variable {wiring : Wiring M} {act : Act M} {acts later : List (Act M)} {link next final : Link M}
  {key : String} {ticket : Ticket}

/-- A caller stops waiting only when its own call returns or is cancelled. -/
theorem left_of_change (change : Change wiring act link next)
    (live : link.exchanges.isAbandoned ticket = false)
    (gone : next.exchanges.isAbandoned ticket = true) :
    ∃ call request handed timer, call ∈ link.calls ∧ call.task = .send request handed timer ∧
      request.ticket = ticket ∧ (act = .play (.abort call.number) ∨
        ∃ first result, act = .turn call.number first ∧ Returns link request timer handed result ∧
          next.history = .returned call.number (some ticket) result :: link.history) := by
  have stays (same : next.exchanges.isAbandoned ticket = link.exchanges.isAbandoned ticket) :
      False := by
    rw [same, live] at gone
    cases gone
  cases change with
  | drain => exact absurd (Exchanges.isAbandoned_closeAll _ _ _) stays
  | send asked active new framed =>
    rw [Exchanges.isAbandoned_append_fresh] at gone
    split at gone
    · cases gone
    · rw [live] at gone
      cases gone
  | @abort call asked member =>
    cases task : call.task with
    | send request handed timer =>
      simp only [task, Exchanges.isAbandoned_quit] at gone
      split at gone
      · next same => exact ⟨call, request, handed, timer, member, task, same.symm, .inl asked⟩
      · rw [live] at gone
        cases gone
    | close | watch =>
      simp only [task] at gone
      rw [live] at gone
      cases gone
  | @finish call request handed timer result first asked member task returns =>
    rw [Exchanges.isAbandoned_quit] at gone
    split at gone
    · next same =>
      subst same
      exact ⟨call, request, handed, timer, member, task, rfl,
        .inr ⟨first, result, asked, returns, rfl⟩⟩
    · rw [live] at gone
      cases gone
  | withdraw => exact absurd (Exchanges.isAbandoned_drop _ _ _) stays
  | claimed | late => exact absurd (Exchanges.isAbandoned_resolve _ _ _ _) stays
  | stopWriting => exact absurd (Exchanges.isAbandoned_closeAll _ _ _) stays
  | refuse => exact absurd (Exchanges.isAbandoned_fail _ _ _ _) stays
  | skip =>
    exact absurd
      ((Exchanges.isAbandoned_drop _ _ _).trans (Exchanges.isAbandoned_vacate _ _ _ _)) stays
  | register => exact absurd (Exchanges.isAbandoned_vacate _ _ _ _) stays
  | fail | interrupt => exact absurd (Exchanges.isAbandoned_failAt _ _ _ _ _) stays
  | crashWriting => exact absurd (Exchanges.isAbandoned_dropAll _ _ _) stays
  | _ => exact absurd rfl stays

/-- A caller goes on waiting as long as no call ends. -/
theorem live_of_change (change : Change wiring act link next) (unreleased : act.mayRelease = false)
    (live : link.exchanges.isAbandoned ticket = false) :
    next.exchanges.isAbandoned ticket = false := by
  rw [← Bool.not_eq_true]
  intro gone
  obtain ⟨_, _, _, _, -, -, -, asked | ⟨_, _, asked, -⟩⟩ := left_of_change change live gone
  · rw [asked] at unreleased
    cases unreleased
  · rw [asked] at unreleased
    cases unreleased

/-- An entry whose caller waits is given its outcome in an act in which no call ends. -/
theorem unreleased_of_seen (change : Change wiring act link next) (sound : link.Sound)
    (found : link.table.find? key = some ticket)
    (live : link.exchanges.isAbandoned ticket = false) {outcome : Except LinkError M}
    (seen : next.exchanges.poll ticket = some outcome) : act.mayRelease = false := by
  have out (stays : next.table.find? key = some ticket) : act.mayRelease = false := by
    rw [(sound.change change).owned.poll_of_find? stays] at seen
    cases seen
  cases change with
  | drain active cause =>
    cases cause with
    -- its own call holds the link
    | released _ _ calls =>
      have waits := sound.owned.awaited.mem_iff.2 live
      rw [callers, calls] at waits
      cases waits
    | closed asked | finished asked | unreadable asked | unwritable asked | exited asked =>
      rw [asked]
      rfl
  | @withdraw key' holder found' gone =>
    refine out ?_
    rw [Table.find?_erase, if_neg, found]
    rintro rfl
    cases found.symm.trans found'
    rw [live] at gone
    cases gone
  | claimed _ _ _ _ _ _ asked | late _ _ _ _ _ _ asked | skip _ _ _ _ _ asked
  | register _ _ _ _ _ asked | fail _ _ asked | interrupt _ _ asked =>
    rw [asked]
    rfl
  | _ => exact out found

/-- A call whose entry is in the table returns without an outcome only because it runs out of
time. -/
theorem timedOut_of_returns (consistent : link.Consistent wiring)
    (found : link.table.find? key = some ticket) {call : Call} {request : Request}
    {handed : Bool} {timer : Option Timer} {result : Result M} (member : call ∈ link.calls)
    (task : call.task = .send request handed timer) (own : request.ticket = ticket)
    (returns : Returns link request timer handed result) :
    ∃ millis, result = .failed (.timedOut key millis) := by
  subst own
  have filed := Table.mem_of_find? found
  cases returns with
  | outcome there =>
    rw [consistent.sound.owned.poll_of_find? found] at there
    cases there
  | turnedAway shut =>
    have line := mem_line_iff.2 ⟨call, member, request, timer, task, rfl⟩
    exact absurd (List.mem_map_of_mem filed)
      (consistent.sound.owned.not_filed (List.mem_append_right _ line))
  | @late _ deadline timed passed nothing =>
    obtain ⟨message, known⟩ := consistent.recorded.carried (.call member task)
    rw [consistent.key_of_slot filed known]
    exact ⟨deadline.millis, rfl⟩

/-- Cancelling a call leaves every entry where it is, unless the link drains. -/
theorem find?_of_abort {number : Nat} (change : Change wiring (.play (.abort number)) link next)
    (found : link.table.find? key = some ticket) :
    next.table.find? key = some ticket ∨ next.phase ≠ .active := by
  cases change with
  | drain active =>
    right
    simp
  | withdraw found gone asked =>
    obtain ⟨number, first, asked⟩ := asked
    cases asked
  | claimed active running read derived found live asked => cases asked
  | late active running read derived found gone asked => cases asked
  | skip active idle first free gone asked => cases asked
  | register active idle first free live asked => cases asked
  | fail active working asked => cases asked
  | interrupt inactive working asked => cases asked
  | _ => exact .inl found

/-- What the part of an act that has been made so far has made of an entry, the act going on. -/
structure EntryDuring (wiring : Wiring M) (act : Act M) (link next : Link M) (key : String)
    (ticket : Ticket) : Prop where
  grows : link.Grows next
  callers : ∀ call ∈ next.calls, call.ticket? = some ticket →
    ∃ before ∈ link.calls, before.number = call.number ∧ before.ticket? = some ticket
  after : EntryAfter wiring act link next key ticket

/-- A change of an entry that was left alone so far. -/
theorem EntryDuring.of_untouched (change : Change wiring act next final)
    (consistent : next.Consistent wiring) (grows : link.Grows next)
    (callers : ∀ call ∈ next.calls, call.ticket? = some ticket →
      ∃ before ∈ link.calls, before.number = call.number ∧ before.ticket? = some ticket)
    (found : next.table.find? key = some ticket)
    (live : next.exchanges.isAbandoned ticket = false) :
    EntryAfter wiring act link final key ticket := by
  have sound := consistent.sound
  obtain ⟨new, history⟩ := grows.history
  rcases entry_of_change change sound found with ⟨stays, none⟩ | ⟨outcome, given, seen⟩
  -- it is still there; if its caller has left, that was its own call's doing
  · cases gone : final.exchanges.isAbandoned ticket with
    | false => exact .untouched stays none gone
    | true =>
      obtain ⟨call, request, handed, timer, member, task, rfl, asked⟩ :=
        left_of_change change live gone
      obtain ⟨before, there, same, own⟩ := callers call member (by rw [Call.ticket?, task])
      rcases asked with asked | ⟨first, result, asked, returns, note⟩
      · exact .cancelled asked ⟨before, there, same, own⟩ gone (.inl stays)
      · obtain ⟨millis, rfl⟩ := timedOut_of_returns consistent found member task rfl returns
        have returned : .returned call.number (some request.ticket)
            (.failed (.timedOut key millis)) ∈ final.history := by
          rw [note]
          exact List.mem_cons_self
        exact .expired asked ⟨before, there, same, own⟩ returned
  -- it has been given its outcome, and of all outcomes only three are for an entry in the table
  · have unreleased := unreleased_of_seen change sound found live seen
    refine .resolved unreleased ⟨live_of_change change unreleased live, ?_⟩
    rcases given.of_found sound.owned found with
      ⟨payload, message, rfl, note, read, derived⟩ | ⟨source, rfl, -, -, note⟩ |
        ⟨rfl, gone | ⟨active, left⟩⟩
    · have grown : final.history =
          (.delivered ticket key :: .received payload :: new) ++ link.history := by
        rw [note, history]
        rfl
      exact .replied grown (List.mem_cons_of_mem _ List.mem_cons_self) read derived seen
    · have grown : final.history = (.writeFailed ticket key source :: new) ++ link.history := by
        rw [note, history]
        rfl
      exact .writeFailed grown List.mem_cons_self seen
    · rw [live] at gone
      cases gone
    · exact .drained (grows.active active) left seen

/-- An outcome that has been given in an act stands for the rest of it. -/
theorem Outcome.onward (sound : next.Sound) (change : Change wiring act next final)
    (inside : ticket < next.exchanges.length) (outcome : Outcome wiring link next key ticket) :
    Outcome wiring link final key ticket := by
  have step := Grows.of_change change sound.owned
  obtain ⟨newer, history'⟩ := step.history
  have grown {new : List (Event M)} (history : next.history = new ++ link.history) :
      final.history = (newer ++ new) ++ link.history := by
    rw [history', history, List.append_assoc]
  cases outcome with
  | replied history received read derived seen =>
    exact .replied (grown history) (List.mem_append_right _ received) read derived
      (step.exchanges.seen inside seen)
  | writeFailed history failed seen =>
    exact .writeFailed (grown history) (List.mem_append_right _ failed)
      (step.exchanges.seen inside seen)
  | drained active left seen =>
    exact .drained active (step.inactive left) (step.exchanges.seen inside seen)

theorem EntryDuring.change (inside : ticket < link.exchanges.length)
    (change : Change wiring act next final) (consistent : next.Consistent wiring)
    (during : EntryDuring wiring act link next key ticket) :
    EntryDuring wiring act link final key ticket := by
  obtain ⟨grows, callers, after⟩ := during
  have step := Grows.of_change change consistent.sound.owned
  have inside' : ticket < next.exchanges.length :=
    Nat.lt_of_lt_of_le inside grows.exchanges.length_le
  refine ⟨grows.trans step, ?_, ?_⟩
  · intro call member own
    rcases caller_of_change change member with ⟨before, there, same, own'⟩ | ⟨-, new⟩
    · obtain ⟨first, there, same', own'⟩ := callers before there (own'.trans own)
      exact ⟨first, there, same'.trans same, own'⟩
    · rw [new ticket own] at inside'
      exact absurd inside' (Nat.lt_irrefl _)
  -- what has become of the entry stays so for the rest of the act
  · cases after with
    | untouched found unseen live =>
      exact EntryDuring.of_untouched change consistent grows callers found live
    | resolved unreleased resolved =>
      obtain ⟨live, outcome⟩ := resolved
      exact .resolved unreleased ⟨live_of_change change unreleased live,
        outcome.onward consistent.sound change inside'⟩
    | expired asked own returned => exact .expired asked own (step.mem_history returned)
    | cancelled asked own gone stays =>
      refine .cancelled asked own (step.exchanges.abandoned _ inside' gone) ?_
      rcases stays with found | inactive
      · subst asked
        exact find?_of_abort change found
      · exact .inr (step.inactive inactive)

/-- An act leaves an entry alone, or it gives its caller what is due to it. -/
theorem entryAfter_of_act (consistent : link.Consistent wiring)
    (moved : act? wiring link act = some next) (found : link.table.find? key = some ticket)
    (live : link.exchanges.isAbandoned ticket = false) :
    EntryAfter wiring act link next key ticket := by
  have unseen := consistent.sound.owned.poll_of_find? found
  have inside := Exchanges.lt_length_of_poll unseen
  have start : EntryDuring wiring act link link key ticket :=
    ⟨.refl link, fun call member own => ⟨call, member, rfl, own⟩, .untouched found unseen live⟩
  exact (consistent.keeps (motive := fun next => EntryDuring wiring act link next key ticket)
    (fun change consistent during => during.change inside change consistent) moved start).after

/-! ## Requests that are refused -/

/-- The writer has taken a request from the queue and refused it because of its key. Its caller is
told, if it still waits; calls, table, writer and transport are as they were. -/
structure Refused (link next : Link M) (request : Request) : Prop where
  noted : next.history =
    .unregistered request.ticket request.key (.duplicateKey request.key) :: link.history
  told : link.exchanges.isAbandoned request.ticket = false →
    next.exchanges.poll request.ticket = some (.error (.duplicateKey request.key))
  queue : next.queue = link.queue.tail
  calls : next.calls = link.calls
  table : next.table = link.table
  writer : next.writer = .idle
  transport : next.transport = link.transport

/-- The writer refuses a request exactly if a live entry has its key. -/
theorem refused_iff {request : Request} {rest : List Request} (sound : link.Sound)
    (idle : link.writer = .idle) (first : link.queue = request :: rest)
    (unsealed : link.table.isSealed = false) (moved : act? wiring link .write = some next) :
    Refused link next request ↔ ∃ holder, link.table.find? request.key = some holder ∧
      link.exchanges.isAbandoned holder = false := by
  have active : link.phase = .active := by
    apply Decidable.not_not.1
    intro inactive
    rw [sound.phased.isSealed_iff.2 inactive] at unsealed
    cases unsealed
  have unasked := sound.phased.synced.unasked_iff.2 active
  have taken : { link with queue := rest }.register request = next := by
    simpa [act?, writerStep?, idle, first, unasked] using moved
  constructor
  · intro refused
    have noted := refused.noted
    have step := registers { link with queue := rest } request unsealed
    rw [taken] at step
    cases step with
    | refused found live => exact ⟨_, found, live⟩
    | skipped | begun => cases noted
  · rintro ⟨holder, found, live⟩
    obtain ⟨told, eq⟩ := register_of_live { link with queue := rest } unsealed found live
    rw [← taken, eq]
    refine ⟨rfl, ?_, by rw [first]; rfl, rfl, rfl, idle, rfl⟩
    intro waits
    rw [Exchanges.poll_fail, if_pos rfl, waits]
    rfl

/-! ## What is written of a request -/

/-- What the writer puts on the wire in an act, and the request on which it works. -/
def portion? (link : Link M) : Act M → Option (Request × Bytes)
  | .write =>
    match link.writer with
    | .writing request rest =>
      if link.stopAsked then none
      else some (request, rest.take (link.transport.accepts rest.length))
    | _ => none
  | _ => none

/-- What is put on the wire in a run, in order, and the requests that it is written for. -/
def portions (wiring : Wiring M) : Link M → List (Act M) → List (Request × Bytes)
  | _, [] => []
  | link, act :: rest =>
    (link.portion? act).toList ++
      match act? wiring link act with
      | none => []
      | some next => portions wiring next rest

theorem portions_cons {rest : List (Act M)} (moved : act? wiring link act = some next) :
    portions wiring link (act :: rest) =
      (link.portion? act).toList ++ portions wiring next rest := by
  rw [portions, moved]

theorem eq_write_of_portion? {portion : Request × Bytes} (put : link.portion? act = some portion) :
    act = .write ∧ ∃ rest, link.writer = .writing portion.1 rest ∧
      portion.2 = rest.take (link.transport.accepts rest.length) := by
  cases act with
  | write =>
    unfold portion? at put
    dsimp only at put
    split at put
    · next request rest writing =>
      split at put
      · cases put
      · cases put
        exact ⟨rfl, rest, writing, rfl⟩
    · cases put
  | read | turn | supervise | play => cases put

/-- Only the writer puts anything on the wire, and only of the frame on which it works. -/
theorem wire_of_change (change : Change wiring act link next)
    (idle : act = .write → ∀ request rest, link.writer ≠ .writing request rest) :
    next.transport.wire = link.transport.wire := by
  cases change with
  | aside only wire => exact wire
  | accept active writing positive most asked => exact absurd writing (idle asked _ _)
  | _ => rfl

theorem wire_of_trail (trail : Relation.ReflTransGen (Trails wiring act) link next) :
    next.transport.wire = link.transport.wire := by
  induction trail with
  | refl => rfl
  | tail _ trails ih =>
    refine Eq.trans ?_ ih
    cases trails with
    | aside only wire => exact wire
    | drain => rfl

theorem failWriting_transport (wiring : Wiring M) (link : Link M) (request : Request)
    (error : IoError) : (failWriting wiring link request error).transport = link.transport := by
  obtain ⟨told, eq⟩ := failKey_eq
    ({ link with
        stats := { link.stats with writeFailures := link.stats.writeFailures + 1 }
        writer := .idle }.note (.writeFailed request.ticket request.key error))
    request.key (.writeFailed request.key error)
  unfold failWriting
  dsimp only
  rw [eq]
  split
  · exact drain_transport _ _
  · rfl

theorem wire_of_writeStep? {request : Request} {rest : Bytes}
    (moved : writeStep? wiring link request rest = some next) :
    next.transport.wire =
      link.transport.wire ++ rest.take (link.transport.accepts rest.length) := by
  unfold writeStep? at moved
  dsimp only at moved
  split at moved
  · next done =>
    cases moved
    simp [List.isEmpty_iff.1 done]
  · split at moved
    · cases moved
      rfl
    -- nothing is taken, whatever the transport does then
    · next full =>
      rw [Nat.eq_zero_of_not_pos full, List.take_zero, List.append_nil]
      split at moved <;> cases moved
      · rw [failWriting_transport]
      · rw [failWriting_transport]
      · obtain ⟨told, eq⟩ := crashWriting_eq link _
        rw [eq]

/-- An act adds its portion to the wire and nothing else. -/
theorem wire_of_act (synced : link.Synced) (moved : act? wiring link act = some next) :
    next.transport.wire =
      link.transport.wire ++ ((link.portion? act).toList.map Prod.snd).flatten := by
  by_cases write : act = .write
  · subst write
    have step : writerStep? wiring link = some next := moved
    by_cases writing : ∃ request rest, link.writer = .writing request rest
    · obtain ⟨request, rest, writing⟩ := writing
      unfold writerStep? at step
      rw [writing] at step
      dsimp only at step
      split at step
      · next asked =>
        cases step
        have nothing : link.portion? .write = none := by simp [portion?, writing, asked]
        obtain ⟨told, failed⟩ := failKey_eq
          ({ link with writer := .idle }.note (.interrupted request.ticket request.key))
          request.key .closed
        rw [nothing, interrupt, failed]
        exact (List.append_nil _).symm
      · next unasked =>
        simp [wire_of_writeStep? step, portion?, writing, unasked]
    · have nothing : link.portion? .write = none := by
        cases put : link.portion? (.write : Act M) with
        | none => rfl
        | some portion =>
          obtain ⟨-, rest, at_work, -⟩ := eq_write_of_portion? put
          exact absurd ⟨_, _, at_work⟩ writing
      obtain ⟨change, trail, -⟩ := writerStep?_moves synced step
      rw [nothing, wire_of_trail trail, wire_of_change change
        fun _ request rest at_work => writing ⟨request, rest, at_work⟩]
      exact (List.append_nil _).symm
  · have nothing : link.portion? act = none := by
      cases put : link.portion? act with
      | none => rfl
      | some portion => exact absurd (eq_write_of_portion? put).1 write
    rw [nothing]
    refine Eq.trans ?_ (List.append_nil _).symm
    exact (act?_changes synced moved).keeps
      (motive := fun mid => mid.transport.wire = link.transport.wire)
      (fun change same => (wire_of_change change fun asked => absurd asked write).trans same) rfl

/-- What is still to be written of a frame is its end. -/
def Continues (link : Link M) : Prop :=
  ∀ request rest, link.writer = .writing request rest → rest <:+ request.frame

theorem Continues.change (change : Change wiring act link next) (continues : link.Continues) :
    next.Continues := by
  intro request rest writing
  cases change with
  | register =>
    cases writing
    exact List.suffix_refl _
  | accept active before positive most =>
    cases writing
    exact (List.drop_suffix _ _).trans (continues _ _ before)
  | stopWriting | flush | sent | fail | interrupt | crashWriting | crashClosing
  | endWriting => cases writing
  | _ => exact continues request rest writing

/-- What the wire of a run holds: the portions of its acts, each a part of the frame of a request
that has been registered. -/
structure Inscribed (wiring : Wiring M) (acts : List (Act M)) (link final : Link M) : Prop where
  wire : final.transport.wire =
    link.transport.wire ++ ((portions wiring link acts).map Prod.snd).flatten
  known : ∀ portion ∈ portions wiring link acts,
    .registered portion.1.ticket portion.1.key ∈ final.history ∧ portion.2 <:+: portion.1.frame

theorem inscribed_of_follow (consistent : link.Consistent wiring) (continues : link.Continues)
    (run : follow? wiring link acts = some final) : Inscribed wiring acts link final := by
  induction acts generalizing link with
  | nil =>
    cases run
    exact ⟨(List.append_nil _).symm, fun _ member => nomatch member⟩
  | cons act rest ih =>
    obtain ⟨next, moved, onward⟩ := follow?_cons.1 run
    have consistent' := consistent.after moved
    obtain ⟨wire, known⟩ := ih consistent' (consistent.keeps (motive := Continues)
      (fun change _ continues => continues.change change) moved continues) onward
    constructor
    · rw [wire, wire_of_act consistent.sound.phased.synced moved, portions_cons moved,
        List.map_append, List.flatten_append, List.append_assoc]
    · rw [portions_cons moved]
      intro portion member
      rcases List.mem_append.1 member with first | later
      -- the writer works on a request only after it was registered
      · obtain ⟨-, rest', writing, part⟩ := eq_write_of_portion? (Option.mem_toList.1 first)
        have working : link.writer.request? = some portion.1 := by rw [writing, Writer.request?]
        have grows := (Grows.of_act consistent.sound moved).trans
          (.of_follow consistent'.sound onward)
        refine ⟨grows.mem_history (consistent.recorded.working working), ?_⟩
        rw [part]
        exact (List.take_prefix _ _).isInfix.trans (continues _ _ writing).isInfix
      · exact known portion later

/-- The request of a ticket is neither in the queue nor in line any more, and it has never been
registered. -/
structure Spent (link : Link M) (ticket : Ticket) : Prop where
  inside : ticket < link.exchanges.length
  taken : ticket ∉ link.unfiled
  unregistered : ∀ key, .registered ticket key ∉ link.history

theorem Spent.change (change : Change wiring act link next) (sound : link.Sound)
    (spent : link.Spent ticket) : next.Spent ticket := by
  have grows := Grows.of_change change sound.owned
  refine ⟨Nat.lt_of_lt_of_le spent.inside grows.exchanges.length_le, ?_, ?_⟩
  · intro waits
    rcases unfiled_of_change change waits with earlier | rfl
    · exact spent.taken earlier
    · exact Nat.lt_irrefl _ spent.inside
  · intro key member
    rcases registered_of_change change member with old | ⟨request, rest, first, rfl, -, -⟩
    · exact spent.unregistered key old
    · refine spent.taken (List.mem_append_left _ ?_)
      rw [first]
      exact List.mem_cons_self

/-- A request that is refused will never be registered. -/
theorem Refused.spent {request : Request} {rest : List Request}
    (consistent : link.Consistent wiring) (first : link.queue = request :: rest)
    (grows : link.Grows next) (refused : Refused link next request) :
    next.Spent request.ticket := by
  have waits : request.ticket ∈ link.unfiled := by
    rw [Link.unfiled, first]
    exact List.mem_cons_self
  refine ⟨?_, ?_, ?_⟩
  · have queued : request.ticket ∈ link.queue.map Request.ticket := by simp [first]
    have held := consistent.sound.owned.poll_of_queued queued
    exact Nat.lt_of_lt_of_le (Exchanges.lt_length_of_poll held) grows.exchanges.length_le
  · rw [unfiled, refused.queue, refused.calls, first]
    exact consistent.sound.owned.not_mem_rest first
  · intro key member
    rw [refused.noted] at member
    rcases List.mem_cons.1 member with new | old
    · cases new
    · exact consistent.recorded.unregistered waits old

/-- The whole run, from its beginning, puts nothing on the wire for a request that is refused. -/
structure Unwritten (wiring : Wiring M) (acts : List (Act M)) (final : Link M) (ticket : Ticket) :
    Prop where
  unregistered : ∀ key, .registered ticket key ∉ final.history
  inscribed : Inscribed wiring acts fresh final
  others : ∀ portion ∈ portions wiring fresh acts, portion.1.ticket ≠ ticket

theorem Refused.unwritten {request : Request} {rest : List Request}
    (run : follow? wiring fresh acts = some link) (first : link.queue = request :: rest)
    (moved : act? wiring link .write = some next) (refused : Refused link next request)
    (onward : follow? wiring next later = some final) :
    Unwritten wiring (acts ++ .write :: later) final request.ticket := by
  have consistent := consistent_of_run run
  have sound := consistent.sound
  have spent : final.Spent request.ticket :=
    (sound.after moved).follow_keeps (motive := fun link => link.Spent request.ticket) Spent.change
      onward (refused.spent consistent first (.of_act sound moved))
  have all : follow? wiring fresh (acts ++ .write :: later) = some final :=
    follow?_append.2 ⟨link, run, follow?_cons.2 ⟨next, moved, onward⟩⟩
  have inscribed := inscribed_of_follow consistent_fresh (fun _ _ writing => nomatch writing) all
  -- every portion is of a registered request, and this one never is
  refine ⟨spent.unregistered, inscribed, ?_⟩
  rintro portion member same
  exact spent.unregistered _ (same ▸ (inscribed.known portion member).1)

/-- The table of every link that a run leads to has one entry for each key. Whatever happens next
leaves an entry whose caller waits where it is, unless the caller is answered, or its own call runs
out of time or is cancelled. The writer refuses a request exactly if such an entry has its key, and
of a refused request nothing is ever written. -/
theorem live_entries_stay (run : follow? wiring fresh acts = some link) :
    link.table.UniqueKeys ∧
      (∀ act next key ticket, act? wiring link act = some next →
        link.table.find? key = some ticket → link.exchanges.isAbandoned ticket = false →
          EntryAfter wiring act link next key ticket) ∧
      (∀ request rest next, link.writer = .idle → link.queue = request :: rest →
        link.table.isSealed = false → act? wiring link .write = some next →
          (Refused link next request ↔ ∃ holder, link.table.find? request.key = some holder ∧
            link.exchanges.isAbandoned holder = false) ∧
          (Refused link next request → ∀ later final, follow? wiring next later = some final →
            Unwritten wiring (acts ++ .write :: later) final request.ticket)) := by
  have consistent := consistent_of_run run
  refine ⟨consistent.sound.owned.uniqueKeys, ?_, ?_⟩
  · intro act next key ticket moved found live
    exact entryAfter_of_act consistent moved found live
  · intro request rest next idle first unsealed moved
    refine ⟨refused_iff consistent.sound idle first unsealed moved, ?_⟩
    exact fun refused later final onward => refused.unwritten run first moved onward

/-! ## A rival for a key -/

section Rival

open Rehearsal

/-- A request has been sent and waits for its reply; another one with its key is in the queue. -/
def rivalRun : List (Act Scripted) :=
  [.play (.send (scriptedMessage "000001") none), .turn 0 true, .write, .write, .write, .write,
    .play (.send (scriptedMessage "000001") none), .turn 1 true]

/-- The link after that run. -/
def rivalLink : Link Scripted :=
  scriptedLink rivalRun

/-- The frame that both requests have. -/
def rivalFrame : Bytes :=
  [0, 14, 0, 0, 48, 50, 48, 48, 0, 11, 0, 6, 48, 48, 48, 48, 48, 49]

theorem follow?_rivalRun : follow? scriptedWiring fresh rivalRun = some rivalLink :=
  follow?_scripted (by decide +kernel)

theorem rivalLink_eq : rivalLink.writer = .idle ∧
    rivalLink.queue = [⟨1, "000001", rivalFrame⟩] ∧
    rivalLink.table.isSealed = false ∧ rivalLink.table.find? "000001" = some 0 ∧
    rivalLink.exchanges.isAbandoned 0 = false ∧
    portions scriptedWiring fresh (rivalRun ++ [.write]) =
      [(⟨0, "000001", rivalFrame⟩, rivalFrame), (⟨0, "000001", rivalFrame⟩, [])] ∧
    (act? scriptedWiring rivalLink .write).isSome = true := by
  decide +kernel

theorem live_entries_stay_rival :
    follow? scriptedWiring fresh rivalRun = some rivalLink ∧ rivalLink.table.UniqueKeys ∧
      ∃ next, act? scriptedWiring rivalLink .write = some next ∧
        EntryAfter scriptedWiring .write rivalLink next "000001" 0 ∧
        Refused rivalLink next ⟨1, "000001", rivalFrame⟩ ∧ next.transport.wire = rivalFrame ∧
        ∀ later final, follow? scriptedWiring next later = some final →
          Unwritten scriptedWiring (rivalRun ++ .write :: later) final 1 := by
  obtain ⟨idle, first, unsealed, found, live, put, moves⟩ := rivalLink_eq
  obtain ⟨next, moved⟩ := Option.isSome_iff_exists.1 moves
  obtain ⟨unique, stays, refuses⟩ := live_entries_stay follow?_rivalRun
  obtain ⟨refused_iff, unwritten⟩ := refuses _ [] next idle first unsealed moved
  have refused := refused_iff.2 ⟨0, found, live⟩
  -- the wire holds the frame of the first request once, and nothing of the second one
  have wire := (unwritten refused [] next rfl).inscribed.wire
  rw [put] at wire
  exact ⟨follow?_rivalRun, unique, next, moved, stays _ next _ _ moved found live, refused,
    wire.trans (by decide), fun later final onward => unwritten refused later final onward⟩

/-- A request waits for its reply when its deadline has come. -/
def overdueRun : List (Act Scripted) :=
  [.play (.send (scriptedMessage "000001") (some 100)), .turn 0 true, .write, .write, .write,
    .write, .play (.advance 100)]

/-- A request waits for its reply, and its call is the last to hold the link. -/
def soleRun : List (Act Scripted) :=
  [.play (.send (scriptedMessage "000001") none), .turn 0 true, .write, .write, .write, .write,
    .play .dropHandle]

/-- After a run of scripted acts one more act takes a live entry out of the table, and gives it no
outcome. -/
def TakenUnresolved (acts : List (Act Scripted)) (act : Act Scripted) (key : String)
    (ticket : Ticket) : Prop :=
  ∃ link next, follow? scriptedWiring fresh acts = some link ∧
    act? scriptedWiring link act = some next ∧ link.table.find? key = some ticket ∧
    link.exchanges.isAbandoned ticket = false ∧ next.table.find? key = none ∧
    ¬Resolved scriptedWiring link next key ticket

/-- An act after which the caller is gone has given it no outcome. -/
theorem takenUnresolved_of_parted {acts : List (Act Scripted)} {act : Act Scripted} {key : String}
    {ticket : Ticket} (run : (follow? scriptedWiring fresh acts).isSome = true)
    (entry : (scriptedLink acts).table.find? key = some ticket ∧
      (scriptedLink acts).exchanges.isAbandoned ticket = false)
    (parted : (act? scriptedWiring (scriptedLink acts) act).any (fun next =>
      next.table.find? key = none ∧ next.exchanges.isAbandoned ticket = true) = true) :
    TakenUnresolved acts act key ticket := by
  obtain ⟨next, moved, after⟩ := (Option.any_eq_true _ _).1 parted
  obtain ⟨taken, gone⟩ := of_decide_eq_true after
  refine ⟨_, next, follow?_scripted run, moved, entry.1, entry.2, taken, fun resolved => ?_⟩
  rw [resolved.live] at gone
  cases gone

/-- A call that runs out of time, or is cancelled as the last to hold the link, takes its own live
entry out of the table and is given no outcome by anybody else. -/
theorem live_entry_of_parting_call :
    TakenUnresolved overdueRun (.turn 0 true) "000001" 0 ∧
      TakenUnresolved soleRun (.play (.abort 0)) "000001" 0 :=
  ⟨takenUnresolved_of_parted (by decide +kernel) (by decide +kernel) (by decide +kernel),
    takenUnresolved_of_parted (by decide +kernel) (by decide +kernel) (by decide +kernel)⟩

end Rival

end Multiplex.Link
