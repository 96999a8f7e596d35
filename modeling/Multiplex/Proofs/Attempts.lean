import Multiplex.Proofs.Consistent
import Mathlib.Algebra.GroupWithZero.Nat

/-!
# What becomes of the frames that are written

An attempt to write a request's frame is over when the frame has been flushed, or when the transport
has failed to take it or to flush it. The attempts of a run are read off what its transport answers
to the writer (`Link.attempts`). No request is attempted twice (`attempts_once`), and the counters
of the writer are the numbers of the attempts that came out well and of those that did not
(`output_of_follow`).
-/

namespace Multiplex

variable {M : Type}

/-- The end of the attempt to write a request's frame, and its fault if it was not flushed. -/
structure Attempt where
  request : Request
  fault : Option IoError
  deriving DecidableEq, Repr

/-- The requests whose frames were written and flushed. -/
def flushed (attempts : List Attempt) : List Request :=
  (attempts.filter fun attempt => attempt.fault.isNone).map Attempt.request

/-- The requests whose frames could not be written or flushed. -/
def unflushed (attempts : List Attempt) : List Request :=
  (attempts.filter fun attempt => attempt.fault.isSome).map Attempt.request

/-- What a link has counted of the frames that it was to write. -/
structure Output where
  sent : Nat
  bytes : Nat
  failures : Nat

/-- The counters after some more attempts. -/
def Output.add (output : Output) (attempts : List Attempt) : Output where
  sent := output.sent + (flushed attempts).length
  bytes := output.bytes + ((flushed attempts).map fun request => request.frame.length).sum
  failures := output.failures + (unflushed attempts).length

theorem Output.add_append (output : Output) (first second : List Attempt) :
    output.add (first ++ second) = (output.add first).add second := by
  simp only [add, flushed, unflushed, List.filter_append, List.map_append, List.length_append,
    List.sum_append, Nat.add_assoc]

/-- The counters of a link that have to do with its writer. -/
def Stats.output (stats : Stats) : Output :=
  ⟨stats.requestsSent, stats.bytesSent, stats.writeFailures⟩

namespace Link

/-- The attempt that is over after an act, if there is one. -/
def attempt? (link : Link M) : Act M → Option Attempt
  | .write =>
    if link.stopAsked then none
    else
      match link.writer with
      | .writing request rest =>
        if rest.isEmpty || 0 < link.transport.accepts rest.length then none
        else
          match link.transport.stop with
          | .fault error => some ⟨request, some error⟩
          | .nothing => some ⟨request, some (.plain .writeZero)⟩
          | .stalled | .crashes _ => none
      | .flushing request =>
        match link.transport.flush with
        | .done => some ⟨request, none⟩
        | .fault error => some ⟨request, some error⟩
        | .stalled | .crashes _ => none
      | _ => none
  | _ => none

/-- The attempts of a run, in order. -/
def attempts (wiring : Wiring M) : Link M → List (Act M) → List Attempt
  | _, [] => []
  | link, act :: rest =>
    (link.attempt? act).toList ++
      match act? wiring link act with
      | none => []
      | some next => attempts wiring next rest

variable {wiring : Wiring M} {act : Act M} {acts : List (Act M)} {link mid next final : Link M}
  {attempt : Attempt} {tickets : List Ticket} {ticket : Ticket}

theorem attempts_cons {rest : List (Act M)} (moved : act? wiring link act = some next) :
    attempts wiring link (act :: rest) =
      (link.attempt? act).toList ++ attempts wiring next rest := by
  rw [attempts, moved]

theorem attempt?_eq_none (elsewhere : act ≠ .write) : link.attempt? act = none := by
  cases act with
  | write => exact absurd rfl elsewhere
  | _ => rfl

/-! ## The counters -/

/-- Only the writer counts frames that it writes. -/
theorem output_of_change (change : Change wiring act link next) (elsewhere : act ≠ .write) :
    next.stats.output = link.stats.output := by
  cases change with
  | sent | fail => exact absurd (by assumption) elsewhere
  | _ => rfl

theorem drain_output (link : Link M) (reason : DrainReason) :
    (link.drain reason).stats.output = link.stats.output := by
  by_cases active : link.phase = .active
  · obtain ⟨told, remarks, -, eq⟩ := drain_of_active active reason
    rw [eq]
    rfl
  · rw [drain_of_not_active active]
    rfl

/-- A frame that could not be written or flushed is counted, and the writer waits again. -/
theorem failWriting_ends (wiring : Wiring M) (link : Link M) (request : Request)
    (error : IoError) :
    (failWriting wiring link request error).stats.output =
        link.stats.output.add [⟨request, some error⟩] ∧
      (failWriting wiring link request error).writer = .idle := by
  obtain ⟨told, eq⟩ := failKey_eq
    ({ link with
        stats := { link.stats with writeFailures := link.stats.writeFailures + 1 }
        writer := .idle }.note (.writeFailed request.ticket request.key error))
    request.key (.writeFailed request.key error)
  unfold failWriting
  dsimp only
  rw [eq]
  split
  · rw [drain_output, drain_writer]
    exact ⟨rfl, rfl⟩
  · exact ⟨rfl, rfl⟩

/-- A writer that crashes counts nothing. -/
theorem output_of_crashWriting (link : Link M) (text : String) :
    (link.crashWriting text).stats.output = link.stats.output := by
  obtain ⟨told, eq⟩ := crashWriting_eq link text
  rw [eq]

theorem output_of_writeStep? {request : Request} {rest : Bytes} (unasked : link.stopAsked = false)
    (writing : link.writer = .writing request rest)
    (moved : writeStep? wiring link request rest = some next) :
    next.stats.output = link.stats.output.add (link.attempt? .write).toList := by
  unfold writeStep? at moved
  simp only [attempt?, unasked, writing, Bool.false_eq_true, if_false]
  split at moved
  · next done =>
    cases moved
    rw [if_pos (by simp [done])]
    rfl
  · next more =>
    dsimp only at moved
    split at moved
    · next taken =>
      cases moved
      rw [if_pos (by simp [taken])]
      rfl
    · next stuck =>
      rw [if_neg (by simpa [more] using stuck)]
      split at moved
      · cases moved
      · next error stop =>
        cases moved
        rw [stop]
        exact (failWriting_ends _ _ _ _).1
      · next stop =>
        cases moved
        rw [stop]
        exact (failWriting_ends _ _ _ _).1
      · next text stop =>
        cases moved
        rw [stop, output_of_crashWriting]
        rfl

theorem output_of_flushStep? {request : Request} (unasked : link.stopAsked = false)
    (flushing : link.writer = .flushing request)
    (moved : flushStep? wiring link request = some next) :
    next.stats.output = link.stats.output.add (link.attempt? .write).toList := by
  unfold flushStep? at moved
  simp only [attempt?, unasked, flushing, Bool.false_eq_true, if_false]
  split at moved
  · cases moved
  · next error flush =>
    cases moved
    rw [flush]
    exact (failWriting_ends _ _ _ _).1
  · next text flush =>
    cases moved
    rw [flush, output_of_crashWriting]
    rfl
  · next flush =>
    cases moved
    rw [flush]
    rfl

/-- A writer that is asked to stop breaks its attempt off, which counts nothing. -/
theorem output_of_interrupt (link : Link M) (request : Request) :
    (link.interrupt request).stats.output = link.stats.output := by
  obtain ⟨told, failed⟩ := failKey_eq
    ({ link with writer := .idle }.note (.interrupted request.ticket request.key))
    request.key .closed
  rw [interrupt, failed]
  rfl

theorem output_of_register (unsealed : link.table.isSealed = false) (request : Request) :
    (link.register request).stats.output = link.stats.output := by
  have step := registers link request unsealed
  generalize link.register request = next at step
  cases step <;> rfl

theorem output_of_shutdownStep? (moved : link.shutdownStep? = some next) :
    next.stats.output = link.stats.output := by
  unfold shutdownStep? at moved
  dsimp only at moved
  split at moved
  · cases moved
    rfl
  · cases moved
    rfl
  · cases moved
    rfl
  · split at moved
    · cases moved
    · cases moved
      rfl

/-- A step of the writer counts the attempt that is over after it. -/
theorem output_of_writerStep? (synced : link.Synced)
    (moved : writerStep? wiring link = some next) :
    next.stats.output = link.stats.output.add (link.attempt? .write).toList := by
  have uncounted (none : link.attempt? .write = none)
      (same : next.stats.output = link.stats.output) :
      next.stats.output = link.stats.output.add (link.attempt? .write).toList := by
    rw [none, same]
    rfl
  have interrupted {request : Request} (asked : link.stopAsked = true)
      (eq : link.interrupt request = next) :
      next.stats.output = link.stats.output.add (link.attempt? .write).toList :=
    uncounted (by simp [attempt?, asked]) (eq ▸ output_of_interrupt link request)
  unfold writerStep? at moved
  split at moved
  · next idle =>
    refine uncounted (by simp [attempt?, idle]) ?_
    split at moved
    · cases moved
      obtain ⟨told, remarks, -, eq⟩ := stopWriting_eq link
      rw [eq]
    · next unasked =>
      split at moved
      · cases moved
      · next request rest first =>
        cases moved
        have active := synced.unasked_iff.1 (by simpa using unasked)
        have unsealed : { link with queue := rest }.table.isSealed = false :=
          synced.unsealed active
        exact output_of_register unsealed request
  · next request rest writing =>
    split at moved
    · next asked => exact interrupted asked (Option.some.inj moved)
    · next unasked => exact output_of_writeStep? (by simpa using unasked) writing moved
  · next request flushing =>
    split at moved
    · next asked => exact interrupted asked (Option.some.inj moved)
    · next unasked => exact output_of_flushStep? (by simpa using unasked) flushing moved
  · next closing => exact uncounted (by simp [attempt?, closing]) (output_of_shutdownStep? moved)
  · cases moved

theorem output_of_act (sound : link.Sound) (moved : act? wiring link act = some next) :
    next.stats.output = link.stats.output.add (link.attempt? act).toList := by
  by_cases asked : act = .write
  · subst asked
    exact output_of_writerStep? sound.phased.synced moved
  · rw [attempt?_eq_none asked]
    exact sound.keeps (motive := fun mid => mid.stats.output = link.stats.output)
      (fun change _ same => (output_of_change change asked).trans same) moved rfl

/-- The counters of the writer count the attempts of the run. -/
theorem output_of_follow (sound : link.Sound) (run : follow? wiring link acts = some final) :
    final.stats.output = link.stats.output.add (attempts wiring link acts) := by
  induction acts generalizing link with
  | nil =>
    cases run
    rfl
  | cons act rest ih =>
    obtain ⟨next, moved, onward⟩ := follow?_cons.1 run
    rw [ih (sound.after moved) onward, output_of_act sound moved, attempts_cons moved,
      Output.add_append]

/-! ## No request is attempted twice -/

/-- The link once the attempt to write a request's frame is over. -/
def endAttempt (wiring : Wiring M) (link : Link M) (attempt : Attempt) : Link M :=
  match attempt.fault with
  | some error => failWriting wiring link attempt.request error
  | none =>
    let length := attempt.request.frame.length
    let stats := { link.stats with
      requestsSent := link.stats.requestsSent + 1
      bytesSent := link.stats.bytesSent + length }
    { link with stats, writer := .idle }.note
      (.sent attempt.request.ticket attempt.request.key length)

/-- An attempt is over after a step of the writer, which works on its request until then. -/
theorem act?_of_attempt (wiring : Wiring M) (ended : link.attempt? act = some attempt) :
    act = .write ∧ link.stopAsked = false ∧ link.writer.request? = some attempt.request ∧
      act? wiring link act = some (endAttempt wiring link attempt) := by
  cases act with
  | write =>
    unfold attempt? at ended
    dsimp only at ended
    split at ended
    · cases ended
    · next unasked =>
      refine ⟨rfl, by simpa using unasked, ?_⟩
      show _ ∧ writerStep? wiring link = _
      unfold writerStep?
      split at ended
      · next request rest writing =>
        split at ended
        · cases ended
        · next stuck =>
          obtain ⟨more, stuck⟩ : ¬rest.isEmpty = true ∧
              ¬0 < link.transport.accepts rest.length := by simpa using stuck
          rw [writing]
          dsimp only
          rw [if_neg unasked, writeStep?, if_neg more]
          dsimp only
          rw [if_neg stuck]
          split at ended
          · next error stop =>
            cases ended
            exact ⟨rfl, by rw [stop]; rfl⟩
          · next stop =>
            cases ended
            exact ⟨rfl, by rw [stop]; rfl⟩
          · cases ended
          · cases ended
      · next request flushing =>
        rw [flushing]
        dsimp only
        rw [if_neg unasked, flushStep?]
        split at ended
        · next flush =>
          cases ended
          exact ⟨rfl, by rw [flush]; rfl⟩
        · next error flush =>
          cases ended
          exact ⟨rfl, by rw [flush]; rfl⟩
        · cases ended
        · cases ended
      · cases ended
  | read | turn | supervise | play => cases ended

/-- The writer works on the request of an attempt until it is over, and waits after that. -/
theorem idle_of_attempt (ended : link.attempt? act = some attempt)
    (moved : act? wiring link act = some next) :
    link.writer.request? = some attempt.request ∧ next.writer = .idle := by
  obtain ⟨-, -, working, eq⟩ := act?_of_attempt wiring ended
  obtain rfl := Option.some.inj (moved.symm.trans eq)
  refine ⟨working, ?_⟩
  obtain ⟨request, fault⟩ := attempt
  cases fault with
  | none => rfl
  | some error => exact (failWriting_ends wiring link request error).2

/-- The writer has taken the requests of these tickets. -/
def Taken (link : Link M) (tickets : List Ticket) : Prop :=
  ∀ ticket ∈ tickets, ticket < link.exchanges.length ∧ ticket ∉ link.unfiled

theorem Taken.change (change : Change wiring act link next) (sound : link.Sound)
    (taken : link.Taken tickets) : next.Taken tickets := by
  have grows := Grows.of_change change sound.owned
  intro ticket member
  obtain ⟨inside, taken⟩ := taken ticket member
  refine ⟨Nat.lt_of_lt_of_le inside grows.exchanges.length_le, fun waits => ?_⟩
  rcases unfiled_of_change change waits with before | rfl
  · exact taken before
  · exact Nat.lt_irrefl _ inside

/-- The writer has taken the requests of these tickets, and does not work on them any more. -/
structure Exhausted (link : Link M) (tickets : List Ticket) : Prop where
  once : tickets.Nodup
  taken : link.Taken tickets
  done : ∀ request, link.writer.request? = some request → request.ticket ∉ tickets

theorem Exhausted.change (change : Change wiring act link next) (sound : link.Sound)
    (exhausted : link.Exhausted tickets) : next.Exhausted tickets := by
  refine ⟨exhausted.once, exhausted.taken.change change sound, ?_⟩
  intro request working member
  rcases working_of_change change working with before | ⟨queued, -⟩
  · exact exhausted.done request before member
  · exact (exhausted.taken _ member).2 (List.mem_append_left _ (List.mem_map_of_mem queued))

/-- An attempt that is over is the first one with its ticket. -/
theorem Exhausted.after_attempt (consistent : link.Consistent wiring)
    (moved : act? wiring link act = some next) (ended : link.attempt? act = some attempt)
    (exhausted : link.Exhausted tickets) :
    next.Exhausted (tickets ++ [attempt.request.ticket]) := by
  obtain ⟨working, idle⟩ := idle_of_attempt ended moved
  -- the request has been registered, so it is in no line and not in the queue
  have recorded := consistent.recorded
  have taken : link.Taken (tickets ++ [attempt.request.ticket]) := by
    intro ticket member
    rcases List.mem_append.1 member with before | last
    · exact exhausted.taken ticket before
    · obtain ⟨message, known⟩ := recorded.carried (.writer working)
      rw [List.mem_singleton.1 last]
      exact ⟨(recorded.prepared known).1,
        fun waits => recorded.unregistered waits (recorded.working working)⟩
  refine ⟨?_, ?_, ?_⟩
  · refine List.nodup_append.2 ⟨exhausted.once, List.nodup_singleton _, ?_⟩
    intro ticket before other last same
    rw [List.mem_singleton.1 last] at same
    exact exhausted.done _ working (same ▸ before)
  · exact consistent.sound.keeps (motive := fun mid => mid.Taken _) Taken.change moved taken
  · intro request working
    rw [idle] at working
    cases working

theorem Exhausted.follow (consistent : link.Consistent wiring)
    (run : follow? wiring link acts = some final) (exhausted : link.Exhausted tickets) :
    final.Exhausted
      (tickets ++ (attempts wiring link acts).map fun attempt => attempt.request.ticket) := by
  -- by induction on the acts, with the tickets of the attempts before them
  induction acts generalizing link tickets with
  | nil =>
    cases run
    rw [attempts, List.map_nil, List.append_nil]
    exact exhausted
  | cons act rest ih =>
    obtain ⟨next, moved, onward⟩ := follow?_cons.1 run
    rw [attempts_cons moved, List.map_append, ← List.append_assoc]
    refine ih (consistent.after moved) onward ?_
    cases ended : link.attempt? act with
    | none =>
      rw [Option.toList_none, List.map_nil, List.append_nil]
      exact consistent.sound.keeps (motive := fun mid => mid.Exhausted tickets)
        Exhausted.change moved exhausted
    | some attempt => exact exhausted.after_attempt consistent moved ended

/-- The attempts of a run are at different requests. -/
theorem attempts_once (run : follow? wiring fresh acts = some final) :
    ((attempts wiring fresh acts).map fun attempt => attempt.request.ticket).Nodup := by
  have none : (fresh : Link M).Exhausted [] :=
    ⟨List.nodup_nil, fun _ => (nomatch ·), fun _ _ => (nomatch ·)⟩
  exact (none.follow consistent_fresh run).once

end Link

end Multiplex
