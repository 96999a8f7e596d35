import Multiplex.Proofs.Consistent
import Multiplex.Proofs.Settled

/-!
# Nobody waits on after the active phase

A call that sends can wait in four places: in line, in the queue, behind the frame that the writer
writes, and for a reply. Once its link has left the active phase, and settled, it has returned from
each of them, whatever made the link drain and whether or not its transport can be shut down. What
it returns is settled by what its exchange had come to when the link left the active phase
(`LastWord`).

Main statement: `everyone_returns`.
-/

namespace Multiplex.Link

variable {M : Type}

/-- What a call returns that was waiting when the active phase ended, in `next`, and has returned by
the time of `final`. -/
inductive LastWord (wiring : Wiring M) (next final : Link M) (request : Request)
    (timer : Option Timer) : Result M → Prop
  /-- Its reply had been handed over. -/
  | reply {message : M} {before : List (Event M)}
      (seen : next.exchanges.poll request.ticket = some (.ok message))
      (handed : Handover wiring next.history before request.ticket message) :
      LastWord wiring next final request timer (.replied message)
  /-- Its own frame could not be written. -/
  | writeFailure {key : String} {source : IoError}
      (seen : next.exchanges.poll request.ticket = some (.error (.writeFailed key source)))
      (failed : .writeFailed request.ticket key source ∈ next.history) :
      LastWord wiring next final request timer (.failed (.writeFailed key source))
  /-- It had been refused. -/
  | refusal {key : String}
      (seen : next.exchanges.poll request.ticket = some (.error (.duplicateKey key)))
      (refused : .unregistered request.ticket key (.duplicateKey key) ∈ next.history) :
      LastWord wiring next final request timer (.failed (.duplicateKey key))
  /-- Its deadline passed before it was told anything. -/
  | deadline {deadline : Timer} (unseen : next.exchanges.poll request.ticket = none)
      (timed : timer = some deadline) (passed : deadline.due ≤ final.clock) :
      LastWord wiring next final request timer
        (.failed (.timedOut request.key deadline.millis))
  /-- None of that: it had been told nothing, or that the link is closed. -/
  | closed (seen : ∀ outcome, next.exchanges.poll request.ticket = some outcome →
        outcome = .error .closed)
      (written : ∀ key source, .writeFailed request.ticket key source ∉ next.history) :
      LastWord wiring next final request timer (.failed .closed)

variable {wiring : Wiring M} {before later : List (Act M)} {link next final : Link M}
  {request : Request} {timer : Option Timer}

/-- After the active phase, whoever had been told nothing is told of a closed link only. -/
theorem closed_of_unseen (sound : link.Sound) (inactive : link.phase ≠ .active)
    (run : follow? wiring link later = some final) {ticket : Ticket}
    (seen : ∀ outcome, link.exchanges.poll ticket = some outcome → outcome = .error .closed) :
    ∀ outcome, final.exchanges.poll ticket = some outcome → outcome = .error .closed := by
  refine (sound.follow_keeps (motive := fun link => link.phase ≠ .active ∧
    ∀ outcome, link.exchanges.poll ticket = some outcome → outcome = .error .closed) ?_ run
    ⟨inactive, seen⟩).2
  rintro act link next change sound ⟨inactive, seen⟩
  refine ⟨(Grows.of_change change sound.owned).inactive inactive, ?_⟩
  intro outcome told
  rcases outcome_of_change change sound told with before | given
  · exact seen outcome before
  · exact given.eq_closed_of_inactive inactive

/-- The outcome that a waiting caller sees at the end of the active phase is its last word. -/
theorem lastWord_of_seen (consistent : next.Consistent wiring)
    (live : next.exchanges.isAbandoned request.ticket = false) {outcome : Except LinkError M}
    (seen : next.exchanges.poll request.ticket = some outcome) :
    LastWord wiring next final request timer (.ofOutcome outcome) := by
  cases outcome with
  | ok message =>
    obtain ⟨before, handed⟩ := consistent.answered.replied seen
    exact .reply seen handed
  | error error =>
    rcases consistent.blamed.error seen with rfl | ⟨key, source, rfl, failed⟩ | ⟨key, rfl, refused⟩
    · refine .closed ?_ ?_
      · intro outcome same
        rw [seen] at same
        cases same
        rfl
      · intro key source failed
        obtain ⟨-, gone | failure | ⟨message, reply⟩⟩ := consistent.blamed.failed failed
        · rw [live] at gone
          cases gone
        · rw [seen] at failure
          cases failure
        · rw [seen] at reply
          cases reply
    · exact .writeFailure seen failed
    · exact .refusal seen refused

/-- A caller who has been told nothing yet has not failed to write its frame. -/
theorem not_writeFailed_of_unseen (consistent : next.Consistent wiring) {ticket : Ticket}
    (live : next.exchanges.isAbandoned ticket = false)
    (unseen : next.exchanges.poll ticket = none) {key : String} {source : IoError} :
    .writeFailed ticket key source ∉ next.history := by
  intro failed
  obtain ⟨-, gone | failure | ⟨message, reply⟩⟩ := consistent.blamed.failed failed
  · rw [live] at gone
    cases gone
  · rw [unseen] at failure
    cases failure
  · rw [unseen] at reply
    cases reply

/-- A link has come to `next` and goes on until it has settled. If it is not active any more then,
no call that sends is outstanding. If it had left its active phase in `next` already, every call that
sends and was outstanding then has returned with its last word, unless it was cancelled. If both
loops have ended the link is closed, and every call on it has returned. -/
theorem everyone_returns (run : follow? wiring fresh before = some next)
    (rest : follow? wiring next later = some final) (settled : Settled wiring final) :
    (final.phase ≠ .active →
        ∀ call ∈ final.calls, ∀ request handed timer, call.task ≠ .send request handed timer) ∧
      (next.phase ≠ .active → ∀ number request handed timer,
        ⟨number, .send request handed timer⟩ ∈ next.calls → .play (.abort number) ∉ later →
          ∃ result, .returned number (some request.ticket) result ∈ final.history ∧
            LastWord wiring next final request timer result) ∧
      (final.reader.isEnded = true ∧ final.writer.isEnded = true →
        final.phase = .closed ∧ final.calls = []) := by
  have consistent := consistent_of_run run
  have sound := consistent.sound.follow rest
  refine ⟨?_, ?_, fun ended => settled.closed_of_ended sound ended.1 ended.2⟩
  · intro inactive call member request handed timer
    exact settled.no_send_of_inactive sound inactive member
  · intro left number request handed timer member spared
    have inactive : final.phase ≠ .active := (Grows.of_follow consistent.sound rest).inactive left
    have live := (consistent.sound.owned.waiting member rfl).1
    have start : next.Fate number request timer (next.exchanges.poll request.ticket) :=
      .waits member fun outcome same => same
    have fate := start.follow rest consistent.sound spared
    cases fate with
    -- nobody who sends waits on a settled link that is not active
    | waits member still =>
      exact absurd rfl (settled.no_send_of_inactive sound inactive member)
    | @learnt outcome inside returned seen still =>
      refine ⟨_, returned, ?_⟩
      -- either the outcome was there when the active phase ended, or it came after that
      cases known : next.exchanges.poll request.ticket with
      | some outcome' =>
        rw [still outcome' known]
        exact lastWord_of_seen consistent live known
      | none =>
        have unseen : ∀ outcome, next.exchanges.poll request.ticket = some outcome →
            outcome = .error .closed := by simp [known]
        have closed := closed_of_unseen consistent.sound left rest unseen outcome seen
        rw [closed]
        refine .closed (by simp [known]) ?_
        intro key source
        exact not_writeFailed_of_unseen consistent live known
    | expired inside unknown timed passed returned gone nothing =>
      exact ⟨_, returned, .deadline unknown timed passed⟩

/-! ## A stalled peer -/

section Stalled

open Rehearsal

/-- The transport accepts nothing and cannot be shut down. One request is being written, one is in
the queue and one is in line when the user closes the link. -/
def stalledRun : List (Act Scripted) :=
  [.play (.transport { write := some (some 0, .stalled), shutdown := some .stalled }),
    .play (.send (scriptedMessage "000001") none), .turn 0 true, .write,
    .play (.send (scriptedMessage "000002") none), .turn 1 true,
    .play (.send (scriptedMessage "000003") none), .play .close]

/-- The tasks of the link take steps until none can move. -/
def stalledEnd : List (Act Scripted) :=
  [.turn 0 true, .write, .write, .turn 1 true, .turn 2 true, .read, .write]

/-- The link when the user has closed it, and when it has settled after that. -/
def stalledLink : Link Scripted × Link Scripted :=
  (scriptedLink stalledRun, scriptedLink (stalledRun ++ stalledEnd))

theorem follow?_stalled : follow? scriptedWiring fresh stalledRun = some stalledLink.1 ∧
    follow? scriptedWiring stalledLink.1 stalledEnd = some stalledLink.2 := by
  have run : follow? scriptedWiring fresh stalledRun = some stalledLink.1 :=
    follow?_scripted (by decide +kernel)
  have all : follow? scriptedWiring fresh (stalledRun ++ stalledEnd) = some stalledLink.2 :=
    follow?_scripted (by decide +kernel)
  obtain ⟨next, run', rest⟩ := follow?_append.1 all
  rw [run] at run'
  cases run'
  exact ⟨run, rest⟩

theorem stalledLink_eq : stalledLink.1.phase = .draining ∧ stalledLink.2.phase = .draining ∧
    stalledLink.2.reader = .ended none ∧ stalledLink.2.writer = .closing ∧
    stalledLink.2.transport.shutdown = .stalled ∧
    stalledLink.2.transport.shutdownAsked = true ∧ stalledLink.2.calls = [⟨3, .close⟩] ∧
    stalledLink.1.calls.map Call.number = [0, 1, 2, 3] := by
  decide +kernel

theorem settled_stalledLink : Settled scriptedWiring stalledLink.2 := by
  obtain ⟨-, phase, reader, writer, shutdown, asked, calls, -⟩ := stalledLink_eq
  refine settled_of ?_ ?_ ?_ (superviseStep?_eq_none (.inr ?_))
  · unfold readStep?
    rw [reader]
  · simp [writerStep?, writer, shutdownStep?, shutdown, asked]
  · intro call member first
    rw [calls, List.mem_singleton] at member
    subst member
    simp [turnOf?, turn?, phase]
  · rw [writer]
    rfl

theorem everyone_returns_stalled :
    follow? scriptedWiring fresh stalledRun = some stalledLink.1 ∧
      stalledLink.1.phase ≠ .active ∧
      follow? scriptedWiring stalledLink.1 stalledEnd = some stalledLink.2 ∧
      Settled scriptedWiring stalledLink.2 ∧
      (∀ call ∈ stalledLink.2.calls, ∀ request handed timer,
        call.task ≠ .send request handed timer) ∧
      (∀ number request handed timer,
        ⟨number, .send request handed timer⟩ ∈ stalledLink.1.calls →
          .play (.abort number) ∉ stalledEnd →
            ∃ result, .returned number (some request.ticket) result ∈ stalledLink.2.history ∧
              LastWord scriptedWiring stalledLink.1 stalledLink.2 request timer result) := by
  obtain ⟨phase, phase', -⟩ := stalledLink_eq
  have left : stalledLink.1.phase ≠ .active := by simp [phase]
  have inactive : stalledLink.2.phase ≠ .active := by simp [phase']
  obtain ⟨nobody, everyone, -⟩ :=
    everyone_returns follow?_stalled.1 follow?_stalled.2 settled_stalledLink
  exact ⟨follow?_stalled.1, left, follow?_stalled.2, settled_stalledLink, nobody inactive,
    everyone left⟩

end Stalled

end Multiplex.Link
