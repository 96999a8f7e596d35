import Multiplex.Proofs.Leaving
import Multiplex.Proofs.Settled
import Multiplex.Proofs.Stream

/-!
# How a link ends

A link passes through its phases in one direction. It drains once, in the step in which it leaves
its active phase, however many reasons to drain there are later. Once both of its loops have ended
it is closed, and every call that waits for its end returns. What a call that closes the link
returns is decided by how the writer ended, so all of them return the same.

Main statement: `orderly_of_run`.
-/

namespace Multiplex

variable {M : Type}

/-- The place of a phase in the order in which a link passes through them. -/
def Phase.rank : Phase → Nat
  | .active => 0
  | .draining => 1
  | .closed => 2

/-- What a call that closes a link returns, by how the writer of that link has ended. -/
def WriterEnd.verdict : WriterEnd → Result M
  | .done => .closed
  | .fault error => .failed (.io "shutting down transport" error)
  | .crashed text => .failed (.io "writer loop aborted" (.described .other (Event.crashText text)))

namespace Link

/-- The next step of the writer ends it: the transport has been shut down or cannot be, or it
crashes, under a frame or when it is shut down. -/
inductive Ends (link : Link M) : WriterEnd → Prop
  | done (closing : link.writer = .closing) (answer : link.transport.shutdown = .done) :
      Ends link .done
  | fault {error : IoError} (closing : link.writer = .closing)
      (answer : link.transport.shutdown = .fault error) : Ends link (.fault error)
  | crashed {request : Request} {text : String} (working : link.writer.request? = some request)
      (stop : link.transport.stop = .crashes text ∨ link.transport.flush = .crashes text) :
      Ends link (.crashed text)
  | crashedClosing {text : String} (closing : link.writer = .closing)
      (answer : link.transport.shutdown = .crashes text) : Ends link (.crashed text)

/-- The step of a run in which the writer ended. -/
inductive WriterEnded (wiring : Wiring M) (acts : List (Act M)) (how : WriterEnd) : Prop
  | intro {earlier later : List (Act M)} {mid : Link M} (split : acts = earlier ++ .write :: later)
      (run : follow? wiring fresh earlier = some mid) (ends : mid.Ends how)

/-- The step of a run in which the link drained. What it did then has not been done again. -/
inductive DrainedOnce (wiring : Wiring M) (acts : List (Act M)) (link : Link M) : Prop
  | intro {earlier later : List (Act M)} {act : Act M} {mid next : Link M} {reason : DrainReason}
      (split : acts = earlier ++ act :: later) (run : follow? wiring fresh earlier = some mid)
      (moved : act? wiring mid act = some next) (active : mid.phase = .active)
      (unasked : mid.stopAsked = false) (asked : next.stopAsked = true)
      (leaves : Leaves wiring act mid next) (frozen : next.Frozen link)
      (once : reasons link.history = [reason])

/-- In the course of a run a call was made, of some number, that waits for the end of the link;
`later` is what has happened since. -/
inductive Attending (wiring : Wiring M) : List (Act M) → Nat → Task → List (Act M) → Prop
  | close {earlier later : List (Act M)} {mid : Link M}
      (run : follow? wiring fresh earlier = some mid) (handle : mid.handle = true) :
      Attending wiring (earlier ++ .play .close :: later) mid.made .close later
  | watch {earlier later : List (Act M)} {mid : Link M}
      (run : follow? wiring fresh earlier = some mid) (handle : mid.handle = true) :
      Attending wiring (earlier ++ .play .watch :: later) mid.made .watch later

/-- How a link to which a run has led ends, or has ended. -/
structure Orderly (wiring : Wiring M) (acts : List (Act M)) (link : Link M) : Prop where
  forward : ∀ later final, follow? wiring link later = some final →
    link.phase.rank ≤ final.phase.rank
  stopAsked_iff : link.stopAsked = true ↔ link.phase ≠ .active
  isSealed_iff : link.table.isSealed = true ↔ link.phase ≠ .active
  empty : link.table.isSealed = true → link.table.slots = []
  closed_iff : Settled wiring link → (link.phase = .closed ↔
    (link.writer.isEnded = true ∧ link.reader.isEnded = true) ∧ link.phase ≠ .active)
  queue : link.phase = .closed → link.queue = []
  undrained : link.phase = .active → reasons link.history = [] ∧ link.stats.drained = 0
  drained : link.phase ≠ .active → DrainedOnce wiring acts link
  /-- What closing the link returns is what the writer ended with. -/
  verdict : link.phase = .closed → ∃ how, WriterEnded wiring acts how ∧
    link.writer = .ended how ∧ link.conclusion .close = how.verdict
  /-- A call that waits for the end returns only when the link is closed, and then always the
  same. -/
  only : ∀ number task later, Attending wiring acts number task later → ∀ ticket? result,
    .returned number ticket? result ∈ link.history →
      link.phase = .closed ∧ result = link.conclusion task
  /-- It does return, unless it is cancelled. -/
  returns : ∀ number task later, Attending wiring acts number task later →
    .play (.abort number) ∉ later → Settled wiring link → link.phase = .closed →
      .returned number none (link.conclusion task) ∈ link.history

variable {wiring : Wiring M} {act : Act M} {acts later : List (Act M)} {link next final : Link M}
  {how : WriterEnd} {number : Nat} {task : Task}

/-! ## Phases and reasons -/

theorem rank_of_change (change : Change wiring act link next) :
    link.phase.rank ≤ next.phase.rank := by
  cases change with
  | drain active =>
    rw [active]
    exact Nat.zero_le _
  | closeDown draining =>
    rw [draining]
    exact Nat.le_succ _
  | _ => exact Nat.le_refl _

theorem rank_of_follow (sound : link.Sound) (run : follow? wiring link later = some final) :
    link.phase.rank ≤ final.phase.rank :=
  sound.follow_keeps (motive := fun mid => link.phase.rank ≤ mid.phase.rank)
    (fun change _ le => Nat.le_trans le (rank_of_change change)) run (Nat.le_refl _)

/-- The active phase ends with a reason to drain, and no reason is given without that. -/
theorem reasons_of_change (change : Change wiring act link next) :
    (reasons next.history = reasons link.history ∧
        (next.phase = .active ↔ link.phase = .active)) ∨
      (link.phase = .active ∧ next.phase ≠ .active ∧
        ∃ reason, reasons next.history = reasons link.history ++ [reason]) := by
  have quiet (new : List (Event M)) (none : reasons new = []) :
      reasons (new ++ link.history) = reasons link.history := by
    rw [reasons_append, none, List.append_nil]
  cases change with
  | aside only => exact .inl ⟨quiet _ (readings_of_aside _ only.aside).2, Iff.rfl⟩
  | @drain reason active => exact .inr ⟨active, by simp, reason, reasons_append [_] _⟩
  | closeDown draining =>
    refine .inl ⟨rfl, ?_⟩
    rw [draining]
    simp
  | claimed | skip => exact .inl ⟨quiet [_, _] rfl, Iff.rfl⟩
  | issue | send | reject | enqueue | finish | conclude | undecoded | unclaimed | late | refuse
  | register | sent | fail => exact .inl ⟨quiet [_] rfl, Iff.rfl⟩
  | _ => exact .inl ⟨rfl, Iff.rfl⟩

/-- No reason to drain is given while a link is active, and one by the time it is not. -/
structure Reasoned (link : Link M) : Prop where
  none : link.phase = .active → reasons link.history = []
  one : link.phase ≠ .active → ∃ reason, reasons link.history = [reason]

theorem Reasoned.change (change : Change wiring act link next) (reasoned : link.Reasoned) :
    next.Reasoned := by
  rcases reasons_of_change change with ⟨same, active⟩ | ⟨active, left, reason, more⟩
  · constructor
    · intro now
      rw [same]
      exact reasoned.none (active.1 now)
    · intro now
      rw [same]
      exact reasoned.one fun before => now (active.2 before)
  · refine ⟨fun now => absurd now left, fun _ => ⟨reason, ?_⟩⟩
    rw [more, reasoned.none active, List.nil_append]

theorem reasoned_of_run (run : follow? wiring fresh acts = some link) : link.Reasoned :=
  sound_fresh.follow_keeps (fun change _ => Reasoned.change change) run
    ⟨fun _ => rfl, fun inactive => absurd rfl inactive⟩

/-- A link that is not active any more has drained in one step of its run. -/
theorem drainedOnce_of_run (run : follow? wiring fresh acts = some link)
    (inactive : link.phase ≠ .active) : DrainedOnce wiring acts link := by
  obtain ⟨earlier, act, later, mid, next, split, run', moved, active, left, leaves, frozen⟩ :=
    exists_leaves run inactive
  have sound := (consistent_of_run run').sound
  obtain ⟨reason, once⟩ := (reasoned_of_run run).one inactive
  exact .intro split run' moved active (sound.phased.synced.unasked_iff.2 active)
    ((sound.after moved).phased.stopAsked_iff.2 left) leaves frozen once

/-! ## How the writer ends -/

/-- A writer that has ended stays as it is. -/
theorem ended_of_change (change : Change wiring act link next) (ended : link.writer = .ended how) :
    next.writer = .ended how := by
  have other {writer : Writer} (before : link.writer = writer) (differs : writer ≠ .ended how) :
      next.writer = .ended how :=
    absurd (before.symm.trans ended) differs
  have working {request : Request} (before : link.writer.request? = some request) :
      next.writer = .ended how := by
    rw [ended] at before
    cases before
  cases change with
  | stopWriting _ before | refuse _ before | skip _ before | register _ before | accept _ before
  | flush _ before | sent _ before | crashClosing before | endWriting before =>
    exact other before (by simp)
  | fail _ before | interrupt _ before | crashWriting _ before => exact working before
  | _ => exact ended

theorem writer_of_trail (trail : Relation.ReflTransGen (Trails wiring act) link next) :
    next.writer = link.writer := by
  induction trail with
  | refl => rfl
  | tail _ trails ih =>
    cases trails with
    | aside => exact ih
    | drain => exact ih

/-- What a step of the writer that shuts the transport down ends it with. -/
theorem ends_of_shutdownStep? (closing : link.writer = .closing)
    (moved : link.shutdownStep? = some next) (ended : next.writer = .ended how) :
    link.Ends how := by
  unfold shutdownStep? at moved
  dsimp only at moved
  split at moved
  · next answer =>
    cases moved
    cases ended
    exact .done closing answer
  · next error answer =>
    cases moved
    cases ended
    exact .fault closing answer
  · next text answer =>
    cases moved
    cases ended
    exact .crashedClosing closing answer
  · split at moved
    · cases moved
    · cases moved
      rw [closing] at ended
      cases ended

/-- The writer ends in a step of its own. -/
theorem ends_of_act (sound : link.Sound) (moved : act? wiring link act = some next)
    (before : link.writer ≠ .ended how) (ended : next.writer = .ended how) :
    act = .write ∧ link.Ends how := by
  by_cases asked : act = .write
  -- of the changes that a step of the writer begins with three can end it
  · subst asked
    refine ⟨rfl, ?_⟩
    obtain ⟨change, trail, -⟩ := writerStep?_moves sound.phased.synced moved
    rw [writer_of_trail trail] at ended
    cases change with
    | crashWriting active working _ stop =>
      cases ended
      exact .crashed working stop
    | crashClosing closing | endWriting closing =>
      have stepped : link.shutdownStep? = some next := by
        simpa [act?, writerStep?, closing] using moved
      exact ends_of_shutdownStep? closing stepped ((writer_of_trail trail).trans ended)
    | stopWriting | register | accept | flush | sent | fail | interrupt => cases ended
    | _ => exact absurd ended before
  · have same : next.writer = link.writer :=
      sound.keeps (motive := fun mid => mid.writer = link.writer)
        (fun change _ same => (writer_of_change change asked).trans same) moved rfl
    exact absurd (same ▸ ended) before

/-- The writer of a closed link has ended, and the link knows how. -/
def Concluded (link : Link M) : Prop :=
  link.phase = .closed → ∃ how, link.writer = .ended how ∧ link.shutdownFault = how.fault?

theorem Concluded.change (change : Change wiring act link next) (concluded : link.Concluded) :
    next.Concluded := by
  intro closed
  have kept (before : link.phase = .closed) (same : next.shutdownFault = link.shutdownFault) :
      ∃ how, next.writer = .ended how ∧ next.shutdownFault = how.fault? := by
    obtain ⟨how, ended, fault⟩ := concluded before
    exact ⟨how, ended_of_change change ended, same.trans fault⟩
  cases change with
  | closeDown draining writer reader => exact ⟨_, writer, rfl⟩
  | drain => cases closed
  | _ => exact kept closed rfl

theorem concluded_of_run (run : follow? wiring fresh acts = some link) : link.Concluded :=
  sound_fresh.follow_keeps (fun change _ => Concluded.change change) run
    fun closed => nomatch closed

/-- What a closed link returns to those who closed it was decided in the step in which its writer
ended. -/
theorem verdict_of_run (run : follow? wiring fresh acts = some link)
    (closed : link.phase = .closed) :
    ∃ how, WriterEnded wiring acts how ∧ link.writer = .ended how ∧
      link.conclusion .close = how.verdict := by
  obtain ⟨how, ended, fault⟩ := concluded_of_run run closed
  refine ⟨how, ?_, ended, ?_⟩
  · obtain ⟨earlier, act, later, mid, next, split, run', moved, -, before, after⟩ :=
      exists_act_of_follow (motive := fun link => link.writer = .ended how) run
        (fun start => nomatch start) ended
    obtain ⟨rfl, ends⟩ := ends_of_act (consistent_of_run run').sound moved before after
    exact .intro split run' ends
  · rw [conclusion, fault]
    cases how <;> rfl

/-! ## Calls that wait for the end -/

/-- What has become of a call that waits for the end of the link, and that may have been cancelled
in some acts. -/
inductive Attends (link : Link M) (number : Nat) (task : Task) (since : List (Act M)) : Prop
  | waits (member : ⟨number, task⟩ ∈ link.calls)
  | concluded (closed : link.phase = .closed)
      (returned : .returned number none (link.conclusion task) ∈ link.history)
  | cancelled (asked : .play (.abort number) ∈ since) (made : number < link.made)
      (gone : ∀ call ∈ link.calls, call.number ≠ number)
      (never : ∀ ticket? result, .returned number ticket? result ∉ link.history)

/-- A link that is closed stays so, and so does what it returns. -/
theorem closed_of_change (change : Change wiring act link next) (closed : link.phase = .closed) :
    next.phase = .closed ∧ next.conclusion task = link.conclusion task := by
  cases change with
  | drain active =>
    rw [active] at closed
    cases closed
  | closeDown draining =>
    rw [draining] at closed
    cases closed
  | _ => exact ⟨closed, rfl⟩

/-- Calls with different tasks are different calls. -/
theorem Owned.number_ne (owned : link.Owned) {call other : Call} (member : call ∈ link.calls)
    (there : other ∈ link.calls) (differs : call.task ≠ other.task) :
    call.number ≠ other.number :=
  fun same => differs (congrArg Call.task (owned.eq_of_number member there same))

/-- A call that waits goes on waiting, unless it returns or is cancelled. -/
theorem attends_of_waits (change : Change wiring act link next) (sound : link.Sound)
    (accounted : link.Accounted) (inside : act ∈ later) (wait : task = .close ∨ task = .watch)
    (member : ⟨number, task⟩ ∈ link.calls) : next.Attends number task later := by
  -- calls that send are other calls
  have differs {call : Call} {request : Request} {handed : Bool} {timer : Option Timer}
      (there : call ∈ link.calls) (sends : call.task = .send request handed timer) :
      number ≠ call.number :=
    sound.owned.number_ne member there (by rcases wait with rfl | rfl <;> simp [sends])
  cases change with
  | send | await => exact .waits (List.mem_append_left _ member)
  | @abort call asked there =>
    by_cases same : number = call.number
    · subst same
      refine .cancelled (asked ▸ inside) (sound.owned.number_lt _ there) ?_ ?_
      · intro other inside
        simpa using (List.mem_filter.1 inside).2
      · intro ticket? result returned
        exact (accounted.number returned).2 call there rfl
    · exact .waits (List.mem_filter.2 ⟨member, by simpa using same⟩)
  | @conclude call there _ closed =>
    by_cases same : number = call.number
    · have equal := sound.owned.eq_of_number member there same
      subst equal
      exact .concluded closed List.mem_cons_self
    · exact .waits (List.mem_filter.2 ⟨member, by simpa using same⟩)
  | enqueue there sends => exact .waits (List.mem_map.2 ⟨_, member, if_neg (differs there sends)⟩)
  | finish asked there sends =>
    exact .waits (List.mem_filter.2 ⟨member, by simpa using differs there sends⟩)
  | _ => exact .waits member

theorem Attends.change (change : Change wiring act link next) (sound : link.Sound)
    (accounted : link.Accounted) (inside : act ∈ later) (wait : task = .close ∨ task = .watch)
    (attends : link.Attends number task later) : next.Attends number task later := by
  have grows := Grows.of_change change sound.owned
  cases attends with
  | waits member => exact attends_of_waits change sound accounted inside wait member
  | concluded closed returned =>
    obtain ⟨closed', same⟩ : next.phase = .closed ∧ next.conclusion task = link.conclusion task :=
      closed_of_change change closed
    refine .concluded closed' ?_
    rw [same]
    exact grows.mem_history returned
  | cancelled asked made gone never =>
    -- numbers are not given twice, so no later call has this one
    refine .cancelled asked (Nat.lt_of_lt_of_le made grows.made_le) ?_ ?_
    · intro call member
      rcases caller_of_change change member with ⟨before, inside, same, -⟩ | ⟨new, -⟩
      · rw [← same]
        exact gone before inside
      · omega
    · intro ticket? result returned
      rcases result_of_change change sound returned with
        old | ⟨-, ⟨rfl, -⟩ | ⟨call, inside, same, -⟩⟩
      · exact never _ _ old
      · exact Nat.lt_irrefl _ made
      · exact gone call inside same

theorem Attends.follow (consistent : link.Consistent wiring)
    (run : follow? wiring link acts = some final) (inside : ∀ act ∈ acts, act ∈ later)
    (wait : task = .close ∨ task = .watch) (attends : link.Attends number task later) :
    final.Attends number task later := by
  induction acts generalizing link with
  | nil =>
    cases run
    exact attends
  | cons act rest ih =>
    obtain ⟨next, moved, onward⟩ := follow?_cons.1 run
    obtain ⟨here, inside⟩ := List.forall_mem_cons.1 inside
    refine ih (consistent.after moved) onward inside ?_
    exact consistent.keeps (motive := fun link => link.Attends number task later)
      (fun change consistent attends =>
        attends.change change consistent.sound consistent.accounted here wait) moved attends

theorem drain_made (link : Link M) (reason : DrainReason) :
    (link.drain reason).made = link.made := by
  by_cases active : link.phase = .active
  · obtain ⟨told, remarks, -, eq⟩ := drain_of_active active reason
    rw [eq]
  · rw [drain_of_not_active active]
    rfl

/-- What has become of a call that waits for the end, in the run in which it was made. -/
theorem attends_of_run (run : follow? wiring fresh acts = some link)
    (attending : Attending wiring acts number task later) : link.Attends number task later := by
  -- the call waits when it has been made, and the rest of the run goes on from there
  have since {earlier : List (Act M)} {mid : Link M} {operation : Operation M} (next : Link M)
      (run' : follow? wiring fresh earlier = some mid)
      (all : follow? wiring fresh (earlier ++ .play operation :: later) = some link)
      (played : (play wiring mid operation).2 = next) (waits : ⟨number, task⟩ ∈ next.calls)
      (wait : task = .close ∨ task = .watch) : link.Attends number task later := by
    obtain ⟨mid', again, onward⟩ := follow?_append.1 all
    rw [run'] at again
    cases again
    obtain ⟨next', moved, onward⟩ := follow?_cons.1 onward
    have consistent := (consistent_of_run run').after moved
    cases moved
    rw [played] at onward consistent
    exact .follow consistent onward (fun act member => member) wait (.waits waits)
  cases attending with
  | @close earlier _ mid run' handle =>
    refine since mid.close run' run ?_ ?_ (.inl rfl)
    · rw [play, withHandle, if_pos handle]
    · rw [close, addCall, drain_made]
      exact List.mem_append_right _ (List.mem_singleton_self _)
  | @watch earlier _ mid run' handle =>
    refine since mid.watch run' run ?_ ?_ (.inr rfl)
    · rw [play, withHandle, if_pos handle]
    · exact List.mem_append_right _ (List.mem_singleton_self _)

/-- How a link ends, after any run. -/
theorem orderly_of_run (run : follow? wiring fresh acts = some link) :
    Orderly wiring acts link := by
  have consistent := consistent_of_run run
  have phased := consistent.sound.phased
  have inactive (closed : link.phase = .closed) : link.phase ≠ .active := by simp [closed]
  refine
    { forward := fun later final onward => rank_of_follow consistent.sound onward
      stopAsked_iff := phased.stopAsked_iff
      isSealed_iff := phased.isSealed_iff
      empty := fun shut => phased.slots_eq_nil (phased.isSealed_iff.1 shut)
      closed_iff := fun settled => ?closed_iff
      queue := fun closed => ?queue
      undrained := fun active => ⟨(reasoned_of_run run).none active, drained_eq_zero run active⟩
      drained := drainedOnce_of_run run
      verdict := verdict_of_run run
      only := fun number task later attending ticket? result returned => ?only
      returns := fun number task later attending spared settled closed => ?returns }
  case closed_iff =>
    constructor
    · exact fun closed => ⟨phased.ended_of_closed closed, inactive closed⟩
    · rintro ⟨⟨writer, reader⟩, -⟩
      exact (settled.closed_of_ended consistent.sound reader writer).1
  case queue =>
    apply phased.queue_eq_nil
    rw [← Bool.not_eq_true, phased.isOpen_iff,
      Writer.not_serving_of_isEnded (phased.ended_of_closed closed).1]
    exact Bool.false_ne_true
  case only =>
    cases attends_of_run run attending with
    | waits member =>
      exact absurd rfl ((consistent.accounted.number returned).2 _ member)
    | concluded closed concluded =>
      exact ⟨closed, (consistent.accounted.unique returned concluded).2⟩
    | cancelled asked made gone never => exact absurd returned (never _ _)
  case returns =>
    cases attends_of_run run attending with
    | waits member =>
      have ended := phased.ended_of_closed closed
      rw [(settled.closed_of_ended consistent.sound ended.2 ended.1).2] at member
      cases member
    | concluded closed returned => exact returned
    | cancelled asked => exact absurd asked spared

/-! ## A link that is closed twice -/

section Twice

open Rehearsal

/-- A request has been sent and the link has been closed; its transport cannot be shut down. -/
def closedRun : List (Act Scripted) :=
  [.play (.transport { shutdown := some (.fault (.plain .brokenPipe)) }),
    .play (.send (scriptedMessage "000001") none), .turn 0 true, .write, .write, .write, .write,
    .play .close]

/-- After it has been closed once more, the link settles. -/
def closedEnd : List (Act Scripted) :=
  [.play .watch, .turn 0 true, .read, .write, .write, .supervise, .turn 1 true, .turn 2 true,
    .turn 3 true]

/-- The link when it has been closed once, and when it has settled. -/
def closedLink : Link Scripted × Link Scripted :=
  (scriptedLink closedRun, scriptedLink (closedRun ++ .play .close :: closedEnd))

theorem closedLink_eq : closedLink.1.handle = true ∧ closedLink.1.made = 2 ∧
    closedLink.2.phase = .closed ∧
    closedLink.2.shutdownFault = some (.io "shutting down transport" (.plain .brokenPipe)) := by
  decide +kernel

theorem orderly_of_run_twice :
    follow? scriptedWiring fresh (closedRun ++ .play .close :: closedEnd) = some closedLink.2 ∧
      Settled scriptedWiring closedLink.2 ∧
      Orderly scriptedWiring (closedRun ++ .play .close :: closedEnd) closedLink.2 ∧
      .returned 2 none (.failed (.io "shutting down transport" (.plain .brokenPipe))) ∈
        closedLink.2.history := by
  have run : follow? scriptedWiring fresh closedRun = some closedLink.1 :=
    follow?_scripted (by decide +kernel)
  have all : follow? scriptedWiring fresh (closedRun ++ .play .close :: closedEnd) =
      some closedLink.2 := follow?_scripted (by decide +kernel)
  have settled : Settled scriptedWiring closedLink.2 := by decide +kernel
  obtain ⟨handle, made, closed, fault⟩ := closedLink_eq
  have orderly := orderly_of_run all
  refine ⟨all, settled, orderly, ?_⟩
  have attending : Attending scriptedWiring (closedRun ++ .play .close :: closedEnd) 2 .close
      closedEnd := made ▸ .close run handle
  have returned := orderly.returns 2 .close closedEnd attending
    (by simp [closedEnd]) settled closed
  rwa [conclusion, fault] at returned

end Twice

end Link

end Multiplex
