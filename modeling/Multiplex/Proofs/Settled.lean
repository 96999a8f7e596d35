import Multiplex.Proofs.Fates

/-!
# Settled links

What a link looks like when none of its tasks can move. Once such a link has left its active phase
its reader has ended, its writer shuts down or has ended, and no call that sends is left
(`no_send_of_inactive`); and whenever both loops have ended it is closed, with no call left at all
(`closed_of_ended`).
-/

namespace Multiplex.Link

variable {M : Type} {wiring : Wiring M} {link : Link M} {call : Call} {request : Request}
  {handed : Bool} {timer : Option Timer}

/-- Looking up a call by its number finds it. -/
theorem Owned.find?_call (owned : link.Owned) (member : call ∈ link.calls) :
    (link.calls.find? fun other => other.number = call.number) = some call := by
  cases found : link.calls.find? fun other => other.number = call.number with
  | none =>
    have absent := List.find?_eq_none.1 found call member
    simp at absent
  | some other =>
    have same : other.number = call.number := by simpa using List.find?_some found
    rw [owned.eq_of_number (List.mem_of_find?_eq_some found) member same]

/-- In a settled link no call can take its turn, whether it is first in line or not. -/
theorem Settled.turn?_eq_none (settled : Settled wiring link) (owned : link.Owned)
    (member : call ∈ link.calls) (first : Bool) : turn? wiring link first call = none := by
  have stuck := settled (.turn call.number first) rfl
  simp only [act?] at stuck
  rw [owned.find?_call member, Option.bind_some] at stuck
  -- the act says whether the call is first in line, `turnOf?` compares numbers
  have same : decide ((if first then some call.number else none) = some call.number) = first := by
    cases first <;> simp
  unfold turnOf? at stuck
  rw [same] at stuck
  split at stuck
  · assumption
  · cases stuck
  · cases stuck

/-- A link has settled if no loop, no call and not the supervisor can move. -/
theorem settled_of (read : readStep? wiring link = none) (write : writerStep? wiring link = none)
    (turn : ∀ call ∈ link.calls, ∀ first, turnOf? wiring link first call = none)
    (supervise : link.superviseStep? = none) : Settled wiring link := by
  intro act step
  cases act with
  | read => exact read
  | write => exact write
  | turn number first =>
    simp only [act?]
    cases found : link.calls.find? fun call => call.number = number with
    | none => rfl
    | some call => exact turn call (List.mem_of_find?_eq_some found) _
  | supervise => exact supervise
  | play operation => cases step

/-- The steps that the tasks of the link could take. -/
def steps (link : Link M) : List (Act M) :=
  .read :: .write :: .supervise ::
    link.calls.flatMap fun call => [.turn call.number true, .turn call.number false]

theorem settled_iff :
    Settled wiring link ↔ ∀ act ∈ link.steps, (act? wiring link act).isNone = true := by
  constructor
  · intro settled act member
    have step : act.isStep = true := by
      rcases List.mem_cons.1 member with rfl | member
      · rfl
      rcases List.mem_cons.1 member with rfl | member
      · rfl
      rcases List.mem_cons.1 member with rfl | member
      · rfl
      obtain ⟨call, -, turn⟩ := List.mem_flatMap.1 member
      rcases List.mem_pair.1 turn with rfl | rfl <;> rfl
    rw [settled act step, Option.isNone_none]
  · intro stuck act step
    have stuck (act : Act M) (member : act ∈ link.steps) : act? wiring link act = none :=
      Option.isNone_iff_eq_none.1 (stuck act member)
    cases act with
    | read => exact stuck _ (by simp [steps])
    | write => exact stuck _ (by simp [steps])
    | supervise => exact stuck _ (by simp [steps])
    | turn number first =>
      cases found : link.calls.find? fun call => call.number = number with
      | none => rw [act?, found, Option.bind_none]
      | some call =>
        have same : call.number = number := by simpa using List.find?_some found
        have member := List.mem_of_find?_eq_some found
        subst same
        refine stuck _ ?_
        simp only [steps, List.mem_cons, List.mem_flatMap, reduceCtorEq, false_or]
        exact ⟨call, member, by cases first <;> simp⟩
    | play operation => cases step

instance : Decidable (Settled wiring link) :=
  decidable_of_iff _ settled_iff.symm

/-- The supervisor waits as long as a loop runs. -/
theorem superviseStep?_eq_none
    (running : link.reader.isEnded = false ∨ link.writer.isEnded = false) :
    link.superviseStep? = none := by
  unfold superviseStep?
  split
  · rfl
  · next writer reader open_ =>
    rw [writer, reader, Reader.isEnded, Writer.isEnded] at running
    rcases running with running | running <;> cases running
  · rfl

/-! ## Calls that wait -/

/-- On a settled link every call that sends waits for an outcome: its deadline is still ahead, and
if it is in line the queue is full. -/
theorem Settled.send_waits (settled : Settled wiring link) (owned : link.Owned)
    (member : call ∈ link.calls) (task : call.task = .send request handed timer) :
    link.exchanges.poll request.ticket = none ∧
      (∀ deadline, timer = some deadline → link.clock < deadline.due) ∧
      (handed = false → link.queueOpen = true ∧
        max wiring.config.writeQueueDepth 1 ≤ link.queue.length) := by
  have ahead (handed : Bool) (stuck : link.expireIfDue request handed timer = none) :
      ∀ deadline, timer = some deadline → link.clock < deadline.due := by
    rintro deadline rfl
    unfold expireIfDue at stuck
    dsimp only at stuck
    split at stuck
    · cases stuck
    · next early => exact Nat.lt_of_not_le early
  have stuck := settled.turn?_eq_none owned member true
  unfold turn? at stuck
  cases handed with
  | false =>
    simp only [task] at stuck
    split at stuck
    · cases stuck
    · next opened =>
      split at stuck
      · split at stuck <;> cases stuck
      · next full =>
        refine ⟨owned.poll_of_line member task, ahead _ stuck, fun _ => ⟨?_, ?_⟩⟩
        · exact (by simpa using opened : link.stopAsked = false ∧ link.queueOpen = true).2
        · simp only [Bool.true_and, decide_eq_true_eq] at full
          exact Nat.le_of_not_lt full
  | true =>
    simp only [task] at stuck
    split at stuck
    · cases stuck
    · cases stuck
    · next unseen => exact ⟨unseen, ahead _ stuck, fun handed => nomatch handed⟩

/-! ## After the active phase -/

theorem Settled.writer_not_serving (settled : Settled wiring link) (synced : link.Synced)
    (inactive : link.phase ≠ .active) : link.writer.isServing = false := by
  have stuck : writerStep? wiring link = none := settled .write rfl
  unfold writerStep? at stuck
  split at stuck
  · rw [if_pos (synced.stopAsked_iff.2 inactive)] at stuck
    cases stuck
  · rw [if_pos (synced.stopAsked_iff.2 inactive)] at stuck
    cases stuck
  · rw [if_pos (synced.stopAsked_iff.2 inactive)] at stuck
    cases stuck
  · next closing => rw [closing, Writer.isServing]
  · next how ended => rw [ended, Writer.isServing]

/-- No call that sends is outstanding on a settled link that has left its active phase. Such a call
in line is turned away; one whose request was handed over sees an outcome, because there is no place
left where its entry could be held. -/
theorem Settled.no_send_of_inactive (settled : Settled wiring link) (sound : link.Sound)
    (inactive : link.phase ≠ .active) (member : call ∈ link.calls) :
    call.task ≠ .send request handed timer := by
  -- a call in line sees that the link is not active, and is turned away
  have no_line {other : Call} (inside : other ∈ link.calls) {request : Request}
      {timer : Option Timer} : other.task ≠ .send request false timer := by
    intro task
    have stuck := settled.turn?_eq_none sound.owned inside true
    unfold turn? at stuck
    simp only [task] at stuck
    rw [if_pos (by simp [sound.phased.stopAsked_iff.2 inactive])] at stuck
    cases stuck
  intro task
  cases handed with
  | false => exact no_line member task
  | true =>
    have stuck := settled.turn?_eq_none sound.owned member true
    unfold turn? at stuck
    simp only [task] at stuck
    split at stuck
    · cases stuck
    · cases stuck
    · next unseen =>
      -- the writer serves no more, so queue and table are empty, and nobody is in line
      have shut : link.queueOpen = false := by
        rw [← Bool.not_eq_true, sound.phased.isOpen_iff,
          settled.writer_not_serving sound.phased.synced inactive]
        exact Bool.false_ne_true
      have held := sound.owned.held.mem_iff.2 unseen
      rw [holders, sound.phased.slots_eq_nil inactive, sound.phased.queue_eq_nil shut] at held
      simp only [List.map_nil, List.nil_append] at held
      obtain ⟨other, inside, request, timer, line, -⟩ := mem_line_iff.1 held
      exact no_line inside line

theorem Settled.active_of_send (settled : Settled wiring link) (sound : link.Sound)
    (member : call ∈ link.calls) (task : call.task = .send request handed timer) :
    link.phase = .active :=
  Decidable.not_not.1 fun left => settled.no_send_of_inactive sound left member task

/-- A settled link both of whose loops have ended is closed, and every call on it has returned. -/
theorem Settled.closed_of_ended (settled : Settled wiring link) (sound : link.Sound)
    (reader : link.reader.isEnded = true) (writer : link.writer.isEnded = true) :
    link.phase = .closed ∧ link.calls = [] := by
  have closed : link.phase = .closed := by
    have stuck : link.superviseStep? = none := settled .supervise rfl
    unfold superviseStep? at stuck
    split at stuck
    · next closed => exact closed
    · cases stuck
    · next open_ =>
      cases how : link.writer <;> cases crash : link.reader <;>
        simp_all [Writer.isEnded, Reader.isEnded]
  refine ⟨closed, List.eq_nil_iff_forall_not_mem.2 ?_⟩
  intro call member
  have inactive : link.phase ≠ .active := by simp [closed]
  cases task : call.task with
  | send request handed timer => exact settled.no_send_of_inactive sound inactive member task
  | close =>
    have stuck := settled.turn?_eq_none sound.owned member true
    unfold turn? at stuck
    simp only [task, closed] at stuck
    cases fault : link.shutdownFault <;> simp [fault] at stuck
  | watch =>
    have stuck := settled.turn?_eq_none sound.owned member true
    unfold turn? at stuck
    simp [task, closed] at stuck

end Multiplex.Link
