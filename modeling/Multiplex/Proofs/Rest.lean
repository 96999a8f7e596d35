import Multiplex.Proofs.Frames
import Multiplex.Proofs.Playing
import Multiplex.Proofs.Rounds
import Multiplex.Proofs.WriteFailures
import Mathlib.Order.WellFounded

/-!
# Coming to rest

Whatever has happened on a link, and whatever is played on it next, its tasks take finitely many
steps until none of them can move: in the order in which `Link.settle` takes them, and in any order
that leaves nobody out for ever (`Impartial`). Nothing is assumed of the transport; it may refuse
every write.

Main statement: `comesToRest_of_run`.
-/

namespace Multiplex

variable {M : Type}

/-- Those who take the steps of a link. -/
inductive Party where
  | reader
  | writer
  | call (number : Nat)
  | supervisor

/-- Whose step an act is. -/
def Act.party? : Act M → Option Party
  | .read => some .reader
  | .write => some .writer
  | .turn number _ => some (.call number)
  | .supervise => some .supervisor
  | .play _ => none

theorem Act.party?_of_isStep {act : Act M} (step : act.isStep = true) :
    ∃ party, act.party? = some party := by
  cases act with
  | play operation => cases step
  | read | write | turn | supervise => exact ⟨_, rfl⟩

/-- Headers are written in exactly as many bytes as they occupy. -/
def Framing.Sized (framing : Framing) : Prop :=
  ∀ length header, framing.encode length = .ok header → header.length = framing.size

theorem Header.framing_sized (header : Header) : header.framing.Sized := by
  intro length bytes encoded
  obtain ⟨-, rfl⟩ := Header.announce_eq_ok_iff.1 encoded
  exact header.length_layout length

namespace Link

/-- The links one after another when the tasks take steps in some order, without an end: in each
moment one of them takes a step, or none does. -/
structure Schedule (wiring : Wiring M) (start : Link M) (order : Nat → Option (Act M))
    (course : Nat → Link M) : Prop where
  start : course 0 = start
  rests : ∀ {n : Nat}, order n = none → course (n + 1) = course n
  steps : ∀ {n : Nat} {act : Act M}, order n = some act →
    act.isStep = true ∧ act? wiring (course n) act = some (course (n + 1))

/-- The party can take a step, and need not go before others in the line for it. -/
def MayMove (wiring : Wiring M) (link : Link M) (party : Party) : Prop :=
  ∃ act next, act.party? = some party ∧ act? wiring link act = some next ∧
    ∀ number ∈ act.favoured?, link.next? = some number

/-- Nobody who can move at every moment from some moment on is left out for ever. -/
def Impartial (wiring : Wiring M) (order : Nat → Option (Act M)) (course : Nat → Link M) : Prop :=
  ∀ party start, (∀ n, start ≤ n → (course n).MayMove wiring party) →
    ∃ n act, start ≤ n ∧ order n = some act ∧ act.party? = some party

/-- The tasks of the link come to rest, whatever order they take their steps in. -/
structure ComesToRest (wiring : Wiring M) (link : Link M) : Prop where
  /-- There are no more steps than there is work. -/
  bounded : ∀ {acts : List (Act M)} {final : Link M}, (∀ act ∈ acts, act.isStep = true) →
    follow? wiring link acts = some final → acts.length + final.work ≤ link.work
  settled : Settled wiring (link.settle wiring)
  /-- In any fair order the link settles, and then nothing moves any more. -/
  fair : ∀ {order : Nat → Option (Act M)} {course : Nat → Link M},
    Schedule wiring link order course → Impartial wiring order course →
      ∃ n, Settled wiring (course n) ∧ ∀ m, n ≤ m → course m = course n
  /-- The frames that are read, one by one, take at least their headers from the unread bytes. -/
  reader : ∀ {next : Link M}, act? wiring link .read = some next →
    ∃ payloads, payloads.length ≤ 1 ∧ Reads wiring link next payloads
  frames : ∀ {acts : List (Act M)} {final : Link M}, (∀ act ∈ acts, act.isStep = true) →
    follow? wiring link acts = some final → ∃ payloads, Reads wiring link final payloads ∧
      final.unread wiring + wiring.framing.size * payloads.length ≤ link.unread wiring
  /-- The headers at hand have two bytes at least, written and read. -/
  headers : ∀ header : Header, wiring.framing = header.framing →
    2 ≤ wiring.framing.size ∧ wiring.framing.Sized
  /-- A reader that does not move has ended, or there is nothing to read. -/
  waits : act? wiring link .read = none → link.reader.isEnded = true ∨
    link.phase = .active ∧ link.transport.inbound = [] ∧ ∃ part, link.reader = .running [] part
  writer : ∀ {next : Link M}, act? wiring link .write = some next → link.Round next
  /-- A write that the transport refuses, or of which it takes no byte, is an error. -/
  refused : ∀ {request : Request} {rest : Bytes} {error : IoError}, link.phase = .active →
    link.writer = .writing request rest → rest ≠ [] → link.transport.refusal? = some error →
      ∃ next, act? wiring link .write = some next ∧ next.writer = .idle ∧
        next.queue = link.queue ∧ .writeFailed request.ticket request.key error ∈ next.history
  /-- If every write is refused and the link goes on nevertheless, the queue gets empty. -/
  failing : ∀ {error : IoError}, wiring.framing.Sized →
    wiring.config.closeOnWriteFailure = false → link.phase = .active → link.writer = .idle →
      link.transport.refusal? = some error →
        ∃ count final, count ≤ 2 * link.queue.length ∧
          follow? wiring link (List.replicate count .write) = some final ∧
            final.phase = .active ∧ final.writer = .idle ∧ final.queue = []
  /-- Once the link drains, what is left in the queue is rejected, and nothing more gets there. -/
  rejected : link.phase ≠ .active → link.writer = .idle →
    ∃ next, act? wiring link .write = some next ∧ next.writer = .closing ∧
      (∀ request ∈ link.queue, next.exchanges.poll request.ticket = some (.error .closed)) ∧
        ∀ {later : List (Act M)} {final : Link M}, follow? wiring next later = some final →
          final.queue = []

variable {wiring : Wiring M} {act : Act M} {acts : List (Act M)} {link next final : Link M}
  {call : Call} {request : Request} {timer : Option Timer} {first : Bool}

/-! ## When nobody can move -/

/-- A call in line waits if the link goes on, its deadline is ahead and it has no place in the
queue to go to. -/
theorem turn?_line_eq_none_iff (task : call.task = .send request false timer) :
    turn? wiring link first call = none ↔
      (link.stopAsked || !link.queueOpen) = false ∧
        (first = true → ¬link.queue.length < max wiring.config.writeQueueDepth 1) ∧
          link.expireIfDue request false timer = none := by
  unfold turn?
  simp only [task]
  cases shut : link.stopAsked || !link.queueOpen with
  | true => simp
  | false =>
    simp only [Bool.false_eq_true, if_false, true_and]
    by_cases room : (first && link.queue.length < max wiring.config.writeQueueDepth 1) = true
    · rw [if_pos room]
      rw [Bool.and_eq_true, decide_eq_true_iff] at room
      constructor
      · intro stuck
        split at stuck <;> cases stuck
      · intro waits
        exact absurd room.2 (waits.1 room.1)
    · rw [if_neg room]
      rw [Bool.and_eq_true, decide_eq_true_iff, not_and] at room
      exact ⟨fun early => ⟨room, early⟩, And.right⟩

/-- Whether it is first in line makes no difference to a call that is not in line. -/
theorem turn?_congr (apart : call.inLine = false) (first first' : Bool) :
    turn? wiring link first call = turn? wiring link first' call := by
  unfold turn?
  cases task : call.task with
  | send request handed timer =>
    cases handed with
    | false =>
      rw [Call.inLine, task] at apart
      cases apart
    | true => rfl
  | close | watch => rfl

theorem turnOf?_eq_none_iff {ahead : Option Nat} : turnOf? wiring link ahead call = none ↔
    turn? wiring link (ahead = some call.number) call = none := by
  unfold turnOf?
  constructor
  · intro stuck
    split at stuck
    · assumption
    · cases stuck
    · cases stuck
  · intro stuck
    rw [stuck]

theorem task_of_inLine (line : call.inLine = true) :
    ∃ request timer, call.task = .send request false timer := by
  unfold Call.inLine at line
  split at line
  · next request handed timer task =>
    rw [Bool.not_eq_true'] at line
    exact ⟨request, timer, line ▸ task⟩
  · cases line

/-- If no call can take its turn as the line stands, none could take it if it were favoured: the
call that is first in line would hand its request over if there were room. -/
theorem turnOf?_of_callStep? (stuck : callStep? wiring link = none) (member : call ∈ link.calls)
    (ahead : Option Nat) : turnOf? wiring link ahead call = none := by
  have unmoved : ∀ call ∈ link.calls,
      turn? wiring link (link.next? = some call.number) call = none := by
    unfold callStep? at stuck
    simp only [Option.orElse_eq_orElse, Option.orElse_eq_or, Option.or_eq_none_iff] at stuck
    intro call member
    exact turnOf?_eq_none_iff.1 (List.findSome?_eq_none_iff.1 stuck.2.2 call member)
  rw [turnOf?_eq_none_iff]
  cases line : call.inLine with
  | false => rw [turn?_congr line, unmoved call member]
  | true =>
    obtain ⟨request, timer, task⟩ := task_of_inLine line
    obtain ⟨goesOn, -, early⟩ := (turn?_line_eq_none_iff task).1 (unmoved call member)
    refine (turn?_line_eq_none_iff task).2 ⟨goesOn, fun _ room => ?_, early⟩
    cases front : link.calls.find? Call.inLine with
    | none =>
      have behind := List.find?_eq_none.1 front call member
      exact behind line
    | some other =>
      obtain ⟨request', timer', task'⟩ := task_of_inLine (List.find?_some front)
      have next : decide (link.next? = some other.number) = true := by
        rw [next?, front, Option.map_some, decide_eq_true_iff]
      have waits := unmoved other (List.mem_of_find?_eq_some front)
      exact ((turn?_line_eq_none_iff task').1 waits).2.1 next room

/-- A link of which no part takes a step has settled. -/
theorem settled_of_step? (stuck : step? wiring link = none) : Settled wiring link := by
  unfold step? at stuck
  split at stuck
  · cases stuck
  · next read =>
    split at stuck
    · cases stuck
    · next write =>
      split at stuck
      · cases stuck
      · next calls =>
        exact settled_of read write (fun call member => turnOf?_of_callStep? calls member) stuck

/-- On a link that has not settled somebody may move. -/
theorem mayMove_of_not_settled (owned : link.Owned) (moving : ¬Settled wiring link) :
    ∃ party, link.MayMove wiring party := by
  cases stepped : step? wiring link with
  | none => exact absurd (settled_of_step? stepped) moving
  | some next =>
    obtain ⟨act, step, moved, first⟩ := act?_of_step? owned stepped
    obtain ⟨party, whose⟩ := Act.party?_of_isStep step
    exact ⟨party, act, next, whose, moved, first⟩

/-! ## The fixed order -/

theorem Poised.work_lt_of_step? (sized : 0 < wiring.framing.size) (poised : link.Poised wiring)
    (stepped : step? wiring link = some next) : next.work < link.work ∧ next.Poised wiring := by
  obtain ⟨act, step, moved, -⟩ := act?_of_step? poised.sound.owned stepped
  exact ⟨work_lt_of_act sized poised.sound poised.inFrame step moved, poised.after sized moved⟩

/-- As many steps as there is work are enough. -/
theorem Poised.settled_stepMany (sized : 0 < wiring.framing.size) (poised : link.Poised wiring)
    {fuel : Nat} (enough : link.work ≤ fuel) : Settled wiring (stepMany wiring fuel link) := by
  induction fuel generalizing link with
  | zero =>
    apply settled_of_step?
    rw [Option.eq_none_iff_forall_ne_some]
    intro next stepped
    have less := (poised.work_lt_of_step? sized stepped).1
    omega
  | succ fuel ih =>
    rw [stepMany]
    split
    · next stuck => exact settled_of_step? stuck
    · next next stepped =>
      obtain ⟨less, poised'⟩ := poised.work_lt_of_step? sized stepped
      exact ih poised' (by omega)

/-! ## Any fair order -/

section Orders

variable {order : Nat → Option (Act M)} {course : Nat → Link M}

theorem Schedule.poised (sized : 0 < wiring.framing.size) (poised : link.Poised wiring)
    (schedule : Schedule wiring link order course) (n : Nat) : (course n).Poised wiring := by
  induction n with
  | zero =>
    rw [schedule.start]
    exact poised
  | succ n ih =>
    cases moves : order n with
    | none =>
      rw [schedule.rests moves]
      exact ih
    | some act => exact ih.after sized (schedule.steps moves).2

theorem Schedule.work_lt (sized : 0 < wiring.framing.size) (poised : link.Poised wiring)
    (schedule : Schedule wiring link order course) {n : Nat} {act : Act M}
    (moves : order n = some act) : (course (n + 1)).work < (course n).work := by
  have before := schedule.poised sized poised n
  have step := schedule.steps moves
  exact work_lt_of_act sized before.sound before.inFrame step.1 step.2

theorem Schedule.work_le (sized : 0 < wiring.framing.size) (poised : link.Poised wiring)
    (schedule : Schedule wiring link order course) {m n : Nat} (later : m ≤ n) :
    (course n).work ≤ (course m).work := by
  induction later with
  | refl => exact Nat.le_refl _
  | @step n _ ih =>
    refine Nat.le_trans ?_ ih
    cases moves : order n with
    | none => rw [schedule.rests moves]
    | some act => exact Nat.le_of_lt (schedule.work_lt sized poised moves)

/-- Work cannot be used up for ever, so from some moment on nobody takes a step. -/
theorem Schedule.exists_rest (sized : 0 < wiring.framing.size) (poised : link.Poised wiring)
    (schedule : Schedule wiring link order course) :
    ∃ n, (∀ m, n ≤ m → order m = none) ∧ ∀ m, n ≤ m → course m = course n := by
  -- take a moment with the least work of all
  obtain ⟨n, least⟩ : ∃ n, ∀ m, (course n).work ≤ (course m).work :=
    ⟨Function.argmin (fun n => (course n).work),
      fun m => Function.argmin_le (fun n => (course n).work) m⟩
  have idle (m : Nat) (later : n ≤ m) : order m = none := by
    rw [Option.eq_none_iff_forall_ne_some]
    intro act moves
    have less := schedule.work_lt sized poised moves
    have le := schedule.work_le sized poised later
    have most := least (m + 1)
    omega
  refine ⟨n, idle, fun m later => ?_⟩
  induction later with
  | refl => rfl
  | @step m later ih => exact (schedule.rests (idle m later)).trans ih

theorem Schedule.comesToRest (sized : 0 < wiring.framing.size) (poised : link.Poised wiring)
    (schedule : Schedule wiring link order course) (fair : Impartial wiring order course) :
    ∃ n, Settled wiring (course n) ∧ ∀ m, n ≤ m → course m = course n := by
  obtain ⟨n, idle, same⟩ := schedule.exists_rest sized poised
  refine ⟨n, ?_, same⟩
  by_contra moving
  -- whoever may move at that moment may move ever after, so its turn comes
  obtain ⟨party, moves⟩ :=
    mayMove_of_not_settled (schedule.poised sized poised n).sound.owned moving
  have always : ∀ m, n ≤ m → (course m).MayMove wiring party := by
    intro m later
    rw [same m later]
    exact moves
  obtain ⟨m, act, later, taken, -⟩ := fair party n always
  rw [idle m later] at taken
  cases taken

end Orders

/-- No request has an empty frame, since its header occupies some bytes. -/
theorem Recorded.frame_ne_nil (recorded : link.Recorded wiring) (sized : 0 < wiring.framing.size)
    (even : wiring.framing.Sized) (carried : link.Carries request) : request.frame ≠ [] := by
  obtain ⟨message, made⟩ := recorded.carried carried
  obtain ⟨payload, header, -, -, encoded, frame⟩ :=
    frameOf_eq_ok (frameOf_of_keyedFrame (recorded.prepared made).2)
  have size := even _ _ encoded
  intro empty
  rw [empty] at frame
  obtain ⟨rfl, -⟩ := List.append_eq_nil_iff.1 frame.symm
  rw [← size] at sized
  exact absurd sized (Nat.lt_irrefl 0)

/-- After every run and every operation the tasks of the link come to rest. -/
theorem comesToRest_of_run (sized : 0 < wiring.framing.size)
    (run : follow? wiring fresh acts = some link) (operation : Operation M) :
    ComesToRest wiring (play wiring link operation).2 := by
  have played : follow? wiring fresh (acts ++ [.play operation]) =
      some (play wiring link operation).2 := follow?_append.2 ⟨link, run, rfl⟩
  have poised := poised_of_run sized played
  have recorded := (consistent_of_run played).recorded
  generalize (play wiring link operation).2 = link at poised recorded
  have synced := poised.sound.phased.synced
  constructor
  · exact poised.work_of_follow sized
  · exact poised.settled_stepMany sized (Nat.le_refl _)
  · exact fun schedule => schedule.comesToRest sized poised
  · exact fun moved => reads_of_act sized poised rfl moved
  · intro acts final steps run
    obtain ⟨payloads, reads⟩ := reads_of_follow sized poised steps run
    have bytes := reads.bytes
    have headers := wiring.headers_le_volume payloads
    exact ⟨payloads, reads, by omega⟩
  · intro header same
    rw [same]
    exact ⟨header.two_le_size, header.framing_sized⟩
  · exact waits_of_readStep? synced
  · exact round_of_write synced
  · intro request rest error active writing left refusal
    have eases := failWriting_eases wiring link request error
    refine ⟨_, act?_refused synced active writing left refusal, eases.writer, eases.queue, ?_⟩
    have fails := failWriting_fails wiring active request error
    generalize failWriting wiring link request error = next at fails
    cases fails with
    | stays => exact List.mem_cons_self
    | falls => exact List.mem_append_right _ (List.mem_cons_of_mem _ List.mem_cons_self)
  · intro error even stays active idle refusal
    exact follow?_refused poised.sound stays active idle refusal fun request member =>
      recorded.frame_ne_nil sized even (.queue member)
  · exact rejects_of_idle poised.sound

open Rehearsal

/-- A request waits for the writer and one is in line, and the transport takes no byte of any
frame. -/
def refusedRun : List (Act Scripted) :=
  [.play (.transport { write := some (some 0, .nothing) }),
    .play (.send (scriptedMessage "000001") none), .turn 0 true,
    .play (.send (scriptedMessage "000002") (some 5))]

/-- The link after that run. -/
def refusedLink : Link Scripted :=
  (follow? (lenient scriptedWiring) fresh refusedRun).getD fresh

theorem refusedLink_eq : (follow? (lenient scriptedWiring) fresh refusedRun).isSome = true ∧
    refusedLink.queue = [⟨0, "000001", scriptedFrame 49⟩] ∧ refusedLink.calls.length = 2 ∧
    refusedLink.phase = .active ∧ refusedLink.writer = .idle ∧
    refusedLink.transport.refusal? = some (.plain .writeZero) := by
  decide +kernel

theorem comesToRest_of_run_refused :
    follow? (lenient scriptedWiring) fresh refusedRun = some refusedLink ∧
      ComesToRest (lenient scriptedWiring)
        (play (lenient scriptedWiring) refusedLink (.advance 5)).2 ∧
      ∃ count final, count ≤ 2 ∧
        follow? (lenient scriptedWiring)
            (play (lenient scriptedWiring) refusedLink (.advance 5)).2
            (List.replicate count .write) = some final ∧
          final.phase = .active ∧ final.writer = .idle ∧ final.queue = [] := by
  obtain ⟨runs, queue, -, active, idle, refusal⟩ := refusedLink_eq
  have run : follow? (lenient scriptedWiring) fresh refusedRun = some refusedLink :=
    (Option.getD_of_ne_none (Option.isSome_iff_ne_none.1 runs) fresh).symm
  have rests := comesToRest_of_run (by decide) run (.advance 5)
  have queue' : (play (lenient scriptedWiring) refusedLink (.advance 5)).2.queue =
      [⟨0, "000001", scriptedFrame 49⟩] := queue
  obtain ⟨count, final, most, run', ends⟩ :=
    rests.failing (Header.framing_sized _) rfl active idle refusal
  rw [queue'] at most
  exact ⟨run, rests, count, final, most, run', ends⟩

end Link

end Multiplex
