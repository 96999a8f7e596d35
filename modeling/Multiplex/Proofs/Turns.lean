import Multiplex.Proofs.Dispatch
import Multiplex.Proofs.Settled

/-!
# One turn of a call

What a call that sends comes to when it takes its turn (`sendTurn_of_act`): it returns the verdict
that it has been given (`Link.verdict?`); without one it returns if its deadline has passed; and
else it hands its request over, if it can, or waits. Until it takes such a turn or is cancelled it
goes on waiting (`progress_of_act`), and a verdict stays what it is.

Main statements: `course_of_follow` (what becomes of a call in a run) and `destined_of_verdict` (a
call returns the verdict that it has been given).
-/

namespace Multiplex.Link

variable {M : Type}

/-- The result that a call which sends has been given and has not returned yet. A call in line has
been given a closed link once the link leaves its active phase or the writer takes no more requests;
a call whose request was handed over, the outcome of its exchange. -/
def verdict? (link : Link M) (request : Request) (handed : Bool) : Option (Result M) :=
  if handed then (link.exchanges.poll request.ticket).map .ofOutcome
  else if link.phase ≠ .active ∨ link.queueOpen = false then some (.failed .closed) else none

/-- The link after a request has been handed over. -/
def handOver (link : Link M) (request : Request) : Link M :=
  { link with
    queue := link.queue ++ [request]
    history := .queued request.ticket :: link.history }

/-- The link and the place of a request when the deadline of its call strikes: a request that has
come to the front of the line is handed over first. -/
inductive Strikes (wiring : Wiring M) (link : Link M) (request : Request) (handed first : Bool) :
    Link M → Bool → Prop
  | asItIs : Strikes wiring link request handed first link handed
  | ahead (line : handed = false) (front : first = true)
      (room : link.queue.length < max wiring.config.writeQueueDepth 1) :
      Strikes wiring link request handed first (link.handOver request) true

/-- What a call that sends comes to in its turn. -/
inductive SendTurn (wiring : Wiring M) (link : Link M) (number : Nat) (request : Request)
    (handed : Bool) (timer : Option Timer) (first : Bool) : Link M → Prop
  | handsOver (line : handed = false) (front : first = true)
      (room : link.queue.length < max wiring.config.writeQueueDepth 1)
      (undecided : link.verdict? request handed = none)
      (early : ∀ deadline, timer = some deadline → link.clock < deadline.due) :
      SendTurn wiring link number request handed timer first
        { link.handOver request with
          calls := link.calls.map fun other =>
            if other.number = number then ⟨number, .send request true timer⟩ else other }
  | learns {result : Result M} (told : List Ticket)
      (verdict : link.verdict? request handed = some result) :
      SendTurn wiring link number request handed timer first
        ({ link with exchanges := link.exchanges.quit request.ticket handed, told }.finish
          ⟨number, .send request handed timer⟩ result)
  | expires {deadline : Timer} {struck : Link M} {handed' : Bool} (timed : timer = some deadline)
      (passed : deadline.due ≤ link.clock) (undecided : link.verdict? request handed = none)
      (strikes : Strikes wiring link request handed first struck handed') :
      SendTurn wiring link number request handed timer first
        ((struck.expire request handed' deadline).1.finish ⟨number, .send request handed timer⟩
          (.failed (.timedOut request.key deadline.millis)))

/-- Whatever happens from now on, the call returns this result and no other, unless it is
cancelled. -/
structure Destined (wiring : Wiring M) (link : Link M) (number : Nat) (ticket : Ticket)
    (result : Result M) : Prop where
  only : ∀ {acts : List (Act M)} {final : Link M} {ticket? : Option Ticket} {result' : Result M},
    follow? wiring link acts = some final → .returned number ticket? result' ∈ final.history →
      ticket? = some ticket ∧ result' = result
  returns : ∀ {acts : List (Act M)} {final : Link M}, follow? wiring link acts = some final →
    Settled wiring final → .play (.abort number) ∉ acts →
      .returned number (some ticket) result ∈ final.history

variable {wiring : Wiring M} {act : Act M} {acts : List (Act M)} {link next final : Link M}
  {number : Nat} {request : Request} {handed : Bool} {timer : Option Timer} {first : Bool}
  {result : Result M}

theorem verdict?_handed :
    link.verdict? request true = (link.exchanges.poll request.ticket).map .ofOutcome :=
  if_pos rfl

theorem verdict?_line_eq_some_iff : link.verdict? request false = some result ↔
    (link.phase ≠ .active ∨ link.queueOpen = false) ∧ result = .failed .closed := by
  rw [verdict?, if_neg Bool.false_ne_true]
  split
  · next shut => exact ⟨fun same => ⟨shut, (Option.some.inj same).symm⟩, fun both => both.2 ▸ rfl⟩
  · next opened => exact ⟨(nomatch ·), fun both => absurd both.1 opened⟩

theorem verdict?_line_eq_none_iff : link.verdict? request false = none ↔
    link.phase = .active ∧ link.queueOpen = true := by
  rw [verdict?, if_neg Bool.false_ne_true]
  split
  · next shut =>
    simp only [reduceCtorEq, false_iff, not_and, Bool.not_eq_true]
    exact fun active => shut.resolve_left fun inactive => inactive active
  · next opened => simpa using opened

/-- What is asked of a call in line before it may hand its request over. -/
theorem shut_iff (synced : link.Synced) :
    (link.stopAsked || !link.queueOpen) = true ↔
      link.phase ≠ .active ∨ link.queueOpen = false := by
  rw [Bool.or_eq_true, synced.stopAsked_iff, Bool.not_eq_true']

/-! ## What a turn comes to -/

theorem lineTurn_of_turn? (synced : link.Synced) {after : Link M × Turn M}
    (moved : turn? wiring link first ⟨number, .send request false timer⟩ = some after) :
    SendTurn wiring link number request false timer first
      (settleTurn ⟨number, .send request false timer⟩ after) := by
  unfold turn? at moved
  dsimp only at moved
  split at moved
  · next shut =>
    cases moved
    obtain ⟨told, eq⟩ := leave_eq link request false
    rw [settleTurn, eq]
    exact .learns told (verdict?_line_eq_some_iff.2 ⟨(shut_iff synced).1 shut, rfl⟩)
  · next opened =>
    have undecided : link.verdict? request false = none := by
      rw [verdict?, if_neg Bool.false_ne_true, if_neg ((shut_iff synced).not.1 opened)]
    split at moved
    · next room =>
      rw [Bool.and_eq_true, decide_eq_true_iff] at room
      obtain ⟨front, room⟩ := room
      split at moved
      · next done due =>
        cases moved
        obtain ⟨deadline, timed, passed, rfl⟩ := expireIfDue_eq_some due
        exact .expires timed passed undecided (.ahead rfl front room)
      · next early =>
        cases moved
        refine .handsOver rfl front room undecided fun deadline timed => ?_
        subst timed
        exact Nat.lt_of_not_le fun passed => by simp [expireIfDue, note, passed] at early
    · obtain ⟨deadline, timed, passed, rfl⟩ := expireIfDue_eq_some moved
      exact .expires timed passed undecided .asItIs

theorem outcomeTurn_of_turn? {after : Link M × Turn M}
    (moved : turn? wiring link first ⟨number, .send request true timer⟩ = some after) :
    SendTurn wiring link number request true timer first
      (settleTurn ⟨number, .send request true timer⟩ after) := by
  unfold turn? at moved
  dsimp only at moved
  split at moved
  · next message seen =>
    cases moved
    exact .learns link.told (by rw [verdict?_handed, seen]; rfl)
  · next error seen =>
    cases moved
    exact .learns link.told (by rw [verdict?_handed, seen]; rfl)
  · next unseen =>
    obtain ⟨deadline, timed, passed, rfl⟩ := expireIfDue_eq_some moved
    exact .expires timed passed (by rw [verdict?_handed, unseen]; rfl) .asItIs

/-- Asking whether the call is first in line is asking for the answer that the act gives. -/
theorem decide_front (number : Nat) (first : Bool) :
    decide ((if first then some number else none) = some number) = first := by
  cases first <;> simp

/-- A call that sends takes its turn in one of these ways. -/
theorem sendTurn_of_act (sound : link.Sound)
    (member : ⟨number, .send request handed timer⟩ ∈ link.calls)
    (moved : act? wiring link (.turn number first) = some next) :
    SendTurn wiring link number request handed timer first next := by
  rw [act?, sound.owned.find?_call member, Option.bind_some] at moved
  obtain ⟨after, turned, rfl⟩ := turnOf?_eq_some moved
  rw [decide_front] at turned
  cases handed with
  | false => exact lineTurn_of_turn? sound.phased.synced turned
  | true => exact outcomeTurn_of_turn? turned

/-- A call that sends waits only if it has no verdict and its deadline is ahead. -/
theorem waits_of_turn?_eq_none (synced : link.Synced)
    (stuck : turn? wiring link first ⟨number, .send request handed timer⟩ = none) :
    link.verdict? request handed = none ∧
      ∀ deadline, timer = some deadline → link.clock < deadline.due := by
  have ahead (handed : Bool) (stuck : link.expireIfDue request handed timer = none) :
      ∀ deadline, timer = some deadline → link.clock < deadline.due := by
    rintro deadline rfl
    exact Nat.lt_of_not_le fun passed => by simp [expireIfDue, passed] at stuck
  unfold turn? at stuck
  cases handed with
  | false =>
    dsimp only at stuck
    split at stuck
    · cases stuck
    · next opened =>
      refine ⟨by rw [verdict?, if_neg Bool.false_ne_true, if_neg ((shut_iff synced).not.1 opened)],
        ?_⟩
      split at stuck
      · split at stuck <;> cases stuck
      · exact ahead false stuck
  | true =>
    dsimp only at stuck
    split at stuck
    · cases stuck
    · cases stuck
    · next unseen => exact ⟨by rw [verdict?_handed, unseen]; rfl, ahead true stuck⟩

/-- A call with a verdict can take its turn, and so can one whose deadline has passed. -/
theorem exists_turn (sound : link.Sound)
    (member : ⟨number, .send request handed timer⟩ ∈ link.calls)
    (ready : link.verdict? request handed ≠ none ∨
      ∃ deadline, timer = some deadline ∧ deadline.due ≤ link.clock) (first : Bool) :
    ∃ next, act? wiring link (.turn number first) = some next := by
  cases moved : act? wiring link (.turn number first) with
  | some next => exact ⟨next, rfl⟩
  | none =>
    rw [act?, sound.owned.find?_call member, Option.bind_some, turnOf?] at moved
    dsimp only at moved
    rw [decide_front] at moved
    split at moved
    · next stuck =>
      obtain ⟨none, early⟩ := waits_of_turn?_eq_none sound.phased.synced stuck
      rcases ready with verdict | ⟨deadline, timed, passed⟩
      · exact absurd none verdict
      · exact absurd passed (Nat.not_le.2 (early deadline timed))
    · cases moved
    · cases moved

/-! ## One act -/

/-- What a call that returns was told: its verdict; or it has none, and its deadline has passed. -/
def Returned (link : Link M) (request : Request) (handed : Bool) (timer : Option Timer)
    (result : Result M) : Prop :=
  link.verdict? request handed = some result ∨
    link.verdict? request handed = none ∧ ∃ deadline, timer = some deadline ∧
      deadline.due ≤ link.clock ∧ result = .failed (.timedOut request.key deadline.millis)

/-- What becomes of a call that sends in one act. -/
inductive Progress (link next : Link M) (act : Act M) (number : Nat) (request : Request)
    (handed : Bool) (timer : Option Timer) : Prop
  | waits (member : ⟨number, .send request handed timer⟩ ∈ next.calls)
  | handsOver (line : handed = false) (undecided : link.verdict? request handed = none)
      (member : ⟨number, .send request true timer⟩ ∈ next.calls)
  | returns {first : Bool} {result : Result M} (asked : act = .turn number first)
      (told : Returned link request handed timer result)
      (returned : .returned number (some request.ticket) result ∈ next.history)
  | cancelled (asked : act = .play (.abort number))

/-- Other calls may come and go. -/
theorem waits_of_change (change : Change wiring act link next)
    (member : ⟨number, .send request handed timer⟩ ∈ link.calls)
    (other : ∀ first, act ≠ .turn number first) (spared : act ≠ .play (.abort number)) :
    ⟨number, .send request handed timer⟩ ∈ next.calls := by
  cases change with
  | send | await => exact List.mem_append_left _ member
  | @abort call asked there =>
    refine List.mem_filter.2 ⟨member, ?_⟩
    have differs : number ≠ call.number := by
      rintro rfl
      exact spared asked
    simpa using differs
  | @enqueue call _ _ there task active isOpen room asked =>
    have differs : number ≠ call.number := by
      rintro rfl
      exact other _ asked
    exact List.mem_map.2 ⟨_, member, if_neg differs⟩
  | @finish call _ _ _ _ _ asked there =>
    have differs : number ≠ call.number := by
      rintro rfl
      exact other _ asked
    exact List.mem_filter.2 ⟨member, by simpa using differs⟩
  | @conclude call there wait closed asked =>
    obtain ⟨first, asked⟩ := asked
    have differs : number ≠ call.number := by
      rintro rfl
      exact other _ asked
    exact List.mem_filter.2 ⟨member, by simpa using differs⟩
  | _ => exact member

/-- A link that somebody still holds is not released. -/
theorem release_of_held (held : link.handle = true ∨ link.calls ≠ []) : link.release = link := by
  refine if_neg fun alone => ?_
  rw [Bool.and_eq_true, Bool.not_eq_true', List.isEmpty_iff] at alone
  rcases held with handle | calls
  · rw [alone.1] at handle
    cases handle
  · exact calls alone.2

theorem release_mem_history {event : Event M} (member : event ∈ link.history) :
    event ∈ link.release.history := by
  have drained : event ∈ (link.drain .clientDropped).history := by
    obtain ⟨new, history, -⟩ := drain_readNothing link .clientDropped
    rw [history]
    exact List.mem_append_right _ member
  unfold release
  split
  · dsimp only
    split <;> exact drained
  · exact member

theorem finish_mem_history (link : Link M) (call : Call) (result : Result M) :
    .returned call.number call.ticket? result ∈ (link.finish call result).history :=
  release_mem_history List.mem_cons_self

theorem progress_of_act (sound : link.Sound)
    (member : ⟨number, .send request handed timer⟩ ∈ link.calls)
    (moved : act? wiring link act = some next) :
    Progress link next act number request handed timer := by
  by_cases spared : act = .play (.abort number)
  · exact .cancelled spared
  · by_cases own : ∃ first, act = .turn number first
    · obtain ⟨first, rfl⟩ := own
      cases sendTurn_of_act sound member moved with
      | handsOver line front room undecided early =>
        exact .handsOver line undecided (List.mem_map.2 ⟨_, member, if_pos rfl⟩)
      | learns told verdict => exact .returns rfl (.inl verdict) (finish_mem_history _ _ _)
      | expires timed passed undecided strikes =>
        exact .returns rfl (.inr ⟨undecided, _, timed, passed, rfl⟩) (finish_mem_history _ _ _)
    · have other : ∀ first, act ≠ .turn number first := fun first same => own ⟨first, same⟩
      refine .waits (sound.keeps
        (motive := fun link => ⟨number, .send request handed timer⟩ ∈ link.calls) ?_ moved member)
      intro link next change sound member
      exact waits_of_change change member other spared

/-! ## Calls that are cancelled -/

/-- The caller of a ticket is gone and has returned nothing. -/
structure Silent (link : Link M) (ticket : Ticket) : Prop where
  inside : ticket < link.exchanges.length
  gone : link.exchanges.isAbandoned ticket = true
  nothing : ∀ (number : Nat) (result : Result M),
    .returned number (some ticket) result ∉ link.history

theorem Silent.change {ticket : Ticket} (change : Change wiring act link next) (sound : link.Sound)
    (silent : link.Silent ticket) : next.Silent ticket := by
  have grows := Grows.of_change change sound.owned
  refine ⟨Nat.lt_of_lt_of_le silent.inside grows.exchanges.length_le,
    grows.exchanges.abandoned _ silent.inside silent.gone, fun number result member => ?_⟩
  rcases returned_of_change change member with
    old | ⟨call, request, handed, timer, inside, -, task, rfl, -⟩
  · exact silent.nothing number result old
  -- a call that returned just now would have been waiting
  · have live := (sound.owned.waiting inside task).1
    rw [silent.gone] at live
    cases live

theorem isAbandoned_release (link : Link M) (ticket : Ticket) :
    link.release.exchanges.isAbandoned ticket = link.exchanges.isAbandoned ticket := by
  have drained : (link.drain .clientDropped).exchanges.isAbandoned ticket =
      link.exchanges.isAbandoned ticket := by
    by_cases active : link.phase = .active
    · obtain ⟨told, remarks, -, eq⟩ := drain_of_active active .clientDropped
      rw [eq]
      exact Exchanges.isAbandoned_closeAll _ _ _
    · rw [drain_of_not_active active]
      rfl
  unfold release
  split
  · dsimp only
    split <;> exact drained
  · rfl

/-- A call that is cancelled is gone. -/
theorem silent_of_abort (consistent : link.Consistent wiring)
    (member : ⟨number, .send request handed timer⟩ ∈ link.calls)
    (moved : act? wiring link (.play (.abort number)) = some next) :
    next.Silent request.ticket := by
  have sound := consistent.sound
  obtain ⟨live, inside⟩ := sound.owned.waiting member rfl
  have grows := Grows.of_act sound moved
  refine ⟨Nat.lt_of_lt_of_le inside grows.exchanges.length_le, ?_,
    fun number' result returned => ?_⟩
  · cases moved
    show (link.abort number).exchanges.isAbandoned request.ticket = true
    unfold abort
    rw [sound.owned.find?_call member]
    dsimp only
    rw [isAbandoned_release]
    obtain ⟨told, eq⟩ := leave_eq (link.removeCall ⟨number, .send request handed timer⟩) request
      handed
    rw [eq, Exchanges.isAbandoned_quit, if_pos rfl]
  -- nobody returns when a call is cancelled
  · have quiet : .returned number' (some request.ticket) result ∈ link.history := by
      refine sound.keeps (motive := fun after =>
        .returned number' (some request.ticket) result ∈ after.history →
          .returned number' (some request.ticket) result ∈ link.history) ?_ moved id returned
      intro before after change sound old returned
      apply old
      cases change with
      | aside only => exact only.mem_of_append rfl returned
      | finish asked => cases asked
      | _ => simpa using returned
    have gone := (consistent.accounted.gone quiet).2
    rw [live] at gone
    cases gone

/-! ## Whole runs -/

/-- What has become of a call that sends in a run. -/
inductive Course (wiring : Wiring M) (link : Link M) (acts : List (Act M)) (final : Link M)
    (number : Nat) (request : Request) (timer : Option Timer) : Prop
  | waits {handed : Bool} (member : ⟨number, .send request handed timer⟩ ∈ final.calls)
  | returned {earlier later : List (Act M)} {mid next : Link M} {handed first : Bool}
      {result : Result M} (split : acts = earlier ++ .turn number first :: later)
      (run : follow? wiring link earlier = some mid)
      (member : ⟨number, .send request handed timer⟩ ∈ mid.calls)
      (moved : act? wiring mid (.turn number first) = some next)
      (rest : follow? wiring next later = some final)
      (told : Returned mid request handed timer result)
      (result : .returned number (some request.ticket) result ∈ final.history)
  | cancelled (asked : .play (.abort number) ∈ acts) (silent : final.Silent request.ticket)

/-- A call goes on waiting until it is told something in its turn, unless it is cancelled. -/
theorem course_of_follow (consistent : link.Consistent wiring)
    (run : follow? wiring link acts = some final)
    (member : ⟨number, .send request handed timer⟩ ∈ link.calls) :
    Course wiring link acts final number request timer := by
  induction acts generalizing link handed with
  | nil =>
    cases run
    exact .waits member
  | cons act rest ih =>
    obtain ⟨next, moved, later⟩ := follow?_cons.1 run
    have consistent' := consistent.after moved
    have goesOn {handed : Bool} (member : ⟨number, .send request handed timer⟩ ∈ next.calls) :
        Course wiring link (act :: rest) final number request timer := by
      cases ih consistent' later member with
      | waits member => exact .waits member
      | @returned earlier later _ _ _ first _ split run member moved' rest' told result =>
        have split : act :: rest = (act :: earlier) ++ .turn number first :: later := by
          rw [split, List.cons_append]
        exact .returned split (follow?_cons.2 ⟨next, moved, run⟩) member moved' rest' told result
      | cancelled asked silent => exact .cancelled (List.mem_cons_of_mem _ asked) silent
    cases progress_of_act consistent.sound member moved with
    | waits member => exact goesOn member
    | handsOver line undecided member => exact goesOn member
    | returns asked told returned =>
      subst asked
      exact .returned (List.nil_append _).symm rfl member moved later told
        ((Grows.of_follow consistent'.sound later).mem_history returned)
    | cancelled asked =>
      subst asked
      refine .cancelled List.mem_cons_self ?_
      exact consistent'.sound.follow_keeps (motive := fun link => link.Silent request.ticket)
        Silent.change later (silent_of_abort consistent member moved)

theorem shut_of_change (change : Change wiring act link next) (shut : link.queueOpen = false) :
    next.queueOpen = false := by
  cases change with
  | stopWriting | crashWriting => rfl
  | _ => exact shut

theorem verdict?_after (sound : link.Sound)
    (member : ⟨number, .send request handed timer⟩ ∈ link.calls)
    (moved : act? wiring link act = some next)
    (verdict : link.verdict? request handed = some result) :
    next.verdict? request handed = some result := by
  have grows := Grows.of_act sound moved
  cases handed with
  | false =>
    obtain ⟨shut, rfl⟩ := verdict?_line_eq_some_iff.1 verdict
    refine verdict?_line_eq_some_iff.2 ⟨shut.imp grows.inactive fun shut => ?_, rfl⟩
    exact sound.keeps (motive := fun link => link.queueOpen = false)
      (fun change _ => shut_of_change change) moved shut
  | true =>
    rw [verdict?_handed] at verdict ⊢
    obtain ⟨outcome, seen, rfl⟩ := Option.map_eq_some_iff.1 verdict
    rw [grows.exchanges.seen (sound.owned.waiting member rfl).2 seen]
    rfl

/-- A verdict stays what it is, and the call returns it unless it is cancelled before. -/
theorem verdict_of_follow (consistent : link.Consistent wiring)
    (run : follow? wiring link acts = some final)
    (member : ⟨number, .send request handed timer⟩ ∈ link.calls)
    (verdict : link.verdict? request handed = some result) :
    (⟨number, .send request handed timer⟩ ∈ final.calls ∧
        final.verdict? request handed = some result) ∨
      .returned number (some request.ticket) result ∈ final.history ∨
      (.play (.abort number) ∈ acts ∧ final.Silent request.ticket) := by
  induction acts generalizing link with
  | nil =>
    cases run
    exact .inl ⟨member, verdict⟩
  | cons act rest ih =>
    obtain ⟨next, moved, later⟩ := follow?_cons.1 run
    have consistent' := consistent.after moved
    cases progress_of_act consistent.sound member moved with
    | waits member' =>
      have verdict' := verdict?_after consistent.sound member moved verdict
      rcases ih consistent' later member' verdict' with waits | returned | ⟨asked, silent⟩
      · exact .inl waits
      · exact .inr (.inl returned)
      · exact .inr (.inr ⟨List.mem_cons_of_mem _ asked, silent⟩)
    | handsOver line undecided =>
      rw [undecided] at verdict
      cases verdict
    | @returns _ result' asked told returned =>
      have same : result' = result := by
        rcases told with verdict' | ⟨none, -⟩
        · exact Option.some.inj (verdict'.symm.trans verdict)
        · rw [none] at verdict
          cases verdict
      rw [same] at returned
      exact .inr (.inl ((Grows.of_follow consistent'.sound later).mem_history returned))
    | cancelled asked =>
      subst asked
      refine .inr (.inr ⟨List.mem_cons_self, ?_⟩)
      exact consistent'.sound.follow_keeps (motive := fun link => link.Silent request.ticket)
        Silent.change later (silent_of_abort consistent member moved)

/-- On a settled link no call with a verdict is left, and none whose deadline has passed. -/
theorem Settled.send_undecided (settled : Settled wiring link) (sound : link.Sound)
    (member : ⟨number, .send request handed timer⟩ ∈ link.calls) :
    link.verdict? request handed = none ∧
      ∀ deadline, timer = some deadline → link.clock < deadline.due :=
  waits_of_turn?_eq_none sound.phased.synced
    (settled.turn?_eq_none sound.owned member true)

section Outstanding

variable (consistent : link.Consistent wiring)
  (member : ⟨number, .send request handed timer⟩ ∈ link.calls)
  (run : follow? wiring link acts = some final)
include consistent member run

/-- The number of an outstanding call and its ticket go together ever after. -/
theorem belongs_of_follow : final.Belongs number request.ticket :=
  consistent.sound.follow_keeps (motive := fun link => link.Belongs number request.ticket)
    Belongs.change run (.of_member consistent.sound.owned consistent.accounted member rfl)

/-- A call that is gone without a word is not there any more, and returns nothing. -/
theorem nothing_of_silent (silent : final.Silent request.ticket) :
    (∀ call ∈ final.calls, call.number ≠ number) ∧
      ∀ ticket? result, .returned number ticket? result ∉ final.history := by
  have belongs := belongs_of_follow consistent member run
  constructor
  · intro call inside same
    have own := (belongs.calls call inside).1 same
    obtain ⟨request', handed', timer', task, same'⟩ := task_of_ticket? own
    have live := ((consistent.follow run).sound.owned.waiting inside task).1
    rw [same', silent.gone] at live
    cases live
  · intro ticket? result returned
    obtain rfl := (belongs.returned returned).1 rfl
    exact silent.nothing number result returned

/-- A call that has returned did so in a turn of its own. -/
theorem turn_of_returned {ticket? : Option Ticket}
    (returned : .returned number ticket? result ∈ final.history) :
    ticket? = some request.ticket ∧ ∃ earlier first later mid handed,
      acts = earlier ++ .turn number first :: later ∧ follow? wiring link earlier = some mid ∧
        ⟨number, .send request handed timer⟩ ∈ mid.calls ∧
        Returned mid request handed timer result := by
  have accounted := (consistent.follow run).accounted
  cases course_of_follow consistent run member with
  | waits member' => exact absurd rfl ((accounted.number returned).2 _ member')
  | @returned earlier later mid next handed first result' split before member' _ _ told returned' =>
    obtain ⟨rfl, rfl⟩ := accounted.unique returned' returned
    exact ⟨rfl, earlier, first, later, mid, handed, split, before, member', told⟩
  | cancelled _ silent =>
    exact absurd returned ((nothing_of_silent consistent member run silent).2 _ _)

end Outstanding

/-- A call with a verdict is bound to return it. -/
theorem destined_of_verdict (consistent : link.Consistent wiring)
    (member : ⟨number, .send request handed timer⟩ ∈ link.calls)
    (verdict : link.verdict? request handed = some result) :
    Destined wiring link number request.ticket result where
  only run returned := by
    have accounted := (consistent.follow run).accounted
    rcases verdict_of_follow consistent run member verdict with
      ⟨member', -⟩ | returned' | ⟨-, silent⟩
    · exact absurd rfl ((accounted.number returned).2 _ member')
    · obtain ⟨same, same'⟩ := accounted.unique returned returned'
      exact ⟨same, same'⟩
    · exact absurd returned ((nothing_of_silent consistent member run silent).2 _ _)
  returns run settled spared := by
    rcases verdict_of_follow consistent run member verdict with
      ⟨member', verdict'⟩ | returned | ⟨asked, -⟩
    · rw [(settled.send_undecided (consistent.follow run).sound member').1] at verdict'
      cases verdict'
    · exact returned
    · exact absurd asked spared

end Multiplex.Link
