import Multiplex.Proofs.Deadlines

/-!
# Requests that the writer takes from its queue

The writer picks up one request at a time (`Link.pickUp?`), and what becomes of it is decided in the
same act: it is refused, it is left out, or the writer begins with it (`registers_of_pickUp`). All
that the history tells of a request being filed or refused has happened since it was picked up
(`pickedUp_of_follow`).

A call that returns a duplicate key was refused in such an act, because of a rival: a request of
somebody else, who was waiting, was registered under its key then (`refusal_of_returned`).
-/

namespace Multiplex

variable {M : Type}

/-- The ticket of a request that has been filed or refused. -/
def Event.pickedUp? : Event M → Option Ticket
  | .registered ticket _ | .unregistered ticket _ _ => some ticket
  | _ => none

theorem Event.isRemark_of_pickedUp? {event : Event M} {ticket : Ticket}
    (picked : event.pickedUp? = some ticket) : event.isRemark = false := by
  cases event with
  | registered | unregistered => rfl
  | _ => cases picked

namespace Link

/-- The request that the writer takes from its queue in this act. -/
def pickUp? (link : Link M) : Act M → Option Request
  | .write =>
    if link.stopAsked then none
    else
      match link.writer with
      | .idle => link.queue.head?
      | _ => none
  | _ => none

/-- The requests that the writer takes from its queue in a run, in order. -/
def pickUps (wiring : Wiring M) : Link M → List (Act M) → List Request
  | _, [] => []
  | link, act :: rest =>
    (link.pickUp? act).toList ++
      match act? wiring link act with
      | none => []
      | some next => pickUps wiring next rest

/-- The request was made of the message `asked`, which has its trace number, by a send of the
run. -/
inductive Sender (wiring : Wiring M) (acts : List (Act M)) (asked : M) (request : Request) : Prop
  | intro {before later : List (Act M)} {start : Link M} {original : M} {given : Option Nat}
      (split : acts = before ++ .play (.send original given) :: later)
      (run : follow? wiring fresh before = some start) (handle : start.handle = true)
      (assigned : (assignStan wiring start.stan original).1 = .ok asked)
      (keyed : wiring.key asked = .ok request.key)
      (prepared : (prepare wiring start original).1 = .ok request)

/-- In this run the writer has refused a request when it picked it up. A rival, which was made of
the message `asked`, was registered under its key then, and the rival's caller was waiting. -/
inductive Rivalry (wiring : Wiring M) (acts : List (Act M)) (request rival : Request) (asked : M) :
    Prop
  | intro {earlier rest : List (Act M)} {mid : Link M} {number : Nat} {handed : Bool}
      {timer : Option Timer} (split : acts = earlier ++ .write :: rest)
      (run : follow? wiring fresh earlier = some mid)
      (picked : mid.pickUp? .write = some request) (other : rival.ticket ≠ request.ticket)
      (named : rival.key = request.key)
      (filed : mid.table.find? request.key = some rival.ticket)
      (waits : ⟨number, .send rival handed timer⟩ ∈ mid.calls)
      (sender : Sender wiring earlier asked rival)

variable {wiring : Wiring M} {act : Act M} {acts before later : List (Act M)}
  {link start next final : Link M} {request : Request} {ticket : Ticket} {key : String}
  {event : Event M} {original : M} {given : Option Nat} {ticket? : Option Ticket}

theorem pickUps_cons {rest : List (Act M)} (moved : act? wiring link act = some next) :
    pickUps wiring link (act :: rest) = (link.pickUp? act).toList ++ pickUps wiring next rest := by
  rw [pickUps, moved]

theorem pickUps_append {mid : Link M} (run : follow? wiring link before = some mid) :
    pickUps wiring link (before ++ later) =
      pickUps wiring link before ++ pickUps wiring mid later := by
  induction before generalizing link with
  | nil =>
    cases run
    rfl
  | cons act rest ih =>
    obtain ⟨next, moved, onward⟩ := follow?_cons.1 run
    rw [List.cons_append, pickUps_cons moved, pickUps_cons moved, ih onward, List.append_assoc]

theorem pickUp?_eq_some_iff : link.pickUp? act = some request ↔
    act = .write ∧ link.stopAsked = false ∧ link.writer = .idle ∧
      ∃ rest, link.queue = request :: rest := by
  constructor
  · intro picked
    cases act with
    | write =>
      unfold pickUp? at picked
      dsimp only at picked
      split at picked
      · cases picked
      · next unasked =>
        split at picked
        · next idle => exact ⟨rfl, by simpa using unasked, idle, List.head?_eq_some_iff.1 picked⟩
        · cases picked
    | read | turn | supervise | play => cases picked
  · rintro ⟨rfl, unasked, idle, rest, first⟩
    simp [pickUp?, unasked, idle, first]

/-- What becomes of a request that is picked up is decided in the same act. -/
theorem registers_of_pickUp (wiring : Wiring M) (sound : link.Sound)
    (picked : link.pickUp? act = some request) :
    ∃ rest next, link.queue = request :: rest ∧ act? wiring link act = some next ∧
      Registers { link with queue := rest } request next := by
  obtain ⟨rfl, unasked, idle, rest, first⟩ := pickUp?_eq_some_iff.1 picked
  have active := sound.phased.synced.unasked_iff.1 unasked
  have unsealed : { link with queue := rest }.table.isSealed = false :=
    sound.phased.synced.unsealed active
  have moved : act? wiring link .write = some ({ link with queue := rest }.register request) := by
    simp [act?, writerStep?, idle, first, unasked]
  exact ⟨rest, _, first, moved, registers _ request unsealed⟩

/-! ## What the history tells -/

/-- Whatever is filed or refused was first in the queue, and the writer was waiting. -/
theorem pickedUp_of_change (change : Change wiring act link next) (member : event ∈ next.history)
    (picked : event.pickedUp? = some ticket) :
    event ∈ link.history ∨ act = .write ∧ link.phase = .active ∧ link.writer = .idle ∧
      ∃ request rest, link.queue = request :: rest ∧ request.ticket = ticket := by
  have kept {new : Event M} (other : new.pickedUp? = none)
      (member : event ∈ new :: link.history) : event ∈ link.history := by
    rcases List.mem_cons.1 member with rfl | old
    · rw [other] at picked
      cases picked
    · exact old
  cases change with
  | aside only => exact .inl (only.mem_of_append (Event.isRemark_of_pickedUp? picked) member)
  | refuse active idle first found live asked =>
    rcases List.mem_cons.1 member with rfl | old
    · cases picked
      exact .inr ⟨asked, active, idle, _, _, first, rfl⟩
    · exact .inl old
  | skip active idle first free gone asked =>
    rcases List.mem_cons.1 member with rfl | member
    · cases picked
    · rcases List.mem_cons.1 member with rfl | old
      · cases picked
        exact .inr ⟨asked, active, idle, _, _, first, rfl⟩
      · exact .inl old
  | register active idle first free live asked =>
    rcases List.mem_cons.1 member with rfl | old
    · cases picked
      exact .inr ⟨asked, active, idle, _, _, first, rfl⟩
    · exact .inl old
  | claimed =>
    rcases List.mem_cons.1 member with rfl | member
    · cases picked
    · exact .inl (kept rfl member)
  | drain | issue | send | reject | enqueue | finish | conclude | undecoded | unclaimed | late
  | sent | fail => exact .inl (kept rfl member)
  | _ => exact .inl member

/-- What follows a change in the same act neither files nor refuses anything. -/
theorem pickedUp_of_trail (trail : Relation.ReflTransGen (Trails wiring act) link next)
    (member : event ∈ next.history) (picked : event.pickedUp? = some ticket) :
    event ∈ link.history := by
  induction trail with
  | refl => exact member
  | tail _ trails ih =>
    apply ih
    cases trails with
    | aside only => exact only.mem_of_append (Event.isRemark_of_pickedUp? picked) member
    | drain =>
      rcases List.mem_cons.1 member with rfl | old
      · cases picked
      · exact old

theorem pickedUp_of_act (sound : link.Sound) (moved : act? wiring link act = some next)
    (member : event ∈ next.history) (picked : event.pickedUp? = some ticket) :
    event ∈ link.history ∨
      ∃ request, link.pickUp? act = some request ∧ request.ticket = ticket := by
  by_cases write : act = .write
  · subst write
    obtain ⟨change, trail, -⟩ := writerStep?_moves sound.phased.synced moved
    have here := pickedUp_of_trail trail member picked
    rcases pickedUp_of_change change here picked with old | ⟨-, active, idle, request, rest, both⟩
    · exact .inl old
    · have unasked := sound.phased.synced.unasked_iff.2 active
      exact .inr ⟨request, pickUp?_eq_some_iff.2 ⟨rfl, unasked, idle, rest, both.1⟩, both.2⟩
  -- nobody else files or refuses anything
  · refine .inl (sound.keeps (motive := fun after => event ∈ after.history → event ∈ link.history)
      ?_ moved id member)
    intro mid after change sound old member
    rcases pickedUp_of_change change member picked with before | ⟨asked, -⟩
    · exact old before
    · exact absurd asked write

/-- Whatever has been filed or refused in a run was picked up in it. -/
theorem pickedUp_of_follow (sound : link.Sound) (run : follow? wiring link acts = some final)
    (member : event ∈ final.history) (picked : event.pickedUp? = some ticket) :
    event ∈ link.history ∨ ticket ∈ (pickUps wiring link acts).map Request.ticket := by
  induction acts generalizing link with
  | nil =>
    cases run
    exact .inl member
  | cons act rest ih =>
    obtain ⟨next, moved, onward⟩ := follow?_cons.1 run
    rw [pickUps_cons moved, List.map_append]
    rcases ih (sound.after moved) onward with here | later
    · rcases pickedUp_of_act sound moved here picked with old | ⟨request, now, rfl⟩
      · exact .inl old
      · refine .inr (List.mem_append_left _ (List.mem_map_of_mem ?_))
        rw [now]
        exact List.mem_singleton_self _
    · exact .inr (List.mem_append_right _ later)

/-! ## Who is refused, and why -/

/-- A request has the key of its message, once that has its trace number. -/
theorem ready_of_prepare {most : Nat} (regular : wiring.Regular most)
    (prepared : (prepare wiring link original).1 = .ok request) :
    ∃ ready, (assignStan wiring link.stan original).1 = .ok ready ∧
      wiring.key ready = .ok request.key := by
  obtain ⟨ready, payload, header, preparable, -⟩ :=
    (preparesWholly regular link original).whole prepared
  obtain ⟨stan, numbered⟩ := preparable.numbered
  exact ⟨ready, by rw [assignStan_eq_ok_iff.2 numbered], preparable.keyed⟩

theorem Sender.append {asked : M} (sender : Sender wiring acts asked request)
    (more : List (Act M)) : Sender wiring (acts ++ more) asked request := by
  obtain @⟨before, later, start, original, given, split, run, handle, assigned, keyed, prepared⟩ :=
    sender
  have split : acts ++ more = before ++ .play (.send original given) :: (later ++ more) := by
    rw [split, List.append_assoc, List.cons_append]
  exact .intro split run handle assigned keyed prepared

theorem Rivalry.append {rival : Request} {asked : M}
    (rivalry : Rivalry wiring acts request rival asked) (more : List (Act M)) :
    Rivalry wiring (acts ++ more) request rival asked := by
  obtain ⟨split, run, picked, other, named, filed, waits, sender⟩ := rivalry
  have split := congrArg (· ++ more) split
  rw [List.append_assoc, List.cons_append] at split
  exact .intro split run picked other named filed waits sender

/-- A message that was not prepared before the act is prepared by a send, which somebody made who
holds the link. -/
theorem prepares_of_act (sound : link.Sound) (moved : act? wiring link act = some next) {asked : M}
    (member : .prepared asked request ∈ next.history)
    (new : .prepared asked request ∉ link.history) :
    ∃ original given, act = .play (.send original given) ∧ link.handle = true ∧
      (assignStan wiring link.stan original).1 = .ok asked ∧
      wiring.key asked = .ok request.key ∧ (prepare wiring link original).1 = .ok request := by
  rcases prepared_of_act sound.phased.synced moved member with
    old | ⟨original, given, rfl, ticket, assigned, framed⟩
  · exact absurd old new
  · have handle : link.handle = true := by
      apply Decidable.not_not.1
      intro dropped
      rw [act?, play, withHandle, if_neg dropped] at moved
      cases moved
      exact new member
    have active : link.phase = .active := by
      apply Decidable.not_not.1
      intro inactive
      have failed : (prepare wiring link original).1 = .error .closed := by
        rw [prepare_of_inactive inactive]
      rw [act?, play, withHandle, if_pos handle, send_of_error failed] at moved
      cases moved
      refine new ?_
      simp only [note, numbering, List.mem_cons, List.mem_append, reduceCtorEq, false_or] at member
      refine member.resolve_left fun issued => ?_
      split at issued <;> simp at issued
    refine ⟨original, given, rfl, handle, assigned, key_of_keyedFrame framed, ?_⟩
    rw [prepare_of_active active, assigned]
    dsimp only
    rw [framed, ← ticket]

/-- Every request of a run was made by a send. -/
theorem sender_of_run (run : follow? wiring fresh acts = some link) {asked : M}
    (member : .prepared asked request ∈ link.history) : Sender wiring acts asked request := by
  induction acts using List.reverseRecOn generalizing link with
  | nil =>
    cases run
    simp [fresh] at member
  | append_singleton earlier act ih =>
    obtain ⟨mid, first, last⟩ := follow?_append.1 run
    obtain ⟨after, moved, done⟩ := follow?_cons.1 last
    cases done
    by_cases old : .prepared asked request ∈ mid.history
    · exact (ih first old).append [act]
    · obtain ⟨original, given, rfl, handle, assigned, keyed, prepared⟩ :=
        prepares_of_act (sound_of_run first) moved member old
      exact .intro rfl first handle assigned keyed prepared

/-- A request is refused when it is picked up, because a live entry has its key. -/
theorem refused_of_act (sound : link.Sound) (moved : act? wiring link act = some next)
    {error : LinkError} (member : .unregistered ticket key error ∈ next.history) :
    .unregistered ticket key error ∈ link.history ∨
      ∃ request holder, link.pickUp? act = some request ∧ request.ticket = ticket ∧
        request.key = key ∧ link.table.find? request.key = some holder ∧
        link.exchanges.isAbandoned holder = false := by
  rcases pickedUp_of_act sound moved member rfl with old | ⟨request, picked, rfl⟩
  · exact .inl old
  · obtain ⟨rest, next', first, moved', step⟩ := registers_of_pickUp wiring sound picked
    obtain rfl := Option.some.inj (moved.symm.trans moved')
    cases step with
    | @refused holder told found live =>
      rcases List.mem_cons.1 member with new | old
      · cases new
        exact .inr ⟨request, holder, picked, rfl, rfl, found, live⟩
      · exact .inl old
    | skipped | begun => exact .inl (by simpa using member)

/-- A live entry under the key of a request that is picked up is that of a rival. -/
theorem rivalry_of_found (split : acts = before ++ .write :: later)
    (run : follow? wiring fresh before = some link) (picked : link.pickUp? .write = some request)
    {holder : Ticket} (found : link.table.find? request.key = some holder)
    (live : link.exchanges.isAbandoned holder = false) :
    ∃ rival asked, Rivalry wiring acts request rival asked := by
  have consistent := consistent_of_run run
  obtain ⟨number, rival, handed, timer, waits, rfl⟩ := consistent.sound.owned.caller_of_live live
  obtain ⟨asked, known⟩ := consistent.recorded.carried (.call waits rfl)
  have filed := Table.mem_of_find? found
  have named := consistent.key_of_slot filed known
  -- the request itself is still in the queue
  have other : rival.ticket ≠ request.ticket := by
    intro same
    obtain ⟨-, -, -, rest, first⟩ := pickUp?_eq_some_iff.1 picked
    exact consistent.sound.owned.not_filed (unfiled_of_first first)
      (same ▸ List.mem_map_of_mem filed)
  exact ⟨rival, asked, .intro split run picked other named found waits (sender_of_run run known)⟩

/-- Whoever was refused in a run was refused because of a rival. -/
theorem rivalry_of_unregistered (run : follow? wiring fresh acts = some link) {error : LinkError}
    (event : .unregistered ticket key error ∈ link.history) :
    ∃ request rival message asked, request.ticket = ticket ∧ request.key = key ∧
      .prepared message request ∈ link.history ∧ Rivalry wiring acts request rival asked := by
  obtain ⟨earlier, act, rest, mid, next, split, before, moved, onward, fresh', new⟩ :=
    exists_act_of_follow (motive := fun link => .unregistered ticket key error ∈ link.history) run
      (by simp [fresh]) event
  have consistent := consistent_of_run before
  obtain ⟨request, holder, picked, own, named, found, live⟩ :=
    (refused_of_act consistent.sound moved new).resolve_left fresh'
  obtain ⟨rfl, -, -, tail, queue⟩ := pickUp?_eq_some_iff.1 picked
  obtain ⟨message, known⟩ := consistent.recorded.carried (.queue (queue ▸ List.mem_cons_self))
  have grows := Grows.of_follow consistent.sound (follow?_cons.2 ⟨next, moved, onward⟩)
  obtain ⟨rival, asked, rivalry⟩ := rivalry_of_found split before picked found live
  exact ⟨request, rival, message, asked, own, named, grows.mem_history known, rivalry⟩

/-- No message fails to be prepared because of a duplicate key. -/
theorem prepare_ne_duplicateKey {most : Nat} (regular : wiring.Regular most) (link : Link M)
    (message : M) : (prepare wiring link message).1 ≠ .error (.duplicateKey key) := by
  intro failed
  have obstacle := ((preparesWholly regular link message).fails_iff _).1 failed
  cases obstacle with
  | unnumbered active numberless => cases numberless
  | unframed active numbered keyed frameless =>
    generalize same : LinkError.duplicateKey key = error at frameless
    cases frameless <;> cases same

section Returning

variable (run : follow? wiring fresh acts = some final)
  (split : acts = before ++ .play (.send original given) :: later)
  (first : follow? wiring fresh before = some start) (handle : start.handle = true)

include run split first handle

/-- What a send returns is the error of a message that could not be prepared, or it was told in one
of its turns. -/
theorem told_of_returned {result : Result M}
    (returned : .returned start.made ticket? result ∈ final.history) :
    (∃ error, (prepare wiring start original).1 = .error error ∧ result = .failed error) ∨
      ∃ request sent earlier rest mid handed timer,
        (prepare wiring start original).1 = .ok request ∧ ticket? = some request.ticket ∧
          act? wiring start (.play (.send original given)) = some sent ∧
          later = earlier ++ rest ∧ follow? wiring sent earlier = some mid ∧
          follow? wiring mid rest = some final ∧
          (∃ message, .prepared message request ∈ mid.history) ∧
          Returned mid request handed timer result := by
  subst split
  obtain ⟨sent, moved, onward⟩ := follow?_cons.1 (follow?_rest first run)
  have consistent := (consistent_of_run first).after moved
  have eq : start.send wiring original (given <|> wiring.config.requestTimeout) = sent := by
    rw [act?, play, withHandle, if_pos handle] at moved
    exact Option.some.inj moved
  cases prepared : (prepare wiring start original).1 with
  | error error =>
    refine .inl ⟨error, rfl, ?_⟩
    have failed : .returned start.made none (.failed error) ∈ sent.history := by
      rw [← eq, send_of_error prepared]
      exact List.mem_cons_self
    have there := (Grows.of_follow consistent.sound onward).mem_history failed
    exact ((consistent.follow onward).accounted.unique returned there).2
  | ok request =>
    have member := mem_calls_of_send (given <|> wiring.config.requestTimeout) prepared
    rw [eq] at member
    obtain ⟨same, earlier, number, rest, mid, handed, rfl, run', member', told⟩ :=
      turn_of_returned consistent member onward returned
    refine .inr ⟨request, sent, earlier, _, mid, handed, _, rfl, same, moved, rfl, run',
      follow?_rest run' onward, ?_, told⟩
    exact (consistent.follow run').recorded.carried (.call member' rfl)

/-- A send that returns a duplicate key was refused because of a rival. -/
theorem refusal_of_returned {most : Nat} (regular : wiring.Regular most)
    (returned : .returned start.made ticket? (.failed (.duplicateKey key)) ∈ final.history) :
    ∃ request rival asked, (prepare wiring start original).1 = .ok request ∧
      ticket? = some request.ticket ∧ request.key = key ∧
      Rivalry wiring acts request rival asked := by
  rcases told_of_returned run split first handle returned with
    ⟨error, failed, same⟩ | ⟨request, sent, earlier, rest, mid, handed, timer, prepared, own, moved,
      eq, run', -, ⟨message, known⟩, told⟩
  · cases same
    exact absurd failed (prepare_ne_duplicateKey regular start original)
  · have path : follow? wiring fresh (before ++ .play (.send original given) :: earlier) =
        some mid := follow?_append.2 ⟨start, first, follow?_cons.2 ⟨sent, moved, run'⟩⟩
    have consistent := consistent_of_run path
    -- what the call was told came with an event
    have event : .unregistered request.ticket key (.duplicateKey key) ∈ mid.history := by
      rcases told with verdict | ⟨-, deadline, -, -, same⟩
      · cases handed with
        | false =>
          obtain ⟨-, same⟩ := verdict?_line_eq_some_iff.1 verdict
          cases same
        | true =>
          rw [verdict?_handed] at verdict
          obtain ⟨outcome, seen, same⟩ := Option.map_eq_some_iff.1 verdict
          cases outcome with
          | ok message => cases same
          | error error =>
            cases same
            rcases consistent.blamed.error seen with closed | ⟨_, _, same, -⟩ | ⟨_, same, event⟩
            · cases closed
            · cases same
            · cases same
              exact event
      · cases same
    obtain ⟨request', rival, message', asked, ticket, named, known', rivalry⟩ :=
      rivalry_of_unregistered path event
    -- it is the same request, since it has the same ticket
    obtain ⟨-, rfl⟩ := consistent.recorded.unique known' known ticket
    have whole : acts = before ++ .play (.send original given) :: earlier ++ rest := by
      rw [split, eq, List.append_assoc, List.cons_append]
    exact ⟨request', rival, asked, prepared, own, named, whole ▸ rivalry.append rest⟩

/-- A send that returns a reply has sent a request, and the reply has its key. -/
theorem key_of_replied {reply : M}
    (returned : .returned start.made ticket? (.replied reply) ∈ final.history) :
    ∃ request, (prepare wiring start original).1 = .ok request ∧
      ticket? = some request.ticket ∧ wiring.key reply = .ok request.key := by
  rcases told_of_returned run split first handle returned with
    ⟨error, -, same⟩ | ⟨request, sent, earlier, rest, mid, handed, timer, prepared, own, moved, -,
      run', rest', ⟨message, known⟩, told⟩
  · cases same
  · refine ⟨request, prepared, own, ?_⟩
    have path : follow? wiring fresh (before ++ .play (.send original given) :: earlier) =
        some mid := follow?_append.2 ⟨start, first, follow?_cons.2 ⟨sent, moved, run'⟩⟩
    have consistent := consistent_of_run run
    have grows := Grows.of_follow (consistent_of_run path).sound rest'
    obtain ⟨ticket, history, same, handover⟩ := consistent.answered.returned returned
    obtain rfl := Option.some.inj (own.symm.trans same)
    -- the reply was handed over under the key with which the request had been filed
    obtain ⟨split', -, derived, filed⟩ := handover
    obtain ⟨split'', known', -, -, -⟩ := filed
    have there := split' ▸ List.mem_append_right _ (List.mem_cons_of_mem _ (List.mem_cons_of_mem _
      (split'' ▸ List.mem_append_right _ (List.mem_cons_of_mem _ known'))))
    rw [← (consistent.recorded.unique there (grows.mem_history known) rfl).2]
    exact derived

end Returning

end Link

end Multiplex
