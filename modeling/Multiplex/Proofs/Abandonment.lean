import Multiplex.Proofs.Attempts
import Multiplex.Proofs.PickUps
import Multiplex.Proofs.Wire

/-!
# Requests whose callers are gone

A call may return, or be cancelled, while its request is still with it or in the queue. The writer
comes across such a request like any other, but nothing comes of it: it is not written, it is not
counted, it is in the table at no time, and nobody is refused because of it. Whoever else waits is
told nothing on the way, and its entry stays where it was.

The writer begins only with requests whose callers wait (`Begun.of_change`), and only these are
filed (`filed_of_change`). So a request that has not been picked up when its caller goes stays out
for good (`Forsaken.follow`).

Main statement: `forgotten_of_run`.
-/

namespace Multiplex

variable {M : Type} {wiring : Wiring M} {act : Act M} {acts before later : List (Act M)}
  {link mid next final : Link M} {number : Nat} {request : Request} {handed first : Bool}
  {timer : Option Timer} {ticket : Ticket} {key : String} {attempt : Attempt}

/-! ## What the writer begins with -/

/-- The writer begins only with requests whose callers wait. -/
theorem Begun.of_change (change : Change wiring act link next) (begun : Begun next.history ticket) :
    Begun link.history ticket ∨ link.exchanges.isAbandoned ticket = false := by
  obtain ⟨⟨key, registered⟩, kept⟩ := id begun
  cases change with
  | aside only => exact .inl ((Begun.of_quiet only.quiet ticket).1 begun)
  -- what is left out is registered in the same change
  | skip =>
    rcases List.mem_cons.1 registered with new | registered
    · cases new
    · rcases List.mem_cons.1 registered with own | old
      · cases own
        exact absurd List.mem_cons_self (kept _)
      · refine .inl ⟨⟨key, old⟩, fun key member => kept key ?_⟩
        exact List.mem_cons_of_mem _ (List.mem_cons_of_mem _ member)
  | register active idle first free live =>
    rcases List.mem_cons.1 registered with own | old
    · cases own
      exact .inr live
    · exact .inl ⟨⟨key, old⟩, fun key member => kept key (List.mem_cons_of_mem _ member)⟩
  | _ =>
    refine .inl ⟨⟨key, by simpa using registered⟩, fun key member => kept key ?_⟩
    simp [member]

/-- What the writer has begun with it does not leave out any more. -/
theorem Begun.change (change : Change wiring act link next) (consistent : link.Consistent wiring)
    (begun : Begun link.history ticket) : Begun next.history ticket := by
  obtain ⟨⟨key, registered⟩, kept⟩ := begun
  have grows := Link.Grows.of_change change consistent.sound.owned
  refine ⟨⟨key, grows.mem_history registered⟩, fun key' member => kept key' ?_⟩
  cases change with
  | aside only => exact only.mem_of_append rfl member
  | skip active idle first =>
    rcases List.mem_cons.1 member with own | old
    · cases own
      exact absurd registered (consistent.recorded.unregistered (Link.unfiled_of_first first))
    · simpa using old
  | _ => simpa using member

namespace Link

/-- Only requests whose callers wait are filed. -/
theorem filed_of_change (change : Change wiring act link next)
    (member : (key, ticket) ∈ next.table.slots) :
    (key, ticket) ∈ link.table.slots ∨ link.exchanges.isAbandoned ticket = false := by
  cases change with
  | drain => cases member
  | register active idle first free live =>
    rcases Table.mem_file.1 member with own | ⟨old, -⟩
    · cases own
      exact .inr live
    · exact .inl old
  | withdraw | claimed | late | skip | fail | interrupt => exact .inl (Table.mem_erase.1 member).1
  | _ => exact .inl member

/-- An attempt is made only at a request that the writer has begun with. -/
theorem begun_of_attempts (before : List (Act M)) (path : follow? wiring fresh before = some link)
    (run : follow? wiring link acts = some final) (member : attempt ∈ attempts wiring link acts) :
    Begun final.history attempt.request.ticket := by
  induction acts generalizing link before with
  | nil => cases member
  | cons act rest ih =>
    obtain ⟨next, moved, onward⟩ := follow?_cons.1 run
    rw [attempts_cons moved] at member
    rcases List.mem_append.1 member with now | later
    -- the writer works on the request, so the last piece on the wire is of its frame
    · have working := (idle_of_attempt (Option.mem_toList.1 now) moved).1
      obtain ⟨-, pieces, laid, -⟩ := laid_of_run path
      obtain ⟨init, written, split, -, -⟩ := laid.working _ working
      have begun : Begun link.history attempt.request.ticket := by
        rw [← laid.begun, split]
        simp
      exact (consistent_of_run path).follow_keeps
        (motive := fun link => Begun link.history attempt.request.ticket) Begun.change run begun
    · have path' : follow? wiring fresh (before ++ [act]) = some next :=
        follow?_append.2 ⟨link, path, follow?_cons.2 ⟨next, moved, rfl⟩⟩
      exact ih (before ++ [act]) path' onward later

/-! ## A request that its caller has left behind -/

/-- The caller of a ticket is gone, and its request is not in the table. The writer has not begun
with it. -/
structure Forsaken (link : Link M) (ticket : Ticket) : Prop where
  inside : ticket < link.exchanges.length
  gone : link.exchanges.isAbandoned ticket = true
  unfiled : ∀ key, (key, ticket) ∉ link.table.slots
  unbegun : ¬Begun link.history ticket

theorem Forsaken.change (change : Change wiring act link next) (sound : link.Sound)
    (forsaken : link.Forsaken ticket) : next.Forsaken ticket := by
  have grows := Grows.of_change change sound.owned
  have waitless : link.exchanges.isAbandoned ticket ≠ false := by
    rw [forsaken.gone]
    exact Bool.noConfusion
  refine ⟨Nat.lt_of_lt_of_le forsaken.inside grows.exchanges.length_le,
    grows.exchanges.abandoned _ forsaken.inside forsaken.gone, fun key member => ?_,
    fun begun => ?_⟩
  · exact forsaken.unfiled key ((filed_of_change change member).resolve_right waitless)
  · exact forsaken.unbegun ((Begun.of_change change begun).resolve_right waitless)

theorem Forsaken.follow (sound : link.Sound) (run : follow? wiring link acts = some final)
    (forsaken : link.Forsaken ticket) : final.Forsaken ticket :=
  sound.follow_keeps (motive := fun link => link.Forsaken ticket) Forsaken.change run forsaken

/-- What has not been picked up has not been registered. -/
theorem unregistered_of_unpicked (run : follow? wiring fresh acts = some link)
    (unpicked : ticket ∉ (pickUps wiring fresh acts).map Request.ticket) (key : String) :
    .registered ticket key ∉ link.history := by
  intro member
  rcases pickedUp_of_follow sound_fresh run member rfl with old | picked
  · simp [fresh] at old
  · exact unpicked picked

theorem not_filed_of_unpicked (run : follow? wiring fresh acts = some link)
    (unpicked : ticket ∉ (pickUps wiring fresh acts).map Request.ticket) (key : String) :
    (key, ticket) ∉ link.table.slots := by
  intro member
  have registered := (consistent_of_run run).registered_of_slot member
  exact unregistered_of_unpicked run unpicked key registered

/-! ## What the others notice -/

/-- Nothing that matters to others has become of a ticket: whoever else waits has been told nothing,
and its entry is where it was. -/
structure Spares (link next : Link M) (ticket : Ticket) : Prop where
  waits : ∀ other, other ≠ ticket → link.exchanges.isAbandoned other = false →
    next.exchanges.isAbandoned other = false ∧
      next.exchanges.poll other = link.exchanges.poll other
  entries : ∀ key other, other ≠ ticket → link.exchanges.isAbandoned other = false →
    ((key, other) ∈ next.table.slots ↔ (key, other) ∈ link.table.slots)

theorem Withdrawn.spares (withdrawn : Withdrawn wiring link next number request handed) :
    Spares link next request.ticket where
  waits other differs live :=
    ⟨(withdrawn.others other differs live).1, (withdrawn.others other differs live).2.1⟩
  entries key other differs live := (withdrawn.others other differs live).2.2 key

/-- A caller who leaves disturbs nobody. -/
theorem spares_of_quit (exchanges : next.exchanges = link.exchanges.quit request.ticket handed)
    (table : next.table = link.table) : Spares link next request.ticket where
  waits other differs live := by
    rw [exchanges, Exchanges.isAbandoned_quit, if_neg differs, Exchanges.poll_quit,
      if_neg fun both => differs both.2.1]
    exact ⟨live, rfl⟩
  entries key other differs live := by rw [table]

/-- The call of a request has gone, and `left` is the link before it is released. -/
structure Departs (link left : Link M) (number : Nat) (request : Request) (handed : Bool) :
    Prop where
  calls : left.calls = link.calls.filter fun call => call.number ≠ number
  queue : left.queue = link.queue ∨ handed = false ∧ left.queue = link.queue ++ [request]
  spares : Spares link left request.ticket

theorem departs_of_turn (consistent : link.Consistent wiring)
    (waits : ⟨number, .send request handed timer⟩ ∈ link.calls)
    (moved : act? wiring link (.turn number first) = some next)
    (parted : ∀ call ∈ next.calls, call.number ≠ number) :
    ∃ left, next = left.release ∧ Departs link left number request handed := by
  cases sendTurn_of_act consistent.sound waits moved with
  | handsOver => exact absurd rfl (parted _ (List.mem_map.2 ⟨_, waits, if_pos rfl⟩))
  | learns told verdict => exact ⟨_, rfl, rfl, .inl rfl, spares_of_quit rfl rfl⟩
  | @expires deadline _ _ timed passed undecided strikes =>
    have withdrawn := withdrawn_of_strikes deadline consistent waits strikes
    refine ⟨_, rfl, withdrawn.calls, withdrawn.queue.imp_right ?_, withdrawn.spares⟩
    rintro ⟨line, -, queue⟩
    exact ⟨line, queue⟩

theorem departs_of_abort (sound : link.Sound)
    (waits : ⟨number, .send request handed timer⟩ ∈ link.calls)
    (moved : act? wiring link (.play (.abort number)) = some next) :
    ∃ left, next = left.release ∧ Departs link left number request handed := by
  cases moved
  show ∃ left : Link M, link.abort number = left.release ∧ _
  obtain ⟨told, eq⟩ := leave_eq (link.removeCall ⟨number, .send request handed timer⟩) request
    handed
  unfold abort
  rw [sound.owned.find?_call waits]
  dsimp only
  rw [eq]
  exact ⟨_, rfl, rfl, .inl rfl, spares_of_quit rfl rfl⟩

theorem release_queue (link : Link M) : link.release.queue = link.queue := by
  have drained : (link.drain .clientDropped).queue = link.queue := by
    by_cases active : link.phase = .active
    · obtain ⟨told, remarks, -, eq⟩ := drain_of_active active .clientDropped
      rw [eq]
    · rw [drain_of_not_active active]
      rfl
  unfold release
  split
  · dsimp only
    split <;> exact drained
  · rfl

/-- If anybody else waits, the link is not released when the call goes. -/
theorem Departs.spares_release {left : Link M} (sound : link.Sound)
    (belongs : link.Belongs number request.ticket)
    (departs : Departs link left number request handed) :
    Spares link left.release request.ticket := by
  -- whoever waits has a call of its own, which holds the link
  have held {other : Ticket} (differs : other ≠ request.ticket)
      (live : link.exchanges.isAbandoned other = false) : left.release = left := by
    obtain ⟨number', request', handed', timer', member, rfl⟩ := sound.owned.caller_of_live live
    have other : number' ≠ number := by
      intro same
      exact differs (Option.some.inj ((belongs.calls _ member).1 same))
    refine release_of_held (.inr ?_)
    rw [departs.calls]
    exact List.ne_nil_of_mem (List.mem_filter.2 ⟨member, by simpa using other⟩)
  constructor
  · intro other differs live
    rw [held differs live]
    exact departs.spares.waits other differs live
  · intro key other differs live
    rw [held differs live]
    exact departs.spares.entries key other differs live

/-- What is left by the act in which the call of a request goes. -/
structure Parted (act : Act M) (link next : Link M) (request : Request) (handed : Bool) : Prop where
  elsewhere : act ≠ .write
  inside : request.ticket < next.exchanges.length
  gone : next.exchanges.isAbandoned request.ticket = true
  /-- A request that was still in line may have been handed over just before. -/
  queue : next.queue = link.queue ∨ handed = false ∧ next.queue = link.queue ++ [request]
  spares : Spares link next request.ticket

theorem parted_of_act (consistent : link.Consistent wiring)
    (waits : ⟨number, .send request handed timer⟩ ∈ link.calls)
    (moved : act? wiring link act = some next)
    (parted : ∀ call ∈ next.calls, call.number ≠ number) :
    Parted act link next request handed := by
  have sound := consistent.sound
  have belongs := Belongs.of_member sound.owned consistent.accounted waits rfl
  cases progress_of_act sound waits moved with
  | waits member => exact absurd rfl (parted _ member)
  | handsOver line undecided member => exact absurd rfl (parted _ member)
  | returns asked told returned =>
    subst asked
    obtain ⟨inside, gone⟩ := (consistent.after moved).accounted.gone returned
    obtain ⟨left, rfl, departs⟩ := departs_of_turn consistent waits moved parted
    refine ⟨(nomatch ·), inside, gone, ?_, departs.spares_release sound belongs⟩
    rw [release_queue]
    exact departs.queue
  | cancelled asked =>
    subst asked
    obtain ⟨inside, gone, -⟩ := silent_of_abort consistent waits moved
    obtain ⟨left, rfl, departs⟩ := departs_of_abort sound waits moved
    refine ⟨(nomatch ·), inside, gone, ?_, departs.spares_release sound belongs⟩
    rw [release_queue]
    exact departs.queue

/-- A request whose caller is gone is picked up. It is taken from the queue and nothing else happens
that matters to anybody: the writer can go on with the request behind it at once. -/
structure Passed (link next : Link M) (request : Request) : Prop where
  queue : next.queue = link.queue.tail
  onward : next.pickUp? .write = link.queue.tail.head?
  calls : next.calls = link.calls
  stats : next.stats = link.stats
  transport : next.transport = link.transport
  phase : next.phase = link.phase
  spares : Spares link next request.ticket

/-- A request that is taken out again takes along only what its key had been left to. -/
theorem spares_of_free (keys : link.table.UniqueKeys)
    (free : ∀ holder, link.table.find? request.key = some holder →
      link.exchanges.isAbandoned holder = true)
    (eq : next.exchanges = (link.exchanges.vacate link.table request.key).drop request.ticket)
    (erased : next.table = link.table.erase request.key) : Spares link next request.ticket := by
  have unheld {other : Ticket} (live : link.exchanges.isAbandoned other = false) :
      link.table.find? request.key ≠ some other := by
    intro found
    rw [free other found] at live
    cases live
  constructor
  · intro other differs live
    rw [eq, Exchanges.isAbandoned_drop, Exchanges.isAbandoned_vacate, Exchanges.poll_drop,
      if_neg fun both => differs both.1, Exchanges.poll_vacate,
      if_neg fun both => unheld live both.1]
    exact ⟨live, rfl⟩
  · intro key other differs live
    rw [erased, Table.mem_erase]
    refine and_iff_left_of_imp fun filed same => ?_
    cases same
    exact unheld live ((Table.find?_eq_some_iff keys).2 filed)

theorem passed_of_pickUp (wiring : Wiring M) (sound : link.Sound)
    (gone : link.exchanges.isAbandoned request.ticket = true)
    (picked : link.pickUp? act = some request) :
    ∃ next, act? wiring link act = some next ∧ Passed link next request := by
  obtain ⟨rest, next, first, moved, step⟩ := registers_of_pickUp wiring sound picked
  obtain ⟨rfl, unasked, idle, -⟩ := pickUp?_eq_some_iff.1 picked
  refine ⟨next, moved, ?_⟩
  have tail : link.queue.tail = rest := by rw [first, List.tail_cons]
  cases step with
  | refused found taken =>
    refine ⟨tail.symm, ?_, rfl, rfl, rfl, rfl, ?_, fun _ _ _ _ => Iff.rfl⟩
    · simp [pickUp?, unasked, idle, tail]
    · intro other differs live
      rw [Exchanges.isAbandoned_fail, Exchanges.poll_fail, if_neg differs]
      exact ⟨live, rfl⟩
  | skipped free =>
    refine ⟨tail.symm, ?_, rfl, rfl, rfl, rfl, spares_of_free sound.owned.uniqueKeys free rfl rfl⟩
    simp [pickUp?, unasked, idle, tail]
  | begun free live =>
    have live : link.exchanges.isAbandoned request.ticket = false := live
    rw [gone] at live
    cases live

/-! ## What becomes of it -/

/-- A request has left no trace in a run. -/
structure Traceless (wiring : Wiring M) (acts : List (Act M)) (final : Link M)
    (request : Request) : Prop where
  /-- The bytes on the wire are those of other requests. -/
  unwritten : ∃ pieces, OnWire wiring acts final pieces ∧
    ∀ piece ∈ pieces, piece.1.ticket ≠ request.ticket
  /-- The counters count the attempts to write a frame, and there was none to write its own. -/
  uncounted : final.stats.requestsSent = (flushed (attempts wiring fresh acts)).length ∧
    final.stats.writeFailures = (unflushed (attempts wiring fresh acts)).length ∧
    ∀ attempt ∈ attempts wiring fresh acts, attempt.request.ticket ≠ request.ticket
  /-- Between two acts of the run it has never been in the table. -/
  unfiled : ∀ {earlier more : List (Act M)} {mid : Link M}, acts = earlier ++ more →
    follow? wiring fresh earlier = some mid → ∀ key, (key, request.ticket) ∉ mid.table.slots
  /-- Whoever was refused was refused because of somebody else. -/
  harmless : ∀ {ticket : Ticket} {key : String} {error : LinkError},
    .unregistered ticket key error ∈ final.history → ∃ refused rival asked,
      refused.ticket = ticket ∧ refused.key = key ∧ Rivalry wiring acts refused rival asked ∧
        rival.ticket ≠ request.ticket

/-- What becomes of a request whose call goes in the act that leads from `mid` to `left`. -/
structure Forgotten (wiring : Wiring M) (before : List (Act M)) (act : Act M) (mid left : Link M)
    (request : Request) (handed : Bool) : Prop where
  /-- Those in the queue keep their places. A request that was still in line may have been handed
  over just before. -/
  queue : left.queue = mid.queue ∨ handed = false ∧ left.queue = mid.queue ++ [request]
  spares : Spares mid left request.ticket
  traceless : ∀ {later : List (Act M)} {final : Link M}, follow? wiring left later = some final →
    Traceless wiring (before ++ act :: later) final request
  /-- If the writer comes across the request it passes it over. -/
  passed : ∀ {later : List (Act M)} {final : Link M} {act : Act M},
    follow? wiring left later = some final → final.pickUp? act = some request →
      ∃ next, act? wiring final act = some next ∧ Passed final next request

theorem forsaken_of_parted (run : follow? wiring fresh before = some link)
    (unpicked : request.ticket ∉ (pickUps wiring fresh before).map Request.ticket)
    (moved : act? wiring link act = some next) (parted : Parted act link next request handed) :
    next.Forsaken request.ticket := by
  have path : follow? wiring fresh (before ++ [act]) = some next :=
    follow?_append.2 ⟨link, run, follow?_cons.2 ⟨next, moved, rfl⟩⟩
  have none : link.pickUp? act = none := by
    cases act with
    | write => exact absurd rfl parted.elsewhere
    | read | turn | supervise | play => rfl
  have unpicked' : request.ticket ∉
      (pickUps wiring fresh (before ++ [act])).map Request.ticket := by
    rw [pickUps_append run, pickUps_cons moved, none]
    simpa [pickUps] using unpicked
  refine ⟨parted.inside, parted.gone, not_filed_of_unpicked path unpicked', ?_⟩
  -- it could only have begun with what has been registered
  rintro ⟨⟨key, registered⟩, -⟩
  exact unregistered_of_unpicked path unpicked' key registered

/-- Before its call had gone the request was not in the table, and it has not been there since. -/
theorem unfiled_of_forsaken (run : follow? wiring fresh before = some mid)
    (unpicked : ticket ∉ (pickUps wiring fresh before).map Request.ticket)
    (moved : act? wiring mid act = some next) (forsaken : next.Forsaken ticket)
    {earlier more : List (Act M)} (split : before ++ act :: later = earlier ++ more)
    (path : follow? wiring fresh earlier = some link) (key : String) :
    (key, ticket) ∉ link.table.slots := by
  rcases List.append_eq_append_iff.1 split with ⟨between, rfl, rest⟩ | ⟨between, rfl, -⟩
  -- the run has come at least as far as the act
  · have onward := follow?_rest run path
    cases between with
    | nil =>
      cases onward
      exact not_filed_of_unpicked run unpicked key
    | cons act' between =>
      obtain ⟨rfl, -⟩ := List.cons.inj rest
      obtain ⟨next', moved', onward⟩ := follow?_cons.1 onward
      obtain rfl := Option.some.inj (moved.symm.trans moved')
      have sound := (sound_of_run run).after moved
      exact (forsaken.follow sound onward).unfiled key
  -- or it has not, and then the request has not been picked up either
  · refine not_filed_of_unpicked path ?_ key
    intro picked
    apply unpicked
    rw [pickUps_append path, List.map_append]
    exact List.mem_append_left _ picked

/-- A request that the writer has not begun with, and that has not been filed, has left no trace. -/
theorem traceless_of_unbegun (run : follow? wiring fresh acts = some final)
    (unbegun : ¬Begun final.history request.ticket)
    (unfiled : ∀ {earlier more : List (Act M)} {mid : Link M}, acts = earlier ++ more →
      follow? wiring fresh earlier = some mid → ∀ key, (key, request.ticket) ∉ mid.table.slots) :
    Traceless wiring acts final request := by
  have counters := output_of_follow sound_fresh run
  refine ⟨?_, ⟨?_, ?_, ?_⟩, unfiled, ?_⟩
  · obtain ⟨pieces, reads, -, -⟩ := wire_of_run run
    refine ⟨pieces, reads, ?_⟩
    intro piece member same
    apply unbegun
    rw [← reads.begun, ← same]
    exact List.mem_map_of_mem (f := fun piece => piece.1.ticket) member
  · simpa [Output.add, Stats.output, fresh] using congrArg Output.sent counters
  · simpa [Output.add, Stats.output, fresh] using congrArg Output.failures counters
  · intro attempt member same
    apply unbegun
    rw [← same]
    exact begun_of_attempts [] rfl run member
  · intro ticket key error event
    obtain ⟨refused, rival, -, asked, own, named, -, rivalry⟩ := rivalry_of_unregistered run event
    refine ⟨refused, rival, asked, own, named, rivalry, ?_⟩
    obtain ⟨split, path, -, -, -, filed, -, -⟩ := rivalry
    intro same
    rw [same] at filed
    exact unfiled split path _ (Table.mem_of_find? filed)

/-- A call goes before the writer has picked its request up: it returns, or it is cancelled. Nothing
comes of the request any more, and nobody else notices. -/
theorem forgotten_of_run (run : follow? wiring fresh before = some mid)
    (waits : ⟨number, .send request handed timer⟩ ∈ mid.calls)
    (unpicked : request.ticket ∉ (pickUps wiring fresh before).map Request.ticket)
    (moved : act? wiring mid act = some next)
    (parted : ∀ call ∈ next.calls, call.number ≠ number) :
    Forgotten wiring before act mid next request handed := by
  have consistent := consistent_of_run run
  have sound := consistent.sound.after moved
  have parted := parted_of_act consistent waits moved parted
  have forsaken := forsaken_of_parted run unpicked moved parted
  refine ⟨parted.queue, parted.spares, ?_, ?_⟩
  · intro later final onward
    have path : follow? wiring fresh (before ++ act :: later) = some final :=
      follow?_append.2 ⟨mid, run, follow?_cons.2 ⟨next, moved, onward⟩⟩
    refine traceless_of_unbegun path (forsaken.follow sound onward).unbegun ?_
    exact fun split path key => unfiled_of_forsaken run unpicked moved forsaken split path key
  · intro later final act onward picked
    have gone := (forsaken.follow sound onward).gone
    exact passed_of_pickUp wiring (sound.follow onward) gone picked

/-! ## A call that is cancelled -/

section Crowded

open Rehearsal

/-- A request waits for its reply. Another one with its key fills the queue, and a third one is in
line. -/
def crowdedRun : List (Act Scripted) :=
  [.play (.send (scriptedMessage "000001") none), .turn 0 true, .write, .write, .write, .write,
    .play (.send (scriptedMessage "000001") none), .turn 1 true,
    .play (.send (scriptedMessage "000002") none)]

/-- The writer clears the queue. Then the third request is handed over and written. -/
def crowdedWrites : List (Act Scripted) :=
  [.write, .turn 2 true, .write, .write, .write, .write]

/-- The link when the queue is full. -/
def crowdedLink : Link Scripted :=
  scriptedLink crowdedRun

/-- The link when the call of the request in the queue has been cancelled. -/
def thinnedLink : Link Scripted :=
  scriptedLink (crowdedRun ++ [.play (.abort 1)])

/-- The link when all is written. -/
def clearedLink : Link Scripted :=
  scriptedLink (crowdedRun ++ [.play (.abort 1)] ++ crowdedWrites)

/-- The request whose call is cancelled. -/
def crowdedRequest : Request :=
  ⟨1, "000001", scriptedFrame 49⟩

theorem follow?_crowded : follow? scriptedWiring fresh crowdedRun = some crowdedLink ∧
    act? scriptedWiring crowdedLink (.play (.abort 1)) = some thinnedLink ∧
    follow? scriptedWiring thinnedLink crowdedWrites = some clearedLink := by
  have all : follow? scriptedWiring fresh (crowdedRun ++ [.play (.abort 1)] ++ crowdedWrites) =
      some clearedLink := follow?_scripted (by decide +kernel)
  obtain ⟨second, run, writes⟩ := follow?_append.1 all
  obtain ⟨first, start, aborts⟩ := follow?_append.1 run
  obtain ⟨next, moved, none⟩ := follow?_cons.1 aborts
  cases none
  rw [crowdedLink, thinnedLink, scriptedLink_eq start, scriptedLink_eq run]
  exact ⟨start, moved, writes⟩

theorem crowded_eq : ⟨1, .send crowdedRequest true none⟩ ∈ crowdedLink.calls ∧
    1 ∉ (pickUps scriptedWiring fresh crowdedRun).map Request.ticket ∧
    (∀ call ∈ thinnedLink.calls, call.number ≠ 1) ∧
    clearedLink.stats.requestsSent = 2 ∧ clearedLink.queue = [] ∧
    clearedLink.table.slots = [("000002", 2), ("000001", 0)] := by
  decide +kernel

theorem forgotten_of_run_crowded :
    follow? scriptedWiring fresh crowdedRun = some crowdedLink ∧
      ⟨1, .send crowdedRequest true none⟩ ∈ crowdedLink.calls ∧
      1 ∉ (pickUps scriptedWiring fresh crowdedRun).map Request.ticket ∧
      act? scriptedWiring crowdedLink (.play (.abort 1)) = some thinnedLink ∧
      (∀ call ∈ thinnedLink.calls, call.number ≠ 1) ∧
      Forgotten scriptedWiring crowdedRun (.play (.abort 1)) crowdedLink thinnedLink crowdedRequest
        true ∧
      Traceless scriptedWiring (crowdedRun ++ .play (.abort 1) :: crowdedWrites) clearedLink
        crowdedRequest ∧
      clearedLink.stats.requestsSent = 2 ∧ clearedLink.queue = [] ∧
      clearedLink.table.slots = [("000002", 2), ("000001", 0)] := by
  obtain ⟨run, moved, writes⟩ := follow?_crowded
  obtain ⟨waits, unpicked, parted, cleared⟩ := crowded_eq
  have forgotten := forgotten_of_run run waits unpicked moved parted
  exact ⟨run, waits, unpicked, moved, parted, forgotten, forgotten.traceless writes, cleared⟩

end Crowded

end Link

end Multiplex
