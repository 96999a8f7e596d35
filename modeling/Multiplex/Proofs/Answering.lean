import Multiplex.Proofs.Echoes

/-!
# Echoes answer their own requests

While a calm link reads the frames of its own requests, in any order and each after its request has
been registered, every frame answers the request that it is the frame of, nobody else's, and no call
comes to anything but that answer (`Link.Echoing`). Every elementary change keeps this
(`Link.Echoing.change`), as long as no request has run out of time and the link has not drained
(`Link.Smooth`).
-/

namespace Multiplex

variable {M : Type} {wiring : Wiring M} {drafts : List (Draft M)}
  {echoes : List (Draft M × Ticket)}

/-- The event says that a call has run out of time. -/
def Event.isTimeout : Event M → Bool
  | .returned _ _ (.failed (.timedOut _ _)) => true
  | _ => false

/-- The drafts, each with its ticket, come back in some order; no two have one key, and all read as
their messages. -/
structure Echoable (wiring : Wiring M) (drafts : List (Draft M))
    (echoes : List (Draft M × Ticket)) : Prop where
  all : echoes.Perm drafts.zipIdx
  keys : (drafts.map Draft.key).Nodup
  reads : ∀ draft ∈ drafts, draft.ReadsBack wiring

namespace Echoable

variable (able : Echoable wiring drafts echoes)

include able

theorem mem_iff {echo : Draft M × Ticket} : echo ∈ echoes ↔ drafts[echo.2]? = some echo.1 := by
  rw [able.all.mem_iff, List.mem_zipIdx_iff_getElem?]

theorem readsBack {some : List (Draft M × Ticket)} (inside : some ⊆ echoes) :
    ∀ draft ∈ some.map Prod.fst, draft.ReadsBack wiring := by
  intro draft member
  obtain ⟨echo, early, rfl⟩ := List.mem_map.1 member
  exact able.reads _ (List.mem_of_getElem? (able.mem_iff.1 (inside early)))

theorem eq_of_ticket {echo echo' : Draft M × Ticket} (member : echo ∈ echoes)
    (member' : echo' ∈ echoes) (same : echo.2 = echo'.2) : echo = echo' := by
  have found := able.mem_iff.1 member
  rw [same, able.mem_iff.1 member', Option.some.injEq] at found
  exact Prod.ext found.symm same

theorem eq_of_key {echo echo' : Draft M × Ticket} (member : echo ∈ echoes)
    (member' : echo' ∈ echoes) (same : echo.1.key = echo'.1.key) : echo = echo' := by
  have found := congrArg (Option.map Draft.key) (able.mem_iff.1 member)
  have found' := congrArg (Option.map Draft.key) (able.mem_iff.1 member')
  rw [← List.getElem?_map, Option.map_some] at found found'
  have inside := (List.getElem?_eq_some_iff.1 found).1
  refine able.eq_of_ticket member member' ?_
  exact (List.getElem?_inj inside able.keys).1 (by rw [found, found', same])

theorem nodup : echoes.Nodup := by
  have tickets : (drafts.zipIdx.map Prod.snd).Nodup := by
    rw [List.zipIdx_map_snd]
    exact List.nodup_range'
  exact able.all.symm.nodup tickets.of_map

end Echoable

namespace Link

variable {act : Act M} {link next : Link M} {count : Nat}

/-- The echoes that have been read. -/
def heard (echoes : List (Draft M × Ticket)) (link : Link M) : List (Draft M × Ticket) :=
  echoes.take (readings link.history).length

/-- The link is active, no request has run out of time, the requests are the drafts, and what has
been read are the first echoes, at most `count` of them. -/
structure Smooth (wiring : Wiring M) (drafts : List (Draft M)) (echoes : List (Draft M × Ticket))
    (count : Nat) (link : Link M) : Prop where
  active : link.phase = .active
  timely : ∀ event ∈ link.history, event.isTimeout = false
  known : ∀ message request, .prepared message request ∈ link.history →
    drafts[request.ticket]? = some ⟨message, request.key, request.frame⟩
  read : readings link.history <+: (echoes.take count).map fun echo => echo.1.payload wiring

/-- The calls whose echoes have been read are answered with them, and no others are. -/
structure Echoing (echoes : List (Draft M × Ticket)) (link : Link M) : Prop where
  answered : ∀ ticket outcome, ticket < link.exchanges.length →
    link.exchanges.poll ticket = some outcome →
      ∃ draft, (draft, ticket) ∈ link.heard echoes ∧ outcome = .ok draft.message
  replied : ∀ echo ∈ link.heard echoes, link.exchanges.poll echo.2 = some (.ok echo.1.message)
  left : ∀ ticket, ticket < link.exchanges.length → link.exchanges.isAbandoned ticket = true →
    ∃ draft number, (draft, ticket) ∈ link.heard echoes ∧
      .returned number (some ticket) (.replied draft.message) ∈ link.history
  matched : link.stats.unmatched = 0

theorem echoing_fresh : (fresh : Link M).Echoing echoes where
  answered _ _ inside := nomatch inside
  replied _ member := nomatch member
  left _ inside := nomatch inside
  matched := rfl

/-- What goes smoothly has gone smoothly before. -/
theorem Smooth.earlier (grows : link.Grows next) (smooth : Smooth wiring drafts echoes count next) :
    Smooth wiring drafts echoes count link := by
  refine ⟨grows.active smooth.active, ?_, ?_, ?_⟩
  · exact fun event member => smooth.timely event (grows.mem_history member)
  · intro message request member
    exact smooth.known message request (grows.mem_history member)
  · obtain ⟨new, history⟩ := grows.history
    have read := smooth.read
    rw [history, readings_append] at read
    exact (List.prefix_append _ _).trans read

/-- The caller of an entry that is still held waits for it. -/
theorem Echoing.live (echoing : link.Echoing echoes) {ticket : Ticket}
    (held : link.exchanges.poll ticket = none) : link.exchanges.isAbandoned ticket = false := by
  rw [← Bool.not_eq_true]
  intro gone
  obtain ⟨draft, -, heard, -⟩ := echoing.left ticket (Exchanges.lt_length_of_poll held) gone
  rw [echoing.replied _ heard] at held
  cases held

theorem Smooth.echo_of_prepared (smooth : Smooth wiring drafts echoes count link)
    (able : Echoable wiring drafts echoes) {message : M} {request : Request}
    (member : .prepared message request ∈ link.history) :
    (⟨message, request.key, request.frame⟩, request.ticket) ∈ echoes :=
  able.mem_iff.2 (smooth.known message request member)

/-- A request that has been registered and not been answered is in the table under its key. -/
theorem Echoing.find? (echoing : link.Echoing echoes) (consistent : link.Consistent wiring)
    (able : Echoable wiring drafts echoes) (smooth : Smooth wiring drafts echoes count link)
    {echo : Draft M × Ticket} (member : echo ∈ echoes) (unheard : echo ∉ link.heard echoes)
    {key : String} (registered : .registered echo.2 key ∈ link.history) :
    link.table.find? echo.1.key = some echo.2 := by
  obtain ⟨message, request, known, own, -⟩ := consistent.recorded.registered registered
  have unseen : link.exchanges.poll echo.2 = none := by
    apply Option.eq_none_iff_forall_ne_some.2
    intro outcome seen
    have inside := own ▸ (consistent.recorded.prepared known).1
    obtain ⟨draft, heard, -⟩ := echoing.answered _ outcome inside seen
    have same := able.eq_of_ticket member (List.mem_of_mem_take heard) rfl
    exact unheard (same ▸ heard)
  have same := able.eq_of_ticket (smooth.echo_of_prepared able known) member own
  -- its entry is held, and neither its call nor the queue holds it
  rcases List.mem_append.1 (consistent.sound.owned.held.mem_iff.2 unseen) with filed | waits
  · obtain ⟨⟨key', ticket⟩, slot, rfl⟩ := List.mem_map.1 filed
    have slot : (key', request.ticket) ∈ link.table.slots := own ▸ slot
    have key : echo.1.key = key' := by
      rw [← same]
      exact consistent.key_of_slot slot known
    rw [key, ← own]
    exact (Table.find?_eq_some_iff consistent.sound.owned.uniqueKeys).2 slot
  · exact absurd registered (consistent.recorded.unregistered waits)

/-- One more frame is one more echo. -/
theorem heard_concat {payload : Bytes}
    (history : readings next.history = readings link.history ++ [payload])
    (read : readings next.history <+:
      (echoes.take count).map fun echo => echo.1.payload wiring) :
    ∃ echo ∈ echoes.take count, echo.1.payload wiring = payload ∧
      next.heard echoes = link.heard echoes ++ [echo] := by
  rw [history] at read
  obtain ⟨more, split⟩ := read
  have found : ((echoes.take count).map fun echo => echo.1.payload wiring)[
      (readings link.history).length]? = some payload := by
    rw [← split, List.append_assoc, List.getElem?_append_right (Nat.le_refl _), Nat.sub_self]
    rfl
  rw [List.getElem?_map, Option.map_eq_some_iff] at found
  obtain ⟨echo, there, same⟩ := found
  refine ⟨echo, List.mem_of_getElem? there, same, ?_⟩
  rw [List.getElem?_take] at there
  split at there
  · rw [heard, heard, history, List.length_append, List.length_singleton, List.take_add_one, there,
      Option.toList_some]
  · cases there

/-- The next frame that is read is an echo whose request is in the table. -/
theorem Echoing.nextEcho (echoing : link.Echoing echoes) (consistent : link.Consistent wiring)
    (able : Echoable wiring drafts echoes) (smooth : Smooth wiring drafts echoes count link)
    (begun : ∀ echo ∈ echoes.take count, ∃ key, .registered echo.2 key ∈ link.history)
    {payload : Bytes} (history : readings next.history = readings link.history ++ [payload])
    (read : readings next.history <+:
      (echoes.take count).map fun echo => echo.1.payload wiring) :
    ∃ echo ∈ echoes, next.heard echoes = link.heard echoes ++ [echo] ∧
      wiring.codec.unpack payload = .message echo.1.message ∧
      wiring.key echo.1.message = .ok echo.1.key ∧
      link.table.find? echo.1.key = some echo.2 := by
  obtain ⟨echo, early, rfl, heard⟩ := heard_concat history read
  have member := List.mem_of_mem_take early
  have unheard : echo ∉ link.heard echoes := by
    have once : (next.heard echoes).Nodup := (List.take_sublist _ _).nodup able.nodup
    rw [heard, List.nodup_append] at once
    exact fun before => once.2.2 echo before echo (List.mem_singleton_self _) rfl
  obtain ⟨key, registered⟩ := begun echo early
  have reads := able.readsBack (List.Subset.refl _) echo.1 (List.mem_map_of_mem member)
  exact ⟨echo, member, heard, reads.unpacked, reads.keyed,
    echoing.find? consistent able smooth member unheard registered⟩

/-! ## Preservation -/

/-- No frame is read, and no exchange changes. -/
theorem Echoing.of_same (echoing : link.Echoing echoes) (new : List (Event M))
    (history : next.history = new ++ link.history) (silent : readings new = [])
    (exchanges : next.exchanges = link.exchanges)
    (unmatched : next.stats.unmatched = link.stats.unmatched) : next.Echoing echoes := by
  have same : next.heard echoes = link.heard echoes := by
    rw [heard, history, readings_append, silent, List.append_nil, heard]
  obtain ⟨answered, replied, left, matched⟩ := echoing
  constructor
  · rw [exchanges, same]
    exact answered
  · rw [exchanges, same]
    exact replied
  · intro ticket inside gone
    rw [exchanges] at inside gone
    obtain ⟨draft, number, heard, returned⟩ := left ticket inside gone
    exact ⟨draft, number, same ▸ heard, history ▸ List.mem_append_right _ returned⟩
  · exact unmatched.trans matched

theorem Echoing.send (echoing : link.Echoing echoes) {message : M} {request : Request}
    {calls : List Call} {made : Nat} :
    Echoing echoes { link with
      exchanges := link.exchanges ++ [Exchange.fresh]
      made
      calls
      history := .prepared message request :: link.history } := by
  obtain ⟨answered, replied, left, matched⟩ := echoing
  have inside {ticket : Ticket} (below : ticket < (link.exchanges ++ [Exchange.fresh]).length)
      (old : ticket ≠ link.exchanges.length) : ticket < link.exchanges.length := by
    rw [List.length_append, List.length_singleton] at below
    exact Nat.lt_of_le_of_ne (Nat.le_of_lt_succ below) old
  constructor
  · intro ticket outcome below seen
    rw [Exchanges.poll_append_fresh] at seen
    split at seen
    · cases seen
    · next old => exact answered ticket outcome (inside below old) seen
  · intro echo member
    have seen := replied echo member
    have below := Exchanges.lt_length_of_replied seen
    rw [Exchanges.poll_append_fresh, if_neg (Nat.ne_of_lt below)]
    exact seen
  · intro ticket below gone
    rw [Exchanges.isAbandoned_append_fresh] at gone
    split at gone
    · cases gone
    · next old =>
      obtain ⟨draft, number, heard, returned⟩ := left ticket (inside below old) gone
      exact ⟨draft, number, heard, List.mem_cons_of_mem _ returned⟩
  · exact matched

/-- A call that sees an outcome returns it. -/
theorem Echoing.finish (echoing : link.Echoing echoes) {ticket : Ticket} {number : Nat}
    {calls : List Call} {outcome : Except LinkError M} (inside : ticket < link.exchanges.length)
    (there : link.exchanges.poll ticket = some outcome) :
    Echoing echoes { link with
      exchanges := link.exchanges.quit ticket true
      calls
      history := .returned number (some ticket) (.ofOutcome outcome) :: link.history } := by
  obtain ⟨answered, replied, left, matched⟩ := echoing
  have same (other : Ticket) :
      (link.exchanges.quit ticket true).poll other = link.exchanges.poll other := by
    rw [Exchanges.poll_quit, if_neg (fun lost => nomatch lost.1)]
  obtain ⟨draft, own, rfl⟩ := answered ticket outcome inside there
  constructor
  · intro other outcome below seen
    rw [Exchanges.length_quit] at below
    exact answered other outcome below ((same other).symm.trans seen)
  · intro echo member
    exact (same echo.2).trans (replied echo member)
  · intro other below gone
    rw [Exchanges.length_quit] at below
    rw [Exchanges.isAbandoned_quit] at gone
    split at gone
    · next eq =>
      subst eq
      exact ⟨draft, number, own, List.mem_cons_self⟩
    · obtain ⟨draft, number, heard, returned⟩ := left other below gone
      exact ⟨draft, number, heard, List.mem_cons_of_mem _ returned⟩
  · exact matched

/-- The echo of a request answers it. -/
theorem Echoing.claim (echoing : link.Echoing echoes) {echo : Draft M × Ticket} {key : String}
    {payload : Bytes} {table : Table} {stats : Stats}
    (held : link.exchanges.poll echo.2 = none)
    (unmatched : stats.unmatched = link.stats.unmatched)
    (heard : ({ link with history := .delivered echo.2 key :: .received payload ::
      link.history } : Link M).heard echoes = link.heard echoes ++ [echo]) :
    Echoing echoes { link with
      table
      exchanges := (link.exchanges.resolve echo.2 echo.1.message).1
      stats
      history := .delivered echo.2 key :: .received payload :: link.history } := by
  have live := echoing.live held
  obtain ⟨answered, replied, left, matched⟩ := echoing
  have seen (other : Ticket) : (link.exchanges.resolve echo.2 echo.1.message).1.poll other =
      if other = echo.2 then some (.ok echo.1.message) else link.exchanges.poll other := by
    rw [Exchanges.poll_resolve, live]
    rfl
  have heard' : Link.heard echoes { link with
      table
      exchanges := (link.exchanges.resolve echo.2 echo.1.message).1
      stats
      history := .delivered echo.2 key :: .received payload :: link.history } =
        link.heard echoes ++ [echo] := heard
  constructor
  · intro ticket outcome inside polled
    rw [heard']
    rw [Exchanges.length_resolve] at inside
    rw [seen] at polled
    split at polled
    · next own =>
      cases polled
      exact ⟨echo.1, List.mem_append_right _ (by rw [own]; exact List.mem_singleton_self _), rfl⟩
    · obtain ⟨draft, before, same⟩ := answered ticket outcome inside polled
      exact ⟨draft, List.mem_append_left _ before, same⟩
  · intro other member
    rw [heard'] at member
    rw [seen]
    split
    · next own =>
      rcases List.mem_append.1 member with before | now
      · rw [← own, replied other before] at held
        cases held
      · rw [List.mem_singleton.1 now]
    · next elsewhere =>
      rcases List.mem_append.1 member with before | now
      · exact replied other before
      · exact absurd (congrArg Prod.snd (List.mem_singleton.1 now)) elsewhere
  · intro ticket inside gone
    rw [Exchanges.length_resolve] at inside
    rw [Exchanges.isAbandoned_resolve] at gone
    obtain ⟨draft, number, before, returned⟩ := left ticket inside gone
    rw [heard']
    exact ⟨draft, number, List.mem_append_left _ before,
      List.mem_cons_of_mem _ (List.mem_cons_of_mem _ returned)⟩
  · exact unmatched.trans matched

theorem Echoing.change (change : Change wiring act link next) (calmly : act.isCalm = true)
    (consistent : link.Consistent wiring) (calm : link.Calm) (calm' : next.Calm)
    (able : Echoable wiring drafts echoes) (smooth : Smooth wiring drafts echoes count next)
    (begun : act = .read → ∀ echo ∈ echoes.take count, ∃ key,
      .registered echo.2 key ∈ link.history)
    (echoing : link.Echoing echoes) : next.Echoing echoes := by
  have sound := consistent.sound
  have before := smooth.earlier (Grows.of_change change sound.owned)
  -- what is in the table has not been answered, so its caller waits
  have live {key : String} {holder : Ticket} (found : link.table.find? key = some holder)
      (gone : link.exchanges.isAbandoned holder = true) : False := by
    rw [echoing.live (sound.owned.poll_of_find? found)] at gone
    cases gone
  have next (asked : act = .read) {payload : Bytes}
      (history : readings next.history = readings link.history ++ [payload]) :=
    echoing.nextEcho consistent able before (begun asked) history smooth.read
  cases change with
  | aside only => exact echoing.of_same _ rfl (readings_of_aside _ only.aside).1 rfl rfl
  | drain => cases smooth.active
  | abort asked =>
    rw [asked] at calmly
    cases calmly
  | send => exact echoing.send
  | @finish call request handed timer result first asked member task returns =>
    have inside := (sound.owned.waiting member task).2
    cases returns with
    | outcome there => exact echoing.finish inside there
    | turnedAway shut =>
      rcases shut with inactive | shut
      · exact absurd before.active inactive
      · rw [calm.isOpen sound before.active] at shut
        cases shut
    | late => cases smooth.timely _ List.mem_cons_self
  | withdraw found gone => exact (live found gone).elim
  | @undecoded buffer payload part active running unread asked =>
    obtain ⟨echo, -, -, unpacked, -⟩ := next asked (readings_append [_] _)
    exact absurd unpacked (unread _)
  | @unclaimed buffer payload part message active running read nobody asked =>
    obtain ⟨echo, -, -, unpacked, keyed, found⟩ := next asked (readings_append [_] _)
    rw [read, Reading.message.injEq] at unpacked
    subst unpacked
    rw [nobody _ keyed] at found
    cases found
  | @claimed buffer payload part message key ticket active running read derived found live asked =>
    obtain ⟨echo, -, heard, unpacked, keyed, found'⟩ :=
      next asked (readings_append [.delivered ticket key, .received payload] _)
    rw [read, Reading.message.injEq] at unpacked
    subst unpacked
    rw [derived, Except.ok.injEq] at keyed
    subst keyed
    rw [found, Option.some.injEq] at found'
    subst found'
    exact echoing.claim (sound.owned.poll_of_find? found) rfl heard
  | late _ _ _ _ found gone => exact (live found gone).elim
  | stopWriting inactive | interrupt inactive => exact absurd before.active inactive
  | @refuse request rest holder active idle first found _ =>
    -- the entry that holds the key is the request's own, but that is still in the queue
    obtain ⟨message, known⟩ := consistent.recorded.carried (.queue (first ▸ List.mem_cons_self))
    have slot := Table.mem_of_find? found
    obtain ⟨split, prepared, -, -⟩ := consistent.answered.filed slot
    have known' := split ▸ List.mem_append_right _ (List.mem_cons_of_mem _ prepared)
    have same := able.eq_of_key (before.echo_of_prepared able known)
      (before.echo_of_prepared able known') rfl
    have own : request.ticket = holder := congrArg Prod.snd same
    refine absurd (List.mem_map_of_mem (f := Prod.snd) slot) (own ▸ sound.owned.not_filed ?_)
    exact unfiled_of_first first
  | @skip request rest active idle first free gone =>
    have held := sound.owned.poll_of_queued (List.mem_map_of_mem (first ▸ List.mem_cons_self))
    rw [echoing.live held] at gone
    cases gone
  | @register request rest active idle first free _ =>
    have vacant : link.exchanges.vacate link.table request.key = link.exchanges := by
      unfold Exchanges.vacate
      cases found : link.table.find? request.key with
      | none => rfl
      | some holder => exact (live found (free holder found)).elim
    exact echoing.of_same [_] rfl rfl vacant rfl
  | fail => exact absurd List.mem_cons_self (calm'.unfailed _ _ _)
  | crashWriting | crashClosing => cases calm'.uncrashed
  | issue | reject | enqueue | conclude | sent => exact echoing.of_same [_] rfl rfl rfl rfl
  | _ => exact echoing.of_same [] rfl rfl rfl rfl

theorem Echoing.after (echoing : link.Echoing echoes) (consistent : link.Consistent wiring)
    (calm : link.Calm) (gentle : link.transport.Gentle) (calmly : act.isCalm = true)
    (able : Echoable wiring drafts echoes) (moved : act? wiring link act = some next)
    (smooth : Smooth wiring drafts echoes count next)
    (begun : act = .read → ∀ echo ∈ echoes.take count, ∃ key,
      .registered echo.2 key ∈ link.history) : next.Echoing echoes := by
  have kept := calm.keeps
    (motive := fun mid => link.Grows mid ∧
      (Smooth wiring drafts echoes count mid → mid.Echoing echoes))
    consistent calmly gentle
    (fun change consistent calm calm' kept => by
      obtain ⟨grows, echoing⟩ := kept
      have step := Grows.of_change change consistent.sound.owned
      refine ⟨grows.trans step, fun smooth => ?_⟩
      refine (echoing (smooth.earlier step)).change change calmly consistent calm calm' able smooth
        fun asked echo early => ?_
      obtain ⟨key, registered⟩ := begun asked echo early
      exact ⟨key, grows.mem_history registered⟩)
    moved ⟨.refl link, fun _ => echoing⟩
  exact kept.2.2 smooth

end Link

end Multiplex
