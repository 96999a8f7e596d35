import Multiplex.Proofs.Closing
import Multiplex.Proofs.Correlation
import Multiplex.Proofs.Holding
import Multiplex.Proofs.Occupancy

/-!
# Who holds a link

A link is held by its user, and by each call that has not returned. When the last of them lets it
go, a link that is still active drains; nobody is told so, since nobody is left who could be. What
the drain fails are entries of calls that were cancelled. As long as a call waits, it makes no
difference to it whether the user holds the link as well.

Main statement: `handled_of_run`.
-/

namespace Multiplex.Link

variable {M : Type}

/-- The link has drained because nobody held it any more. -/
def LetGo (link : Link M) : Prop :=
  .draining .clientDropped ∈ link.history

/-- At each act of a run there is a call that has not returned. -/
def Attended (wiring : Wiring M) (link : Link M) (acts : List (Act M)) : Prop :=
  ∀ earlier act later mid, acts = earlier ++ act :: later →
    follow? wiring link earlier = some mid → mid.calls ≠ []

/-- In the course of some acts, or before them, a call has returned a result. -/
def Obtains (wiring : Wiring M) (link : Link M) (acts : List (Act M)) (number : Nat)
    (ticket? : Option Ticket) (result : Result M) : Prop :=
  ∃ earlier later mid, acts = earlier ++ later ∧ follow? wiring link earlier = some mid ∧
    .returned number ticket? result ∈ mid.history

/-- The link after an act, had its user kept the handle until then. -/
def keeping? (wiring : Wiring M) (link : Link M) : Act M → Option (Link M)
  | .play .dropHandle => some link
  | act => act? wiring (link.holding true) act

/-- The last act of a run has let a link go; `kept` is what the act would have left, had the user
kept its handle. What is in the table then is failed, and nothing else is: all of it belongs to
calls that were cancelled. -/
inductive Forgone (wiring : Wiring M) (acts : List (Act M)) (act : Act M) (link next : Link M) :
    Prop
  | intro {kept : Link M} (moved : keeping? wiring link act = some kept)
      (released : next = kept.dropHandle) (active : kept.phase = .active) (calls : kept.calls = [])
      (fails : ∀ slot ∈ kept.table.slots, next.exchanges.poll slot.2 = some (.error .closed))
      (spares : ∀ ticket, ticket ∉ kept.table.slots.map Prod.snd →
        next.exchanges.poll ticket = kept.exchanges.poll ticket)
      (deserted : ∀ slot ∈ kept.table.slots, Deserted wiring (acts ++ [act]) slot.1 slot.2)

/-- What letting a link go means to those who wait, after some run. -/
structure Handled (wiring : Wiring M) (acts : List (Act M)) (link : Link M) : Prop where
  /-- As long as a link is active, somebody holds it. -/
  held : link.phase = .active → link.handle = true ∨ link.calls ≠ []
  /-- An active link drains for want of a holder in the act after which nobody holds it, and at no
  other time. -/
  lets_go : ∀ act next, act? wiring link act = some next →
    (next.LetGo ↔ link.LetGo ∨
      (link.phase = .active ∧ next.handle = false ∧ next.calls = []))
  forgone : ∀ act next, act? wiring link act = some next → ¬link.LetGo → next.LetGo →
    Forgone wiring acts act link next
  /-- Once it has, nobody is there to be told anything, and nobody ever will be. -/
  nobody : link.LetGo → link.phase ≠ .active ∧ reasons link.history = [.clientDropped] ∧
    ∀ later final, follow? wiring link later = some final →
      final.handle = false ∧ final.calls = [] ∧
        ∀ number ticket? result, .returned number ticket? result ∈ final.history →
          .returned number ticket? result ∈ link.history
  /-- Nor was anybody told that the link is closed, unless its writer had crashed. -/
  unclosed : link.LetGo → link.writer.isCrashed = false → ∀ number ticket,
    .returned number (some ticket) (.failed .closed) ∉ link.history
  /-- Until the last call ends, the user may give up its handle before whatever happens or after
  it. -/
  swap : ∀ later, (∀ act ∈ later, act.needsHandle = false) → Attended wiring link later →
    follow? wiring link (.play .dropHandle :: later) =
      follow? wiring link (later ++ [.play .dropHandle])
  /-- Whatever moves without the handle moves with it. -/
  settled_iff : ∀ given, act? wiring link (.play .dropHandle) = some given → link.calls ≠ [] →
    (Settled wiring given ↔ Settled wiring link)
  /-- And a call returns the same with the handle and without. -/
  obtains_iff : ∀ later, (∀ act ∈ later, act.needsHandle = false) → ∀ number ticket? result,
    Obtains wiring link (.play .dropHandle :: later) number ticket? result ↔
      Obtains wiring link later number ticket? result

variable {wiring : Wiring M} {act : Act M} {acts later : List (Act M)}
  {link mid next final : Link M} {number : Nat} {ticket? : Option Ticket} {result : Result M}

/-! ## Releasing a link -/

theorem release_holders (link : Link M) :
    link.release.handle = link.handle ∧ link.release.calls = link.calls := by
  have drained : (link.drain .clientDropped).handle = link.handle ∧
      (link.drain .clientDropped).calls = link.calls := by
    by_cases active : link.phase = .active
    · obtain ⟨told, remarks, -, eq⟩ := drain_of_active active .clientDropped
      rw [eq]
      exact ⟨rfl, rfl⟩
    · rw [drain_of_not_active active]
      exact ⟨rfl, rfl⟩
  unfold release
  split
  · dsimp only
    split <;> exact drained
  · exact ⟨rfl, rfl⟩

/-- An active link that nobody holds drains when it is released. -/
theorem release_of_alone (active : link.phase = .active) (handle : link.handle = false)
    (nobody : link.calls = []) : ∃ told remarks receiver unmatched, Remarks remarks ∧
      link.release = { link with
        phase := .draining
        stopAsked := true
        table := ⟨[], true⟩
        exchanges := link.exchanges.closeAll (link.table.slots.map Prod.snd)
        told, receiver, unmatched
        stats := { link.stats with drained := link.stats.drained + link.table.slots.length }
        history := remarks ++ .draining .clientDropped :: link.history } := by
  obtain ⟨told, remarks, only, eq⟩ := drain_of_active active .clientDropped
  have alone : (!link.handle && link.calls.isEmpty) = true := by rw [handle, nobody]; rfl
  unfold release
  rw [if_pos alone, eq]
  dsimp only
  split
  · exact ⟨told, remarks, _, _, only, rfl⟩
  · exact ⟨told, remarks, _, _, only, rfl⟩

theorem release_of_inactive (inactive : link.phase ≠ .active) :
    ∃ remarks receiver unmatched, Remarks remarks ∧ link.release =
      { link with receiver, unmatched, history := remarks ++ link.history } := by
  unfold release
  split
  · rw [drain_of_not_active inactive]
    dsimp only
    split
    · exact ⟨[_], _, _, .cons _ rfl .nil, rfl⟩
    · exact ⟨[_], _, _, .cons _ rfl .nil, rfl⟩
  · exact ⟨[], _, _, .nil, rfl⟩

theorem dropHandle_holders : link.dropHandle.handle = false ∧ link.dropHandle.calls = link.calls :=
  release_holders (link.holding false)

theorem inactive_of_release (handle : link.handle = false) (nobody : link.calls = []) :
    link.release.phase ≠ .active := by
  by_cases active : link.phase = .active
  · obtain ⟨told, remarks, receiver, unmatched, -, eq⟩ := release_of_alone active handle nobody
    rw [eq]
    exact nofun
  · obtain ⟨remarks, receiver, unmatched, -, eq⟩ := release_of_inactive active
    rw [eq]
    exact active

theorem inactive_of_dropHandle (nobody : link.calls = []) : link.dropHandle.phase ≠ .active :=
  inactive_of_release (show (link.holding false).handle = false from rfl) nobody

/-- Releasing a link returns nothing to anybody. -/
theorem returned_release_iff : .returned number ticket? result ∈ link.release.history ↔
    .returned number ticket? result ∈ link.history := by
  refine ⟨fun member => ?_, release_mem_history⟩
  by_cases active : link.phase = .active
  · by_cases held : link.handle = true ∨ link.calls ≠ []
    · rwa [release_of_held held] at member
    · rw [not_or, Bool.not_eq_true, not_not] at held
      obtain ⟨told, remarks, receiver, unmatched, only, eq⟩ :=
        release_of_alone active held.1 held.2
      rw [eq] at member
      simpa using only.mem_of_append rfl member
  · obtain ⟨remarks, receiver, unmatched, only, eq⟩ := release_of_inactive active
    rw [eq] at member
    exact only.mem_of_append rfl member

theorem letGo_release_iff (link : Link M) : link.release.LetGo ↔
    link.LetGo ∨ (link.phase = .active ∧ link.handle = false ∧ link.calls = []) := by
  by_cases held : link.handle = true ∨ link.calls ≠ []
  · rw [release_of_held held]
    refine ⟨.inl, fun why => why.resolve_right ?_⟩
    rintro ⟨-, handle, nobody⟩
    rw [handle] at held
    exact held.elim Bool.noConfusion fun waited => waited nobody
  · rw [not_or, Bool.not_eq_true, not_not] at held
    obtain ⟨handle, nobody⟩ := held
    by_cases active : link.phase = .active
    · obtain ⟨told, remarks, receiver, unmatched, only, eq⟩ :=
        release_of_alone active handle nobody
      refine iff_of_true ?_ (.inr ⟨active, handle, nobody⟩)
      rw [eq]
      exact List.mem_append_right _ List.mem_cons_self
    · obtain ⟨remarks, receiver, unmatched, only, eq⟩ := release_of_inactive active
      rw [eq]
      refine ⟨fun member => .inl (only.mem_of_append rfl member), fun why => ?_⟩
      exact List.mem_append_right _ (why.resolve_right fun both => active both.1)

/-! ## The handle in one act -/

theorem waited_of_held (held : link.handle = true ∨ link.calls ≠ [])
    (handle : link.handle = false) : link.calls ≠ [] := by
  rw [handle] at held
  exact held.resolve_left Bool.false_ne_true

theorem ne_dropHandle_of_spared (spared : act.needsHandle = false) : act ≠ .play .dropHandle := by
  rintro rfl
  cases spared

/-- Only the user gives up its handle. -/
theorem handle_of_act (sound : link.Sound) (other : act ≠ .play .dropHandle)
    (moved : act? wiring link act = some next) : next.handle = link.handle := by
  refine sound.keeps (motive := fun mid => mid.handle = link.handle) ?_ moved rfl
  intro mid next change sound same
  cases change with
  | aside _ _ _ _ _ held => exact (held other).trans same
  | _ => exact same

/-- A link whose user holds it is not let go, and no call that ends makes it drain. -/
theorem kept_of_act (sound : link.Sound) (handle : link.handle = true)
    (other : act ≠ .play .dropHandle) (moved : act? wiring link act = some next) :
    (next.LetGo → link.LetGo) ∧
      (act.mayRelease = true → link.phase = .active → next.phase = .active) := by
  have all := sound.keeps (motive := fun mid => mid.handle = true ∧ (mid.LetGo → link.LetGo) ∧
    (act.mayRelease = true → link.phase = .active → mid.phase = .active)) ?_ moved ⟨handle, id, ?_⟩
  · exact all.2
  · intro mid next change sound earlier
    obtain ⟨handle, letGo, active⟩ := earlier
    cases change with
    | aside only _ _ _ _ held =>
      exact ⟨(held other).trans handle, fun member => letGo (only.mem_of_append rfl member), active⟩
    | drain _ cause =>
      cases cause with
      | released _ gone =>
        rw [handle] at gone
        cases gone
      | closed asked | finished asked | unreadable asked | unwritable asked | exited asked =>
        refine ⟨handle, fun member => letGo ?_, fun ends => ?_⟩
        · simpa [LetGo] using member
        · rw [asked] at ends
          cases ends
    | closeDown _ _ _ asked =>
      refine ⟨handle, letGo, fun ends => ?_⟩
      rw [asked] at ends
      cases ends
    | _ => exact ⟨handle, fun member => letGo (by simpa [LetGo] using member), active⟩
  · exact fun _ => id

/-- What an act does to a link, by what its user does about its handle. -/
inductive Handing (wiring : Wiring M) (act : Act M) (link next : Link M) : Prop
  | keeps (handle : link.handle = true) (other : act ≠ .play .dropHandle)
  | gives (asked : act = .play .dropHandle) (handle : link.handle = true)
      (eq : next = link.dropHandle)
  /-- It is as if the user had kept its handle until after the act. -/
  | without {kept : Link M} (handle : link.handle = false) (spared : act.needsHandle = false)
      (moved : act? wiring (link.holding true) act = some kept) (eq : next = kept.dropHandle)
  | idle (handle : link.handle = false) (asked : act.needsHandle = true) (eq : next = link)

/-- What needs the handle does nothing without it. -/
theorem eq_of_unheld (handle : link.handle = false) (asked : act.needsHandle = true)
    (moved : act? wiring link act = some next) : next = link := by
  cases act with
  | play operation =>
    cases operation with
    | send | close | watch | takeUnmatched | dropHandle =>
      cases moved
      simp [play, withHandle, handle]
    | _ => cases asked
  | _ => cases asked

theorem holding_change (link : Link M) (held : Bool) :
    Change wiring (.play .dropHandle) link (link.holding held) :=
  .aside .nil rfl rfl (fun _ => rfl) (fun _ _ => rfl) fun other => absurd rfl other

/-- The link is the same with its own handle. -/
theorem holding_eq_self {held : Bool} (handle : link.handle = held) : link.holding held = link := by
  subst handle
  rfl

theorem Consistent.holding (consistent : link.Consistent wiring) (held : Bool) :
    (link.holding held).Consistent wiring :=
  consistent.change (holding_change link held)

theorem handing_of_act (consistent : link.Consistent wiring)
    (waited : link.handle = false → link.calls ≠ []) (moved : act? wiring link act = some next) :
    Handing wiring act link next := by
  cases handle : link.handle with
  | true =>
    by_cases asked : act = .play .dropHandle
    · subst asked
      cases moved
      exact .gives rfl handle (if_pos handle)
    · exact .keeps handle asked
  | false =>
    cases spared : act.needsHandle with
    | true => exact .idle handle spared (eq_of_unheld handle spared moved)
    | false =>
      have swap : (act? wiring (link.holding true) act).map dropHandle =
          act? wiring ((link.holding true).holding false) act :=
        dropHandle_act? (consistent.holding true).sound rfl (waited handle) spared
      have own : (link.holding true).holding false = link := holding_eq_self handle
      rw [own, moved] at swap
      obtain ⟨kept, moved', eq⟩ := Option.map_eq_some_iff.1 swap
      exact .without handle spared moved' eq.symm

/-- An active link is held after an act if it was before. -/
theorem held_of_act (consistent : link.Consistent wiring)
    (held : link.phase = .active → link.handle = true ∨ link.calls ≠ [])
    (moved : act? wiring link act = some next) (active : next.phase = .active) :
    next.handle = true ∨ next.calls ≠ [] := by
  have sound := consistent.sound
  have held := held ((Grows.of_act sound moved).active active)
  -- a link that is released and still active is held
  have released {left : Link M} (active : left.dropHandle.phase = .active) :
      left.dropHandle.handle = true ∨ left.dropHandle.calls ≠ [] := by
    rw [dropHandle_holders.2]
    exact .inr fun nobody => inactive_of_dropHandle nobody active
  cases handing_of_act consistent (waited_of_held held) moved with
  | keeps handle other => exact .inl ((handle_of_act sound other moved).trans handle)
  | gives _ _ eq =>
    subst eq
    exact released active
  | without _ _ _ eq =>
    subst eq
    exact released active
  | idle _ _ eq =>
    subst eq
    exact held

/-! ## The act in which a link is let go -/

theorem letGo_dropHandle_iff : link.dropHandle.LetGo ↔
    link.LetGo ∨ (link.phase = .active ∧ link.calls = []) := by
  refine (letGo_release_iff (link.holding false)).trans (or_congr Iff.rfl ?_)
  exact and_congr_right fun _ => and_iff_right rfl

/-- After the active phase no reason to drain is added. -/
theorem letGo_iff_of_inactive (sound : link.Sound) (inactive : link.phase ≠ .active)
    (moved : act? wiring link act = some next) : next.LetGo ↔ link.LetGo := by
  have same := sound.keeps
    (motive := fun mid => mid.phase ≠ .active ∧ reasons mid.history = reasons link.history)
    ?_ moved ⟨inactive, rfl⟩
  · unfold LetGo
    rw [← mem_reasons, ← mem_reasons, same.2]
  · intro mid next change sound earlier
    obtain ⟨inactive, same⟩ := earlier
    rcases reasons_of_change change with ⟨kept, active⟩ | ⟨active, -⟩
    · exact ⟨fun now => inactive (active.1 now), kept.trans same⟩
    · exact absurd active inactive

/-- The act in which the last call goes makes no link drain whose user holds it. -/
theorem active_of_kept {kept : Link M} (consistent : link.Consistent wiring)
    (active : link.phase = .active) (waited : link.calls ≠ []) (spared : act.needsHandle = false)
    (moved : act? wiring (link.holding true) act = some kept) (nobody : kept.calls = []) :
    kept.phase = .active := by
  have sound' := (consistent.holding true).sound
  have other := ne_dropHandle_of_spared spared
  cases releases : act.mayRelease with
  | true => exact (kept_of_act sound' rfl other moved).2 releases active
  | false =>
    have same := (unended_of_act sound' spared releases moved).calls
    exact absurd (same.symm.trans nobody) waited

/-- The act after which nobody holds an active link is the one that lets it go. -/
theorem letGo_iff_of_act (consistent : link.Consistent wiring)
    (held : link.phase = .active → link.handle = true ∨ link.calls ≠ [])
    (moved : act? wiring link act = some next) :
    next.LetGo ↔ link.LetGo ∨ (link.phase = .active ∧ next.handle = false ∧ next.calls = []) := by
  have sound := consistent.sound
  by_cases active : link.phase = .active
  · have held := held active
    have waited := waited_of_held held
    cases handing_of_act consistent waited moved with
    | keeps handle other =>
      have handle' := (handle_of_act sound other moved).trans handle
      refine ⟨fun letGo => .inl ((kept_of_act sound handle other moved).1 letGo), ?_⟩
      rintro (letGo | ⟨-, gone, -⟩)
      · exact (Grows.of_act sound moved).mem_history letGo
      · rw [handle'] at gone
        cases gone
    | gives asked handle eq =>
      subst eq
      rw [letGo_dropHandle_iff, dropHandle_holders.1, dropHandle_holders.2]
      simp
    | @without kept handle spared moved' eq =>
      subst eq
      have sound' := (consistent.holding true).sound
      have other := ne_dropHandle_of_spared spared
      rw [letGo_dropHandle_iff, dropHandle_holders.1, dropHandle_holders.2]
      refine or_congr ⟨(kept_of_act sound' rfl other moved').1, fun letGo => ?_⟩
        ⟨fun both => ⟨active, rfl, both.2⟩, fun all => ⟨?_, all.2.2⟩⟩
      · exact (Grows.of_act sound' moved').mem_history letGo
      · exact active_of_kept consistent active (waited handle) spared moved' all.2.2
    | idle handle asked eq =>
      subst eq
      exact ⟨.inl, fun why => why.resolve_right fun all => waited handle all.2.2⟩
  · rw [letGo_iff_of_inactive sound active moved]
    exact ⟨.inl, fun why => why.resolve_right fun all => active all.1⟩

theorem Deserted.append {key : String} {ticket : Ticket} (more : List (Act M))
    (deserted : Deserted wiring acts key ticket) : Deserted wiring (acts ++ more) key ticket := by
  cases deserted with
  | @intro earlier later mid call split run member own found =>
    have split : acts ++ more = earlier ++ .play (.abort call.number) :: (later ++ more) := by
      rw [split, List.append_assoc, List.cons_append]
    exact .intro split run member own found

theorem forgone_of_dropHandle {kept : Link M} (moved : keeping? wiring link act = some kept)
    (active : kept.phase = .active) (nobody : kept.calls = [])
    (deserted : ∀ slot ∈ kept.table.slots, Deserted wiring (acts ++ [act]) slot.1 slot.2) :
    Forgone wiring acts act link kept.dropHandle := by
  have active' : (kept.holding false).phase = .active := active
  obtain ⟨told, remarks, receiver, unmatched, -, eq⟩ := release_of_alone active' rfl nobody
  refine .intro moved rfl active nobody ?_ ?_ deserted
  · intro slot member
    rw [show kept.dropHandle = _ from eq]
    dsimp only
    rw [Exchanges.poll_closeAll]
    exact if_pos (List.mem_map_of_mem member)
  · intro ticket elsewhere
    rw [show kept.dropHandle = _ from eq]
    dsimp only
    rw [Exchanges.poll_closeAll]
    exact if_neg elsewhere

theorem keeping?_of_spared (spared : act.needsHandle = false) :
    keeping? wiring link act = act? wiring (link.holding true) act := by
  cases act with
  | play operation =>
    cases operation with
    | dropHandle => cases spared
    | _ => rfl
  | _ => rfl

/-- Where nobody waits every entry is abandoned. -/
theorem Owned.abandoned_of_nobody (owned : link.Owned) (nobody : link.calls = [])
    (ticket : Ticket) : link.exchanges.isAbandoned ticket = true := by
  cases live : link.exchanges.isAbandoned ticket with
  | true => rfl
  | false =>
    obtain ⟨number, request, handed, timer, member, -⟩ := owned.caller_of_live live
    rw [nobody] at member
    cases member

/-- What is in the table of a link that is let go belongs to calls that were cancelled, one of them
perhaps just now. -/
theorem forgone_of_act (run : follow? wiring fresh acts = some link)
    (held : link.phase = .active → link.handle = true ∨ link.calls ≠ [])
    (moved : act? wiring link act = some next) (before : ¬link.LetGo) (letGo : next.LetGo) :
    Forgone wiring acts act link next := by
  have consistent := consistent_of_run run
  have sound := consistent.sound
  obtain ⟨active, handle', nobody'⟩ :=
    ((letGo_iff_of_act consistent held moved).1 letGo).resolve_left before
  have waited := waited_of_held (held active)
  cases handing_of_act consistent waited moved with
  | keeps handle other =>
    rw [handle_of_act sound other moved, handle] at handle'
    cases handle'
  | gives asked handle eq =>
    subst asked eq
    have nobody : link.calls = [] := dropHandle_holders.2.symm.trans nobody'
    refine forgone_of_dropHandle rfl active nobody ?_
    intro slot member
    exact (deserted_of_run run member (sound.owned.abandoned_of_nobody nobody _)).append _
  | @without kept handle spared moved' eq =>
    subst eq
    have consistent' := consistent.holding true
    have nobody : kept.calls = [] := dropHandle_holders.2.symm.trans nobody'
    have active' := active_of_kept consistent active (waited handle) spared moved' nobody
    refine forgone_of_dropHandle ((keeping?_of_spared spared).trans moved') active' nobody ?_
    intro slot member
    have gone := (consistent'.after moved').sound.owned.abandoned_of_nobody nobody slot.2
    obtain ⟨filed, abandoned | ⟨call, inside, rfl, own⟩⟩ :=
      deserted_of_act consistent' moved' member gone
    · exact (deserted_of_run run filed abandoned).append _
    · exact .intro rfl run inside own
        ((Table.find?_eq_some_iff sound.owned.uniqueKeys).2 filed)
  | idle handle asked eq =>
    subst eq
    exact absurd letGo before

/-! ## A link that has been let go -/

/-- Where nobody holds a link nobody will. -/
theorem alone_of_act (sound : link.Sound) (handle : link.handle = false) (nobody : link.calls = [])
    (moved : act? wiring link act = some next) :
    next.handle = false ∧ Unended link next := by
  cases spared : act.needsHandle with
  | true =>
    obtain rfl := eq_of_unheld handle spared moved
    exact ⟨handle, rfl, id⟩
  | false =>
    have other := ne_dropHandle_of_spared spared
    exact ⟨(handle_of_act sound other moved).trans handle,
      unended_of_nobody sound nobody spared moved⟩

theorem alone_of_follow (sound : link.Sound) (handle : link.handle = false)
    (nobody : link.calls = []) (run : follow? wiring link later = some final) :
    final.handle = false ∧ Unended link final := by
  have all := follow?_invariant
    (motive := fun mid => mid.Sound ∧ mid.handle = false ∧ Unended link mid) ?_ run
    ⟨sound, handle, rfl, id⟩
  · exact all.2
  · intro mid next act moved earlier
    obtain ⟨sound, handle, unended⟩ := earlier
    obtain ⟨handle', onward⟩ := alone_of_act sound handle (unended.calls.trans nobody) moved
    exact ⟨sound.after moved, handle', onward.calls.trans unended.calls,
      fun member => unended.returned (onward.returned member)⟩

/-- Somebody holds a link as long as it is active, and nobody once it has been let go. -/
theorem held_of_run (run : follow? wiring fresh acts = some link) :
    (link.phase = .active → link.handle = true ∨ link.calls ≠ []) ∧
      (link.LetGo → link.handle = false ∧ link.calls = []) := by
  have all := follow?_invariant
    (motive := fun mid => mid.Consistent wiring ∧
      (mid.phase = .active → mid.handle = true ∨ mid.calls ≠ []) ∧
      (mid.LetGo → mid.handle = false ∧ mid.calls = [])) ?_ run ⟨consistent_fresh, ?_, ?_⟩
  · exact all.2
  · intro mid next act moved earlier
    obtain ⟨consistent, held, alone⟩ := earlier
    refine ⟨consistent.after moved, held_of_act consistent held moved, fun letGo => ?_⟩
    rcases (letGo_iff_of_act consistent held moved).1 letGo with before | ⟨-, now⟩
    · obtain ⟨handle, nobody⟩ := alone before
      obtain ⟨handle', unended⟩ := alone_of_act consistent.sound handle nobody moved
      exact ⟨handle', unended.calls.trans nobody⟩
    · exact now
  · exact fun _ => .inl rfl
  · exact fun letGo => nomatch letGo

/-! ## Nobody is told -/

/-- While a link is active, and once it has been let go, no call has been told that it is closed,
unless its writer has crashed. -/
structure Discreet (link : Link M) : Prop where
  unseen : link.phase = .active → link.writer.isCrashed = false → ∀ ticket,
    link.exchanges.isAbandoned ticket = false → link.exchanges.poll ticket ≠ some (.error .closed)
  nobody : link.LetGo → ∀ call ∈ link.calls, call.ticket? = none
  unreturned : link.phase = .active ∨ link.LetGo → link.writer.isCrashed = false →
    ∀ number ticket, .returned number (some ticket) (.failed .closed) ∉ link.history

theorem discreet_fresh : (fresh : Link M).Discreet where
  unseen _ _ ticket live := by
    simp [fresh, Exchanges.isAbandoned] at live
  nobody letGo := nomatch letGo
  unreturned _ _ number ticket member := nomatch member

theorem uncrashed_of_change (change : Change wiring act link next)
    (uncrashed : next.writer.isCrashed = false) : link.writer.isCrashed = false := by
  rw [← Bool.not_eq_true] at uncrashed ⊢
  intro crashed
  obtain ⟨text, ended⟩ := Writer.isCrashed_iff.1 crashed
  exact uncrashed (Writer.isCrashed_iff.2 ⟨text, ended_of_change change ended⟩)

/-- Who still waits after a caller has left is someone else, and sees what it saw. -/
theorem told_of_quit {exchanges : Exchanges M} {caller ticket : Ticket} {handed : Bool}
    {outcome : Except LinkError M}
    (live : (exchanges.quit caller handed).isAbandoned ticket = false)
    (seen : (exchanges.quit caller handed).poll ticket = some outcome) :
    exchanges.isAbandoned ticket = false ∧ exchanges.poll ticket = some outcome := by
  rw [Exchanges.isAbandoned_quit] at live
  split at live
  · cases live
  · next other =>
    rw [Exchanges.poll_quit, if_neg fun both => other both.2.1] at seen
    exact ⟨live, seen⟩

/-- As long as the link is active and its writer has not crashed, whoever waits is not told that it
is closed. -/
theorem toldClosed_of_change {ticket : Ticket} (change : Change wiring act link next)
    (active : next.phase = .active) (uncrashed : next.writer.isCrashed = false)
    (live : next.exchanges.isAbandoned ticket = false)
    (seen : next.exchanges.poll ticket = some (.error .closed)) :
    link.exchanges.isAbandoned ticket = false ∧
      link.exchanges.poll ticket = some (.error .closed) := by
  have awaited {holder : Ticket} (gone : link.exchanges.isAbandoned holder = true)
      (live : link.exchanges.isAbandoned ticket = false) : ticket ≠ holder := by
    rintro rfl
    rw [gone] at live
    cases live
  cases change with
  | drain | closeDown => cases active
  | send =>
    rw [Exchanges.poll_append_fresh] at seen
    rw [Exchanges.isAbandoned_append_fresh] at live
    split at seen
    · cases seen
    · next other =>
      rw [if_neg other] at live
      exact ⟨live, seen⟩
  | @abort call =>
    cases task : call.task with
    | send request handed timer =>
      simp only [task] at live seen
      exact told_of_quit live seen
    | close | watch =>
      simp only [task] at live seen
      exact ⟨live, seen⟩
  | finish => exact told_of_quit live seen
  | withdraw found gone =>
    rw [Exchanges.isAbandoned_drop] at live
    rw [Exchanges.poll_drop, if_neg fun both => awaited gone live both.1] at seen
    exact ⟨live, seen⟩
  | claimed _ _ _ _ _ waits =>
    rw [Exchanges.isAbandoned_resolve] at live
    rw [Exchanges.poll_resolve, waits] at seen
    split at seen
    · cases seen
    · exact ⟨live, seen⟩
  | late _ _ _ _ _ gone =>
    rw [Exchanges.isAbandoned_resolve] at live
    rw [Exchanges.poll_resolve, if_neg (awaited gone live)] at seen
    exact ⟨live, seen⟩
  | stopWriting inactive | interrupt inactive => exact absurd active inactive
  | refuse =>
    rw [Exchanges.isAbandoned_fail] at live
    rw [Exchanges.poll_fail] at seen
    split at seen
    · next same =>
      rw [← same, live] at seen
      cases seen
    · exact ⟨live, seen⟩
  | skip _ _ _ free gone =>
    rw [Exchanges.isAbandoned_drop, Exchanges.isAbandoned_vacate] at live
    rw [Exchanges.poll_drop, if_neg fun both => awaited gone live both.1,
      Exchanges.poll_vacate, if_neg fun both => awaited (free _ both.1) live rfl] at seen
    exact ⟨live, seen⟩
  | register _ _ _ free =>
    rw [Exchanges.isAbandoned_vacate] at live
    rw [Exchanges.poll_vacate, if_neg fun both => awaited (free _ both.1) live rfl] at seen
    exact ⟨live, seen⟩
  | fail =>
    rw [Exchanges.isAbandoned_failAt] at live
    rw [Exchanges.poll_failAt, live] at seen
    split at seen
    · cases seen
    · exact ⟨live, seen⟩
  | crashWriting => cases uncrashed
  | _ => exact ⟨live, seen⟩

/-- A link that has been let go was active just before, or had been let go already. -/
theorem letGo_of_change (change : Change wiring act link next) (letGo : next.LetGo) :
    link.phase = .active ∨ link.LetGo := by
  cases change with
  | aside only => exact .inr (only.mem_of_append rfl letGo)
  | drain active => exact .inl active
  | _ => exact .inr (by simpa [LetGo] using letGo)

theorem Reasoned.inactive (reasoned : link.Reasoned) (letGo : link.LetGo) :
    link.phase ≠ .active := by
  intro active
  have given := mem_reasons.2 letGo
  rw [reasoned.none active] at given
  cases given

/-- No request waits on a link that has been let go. -/
theorem Discreet.nobody_of_change {call : Call} (change : Change wiring act link next)
    (reasoned : link.Reasoned) (discreet : link.Discreet) (letGo : next.LetGo)
    (member : call ∈ next.calls) : call.ticket? = none := by
  cases change with
  | aside only => exact discreet.nobody (only.mem_of_append rfl letGo) call member
  | drain active cause =>
    rcases List.mem_cons.1 letGo with new | old
    · cases new
      cases cause with
      | released _ _ calls =>
        have member : call ∈ link.calls := member
        rw [calls] at member
        cases member
    · exact discreet.nobody old call member
  | send _ active | enqueue _ _ active =>
    have before : link.LetGo := by simpa [LetGo] using letGo
    exact absurd active (reasoned.inactive before)
  | await _ wait =>
    rcases List.mem_append.1 member with there | new
    · exact discreet.nobody letGo call there
    · rw [List.mem_singleton.1 new]
      exact (Call.tickets_of_wait _ wait).1
  | abort => exact discreet.nobody letGo call (List.mem_filter.1 member).1
  | finish | conclude =>
    have before : link.LetGo := by simpa [LetGo] using letGo
    exact discreet.nobody before call (List.mem_filter.1 member).1
  | _ => exact discreet.nobody (by simpa [LetGo] using letGo) call member

/-- A call that returns now has been told by an active link, which has not told it that it is
closed. -/
theorem Discreet.not_returns {call : Call} {request : Request} {handed : Bool}
    {timer : Option Timer} (sound : link.Sound) (discreet : link.Discreet)
    (active : link.phase = .active) (uncrashed : link.writer.isCrashed = false)
    (inside : call ∈ link.calls) (task : call.task = .send request handed timer) :
    ¬Returns link request timer handed (.failed .closed) := by
  intro returns
  generalize told : Result.failed LinkError.closed = result at returns
  cases returns with
  | @outcome outcome there =>
    cases outcome with
    | ok message => cases told
    | error error =>
      cases told
      exact discreet.unseen active uncrashed _ (sound.owned.waiting inside task).1 there
  | turnedAway shut =>
    refine shut.elim (fun inactive => inactive active) fun shut => ?_
    have idle : link.writer.isServing = false := by
      rw [← Bool.not_eq_true, ← sound.phased.isOpen_iff, shut]
      exact Bool.false_ne_true
    exact sound.phased.inactive_of_closing idle uncrashed active
  | late => cases told

theorem Discreet.change (change : Change wiring act link next) (sound : link.Sound)
    (reasoned : link.Reasoned) (discreet : link.Discreet) : next.Discreet := by
  have grows := Grows.of_change change sound.owned
  refine ⟨?_, fun letGo call member => discreet.nobody_of_change change reasoned letGo member, ?_⟩
  · intro active uncrashed ticket live seen
    obtain ⟨live, seen⟩ := toldClosed_of_change change active uncrashed live seen
    exact discreet.unseen (grows.active active) (uncrashed_of_change change uncrashed) ticket live
      seen
  · intro why uncrashed number ticket member
    have why : link.phase = .active ∨ link.LetGo :=
      why.elim (fun active => .inl (grows.active active)) (letGo_of_change change)
    have uncrashed := uncrashed_of_change change uncrashed
    rcases returned_of_change change member with
      old | ⟨call, request, handed, timer, inside, -, task, rfl, returns⟩
    · exact discreet.unreturned why uncrashed number ticket old
    · rcases why with active | letGo
      · exact discreet.not_returns sound active uncrashed inside task returns
      · have own : call.ticket? = some request.ticket := by rw [Call.ticket?, task]
        rw [discreet.nobody letGo call inside] at own
        cases own

theorem discreet_of_run (run : follow? wiring fresh acts = some link) : link.Discreet := by
  have all := sound_fresh.follow_keeps (motive := fun mid => mid.Reasoned ∧ mid.Discreet) ?_ run
    ⟨⟨fun _ => rfl, fun inactive => absurd rfl inactive⟩, discreet_fresh⟩
  · exact all.2
  · intro act mid next change sound earlier
    exact ⟨earlier.1.change change, earlier.2.change change sound earlier.1⟩

/-! ## With the handle and without -/

/-- The link once its user has given up its handle, if it had one. -/
def giveUp (link : Link M) : Link M :=
  if link.handle then link.dropHandle else link

theorem act?_dropHandle : act? wiring link (.play .dropHandle) = some link.giveUp := rfl

theorem giveUp_calls : link.giveUp.calls = link.calls := by
  unfold giveUp
  split
  · exact dropHandle_holders.2
  · rfl

theorem returned_giveUp_iff : .returned number ticket? result ∈ link.giveUp.history ↔
    .returned number ticket? result ∈ link.history := by
  unfold giveUp
  split
  · exact returned_release_iff
  · exact Iff.rfl

/-- As long as somebody waits, an act comes to the same whether the handle is given up before it or
after it. -/
theorem act?_giveUp (sound : link.Sound) (waited : link.calls ≠ [])
    (spared : act.needsHandle = false) :
    act? wiring link.giveUp act = (act? wiring link act).map giveUp := by
  have other := ne_dropHandle_of_spared spared
  cases handle : link.handle with
  | true =>
    have given : link.giveUp = link.holding false := by
      rw [giveUp, if_pos handle]
      exact release_of_held (.inr waited)
    rw [given, ← dropHandle_act? sound handle waited spared]
    refine Option.map_congr fun next moved => ?_
    rw [giveUp, if_pos ((handle_of_act sound other moved).trans handle)]
  | false =>
    have own {link : Link M} (handle : link.handle = false) : link.giveUp = link := by
      rw [giveUp, handle]
      exact if_neg Bool.false_ne_true
    rw [own handle]
    cases moved : act? wiring link act with
    | none => rfl
    | some next =>
      exact congrArg some (own ((handle_of_act sound other moved).trans handle)).symm

theorem swap_of_attended (sound : link.Sound) (spared : ∀ act ∈ later, act.needsHandle = false)
    (attended : Attended wiring link later) :
    follow? wiring link (.play .dropHandle :: later) =
      follow? wiring link (later ++ [.play .dropHandle]) := by
  -- giving up the handle changes places with one act after the other
  induction later generalizing link with
  | nil => rfl
  | cons act rest ih =>
    obtain ⟨own, others⟩ := List.forall_mem_cons.1 spared
    have waited : link.calls ≠ [] := attended [] act rest link rfl rfl
    rw [List.cons_append, follow?, act?_dropHandle, Option.bind_some, follow?, follow?,
      act?_giveUp sound waited own]
    cases moved : act? wiring link act with
    | none => rfl
    | some next =>
      refine ih (sound.after moved) others ?_
      intro earlier act' later mid split run
      have split : act :: rest = (act :: earlier) ++ act' :: later := by
        rw [split, List.cons_append]
      exact attended (act :: earlier) act' later mid split (follow?_cons.2 ⟨next, moved, run⟩)

theorem settled_giveUp_iff (sound : link.Sound) (waited : link.calls ≠ []) :
    Settled wiring link.giveUp ↔ Settled wiring link := by
  refine forall_congr' fun act => imp_congr_right fun step => ?_
  have spared : act.needsHandle = false := by
    cases act with
    | play => cases step
    | _ => rfl
  rw [act?_giveUp sound waited spared, Option.map_eq_none_iff]

theorem obtains_nil : Obtains wiring link [] number ticket? result ↔
    .returned number ticket? result ∈ link.history := by
  constructor
  · rintro ⟨earlier, later, mid, split, run, member⟩
    obtain ⟨rfl, rfl⟩ := List.append_eq_nil_iff.1 split.symm
    cases run
    exact member
  · exact fun member => ⟨[], [], link, rfl, rfl, member⟩

theorem obtains_cons : Obtains wiring link (act :: later) number ticket? result ↔
    .returned number ticket? result ∈ link.history ∨
      ∃ next, act? wiring link act = some next ∧
        Obtains wiring next later number ticket? result := by
  constructor
  · rintro ⟨earlier, rest, mid, split, run, member⟩
    cases earlier with
    | nil =>
      cases run
      exact .inl member
    | cons first earlier =>
      obtain ⟨rfl, same⟩ := List.cons_eq_cons.1 split
      obtain ⟨next, moved, run⟩ := follow?_cons.1 run
      exact .inr ⟨next, moved, earlier, rest, mid, same, run, member⟩
  · rintro (member | ⟨next, moved, earlier, rest, mid, split, run, member⟩)
    · exact ⟨[], act :: later, link, rfl, rfl, member⟩
    · have split : act :: later = (act :: earlier) ++ rest := by
        rw [split, List.cons_append]
      exact ⟨act :: earlier, rest, mid, split, follow?_cons.2 ⟨next, moved, run⟩, member⟩

/-- Where nobody waits nobody obtains anything more. -/
theorem obtains_iff_of_nobody (sound : link.Sound) (nobody : link.calls = [])
    (spared : ∀ act ∈ later, act.needsHandle = false) :
    Obtains wiring link later number ticket? result ↔
      .returned number ticket? result ∈ link.history := by
  induction later generalizing link with
  | nil => exact obtains_nil
  | cons act rest ih =>
    obtain ⟨own, others⟩ := List.forall_mem_cons.1 spared
    rw [obtains_cons]
    refine ⟨fun why => why.elim id ?_, .inl⟩
    rintro ⟨next, moved, obtained⟩
    have unended := unended_of_nobody sound nobody own moved
    exact unended.returned
      ((ih (sound.after moved) (unended.calls.trans nobody) others).1 obtained)

/-- Calls obtain the same whether or not the user has given up its handle. -/
theorem obtains_giveUp_iff (sound : link.Sound)
    (spared : ∀ act ∈ later, act.needsHandle = false) :
    Obtains wiring link.giveUp later number ticket? result ↔
      Obtains wiring link later number ticket? result := by
  -- the handle is given up after the next act instead, until nobody waits any more; from then on
  -- nothing is returned, so it does not matter that such a link drains
  induction later generalizing link with
  | nil => rw [obtains_nil, obtains_nil, returned_giveUp_iff]
  | cons act rest ih =>
    obtain ⟨own, others⟩ := List.forall_mem_cons.1 spared
    by_cases waited : link.calls = []
    · have given : act? wiring link (.play .dropHandle) = some link.giveUp := act?_dropHandle
      rw [obtains_iff_of_nobody (sound.after given) (giveUp_calls.trans waited) spared,
        obtains_iff_of_nobody sound waited spared, returned_giveUp_iff]
    · rw [obtains_cons, obtains_cons, returned_giveUp_iff, act?_giveUp sound waited own]
      refine or_congr_right ?_
      cases moved : act? wiring link act with
      | none => simp
      | some next => simpa using ih (sound.after moved) others

/-! ## Whole runs -/

/-- After every run: who holds the link, which act lets it go, and that nobody who waits is told of
it. -/
theorem handled_of_run (run : follow? wiring fresh acts = some link) :
    Handled wiring acts link := by
  have consistent := consistent_of_run run
  have sound := consistent.sound
  have reasoned := reasoned_of_run run
  obtain ⟨held, alone⟩ := held_of_run run
  have discreet := discreet_of_run run
  refine
    { held
      lets_go := fun act next moved => letGo_iff_of_act consistent held moved
      forgone := fun act next moved before letGo => forgone_of_act run held moved before letGo
      nobody := fun letGo => ?nobody
      unclosed := fun letGo uncrashed => discreet.unreturned (.inr letGo) uncrashed
      swap := fun later spared attended => swap_of_attended sound spared attended
      settled_iff := fun given moved waited => ?settled_iff
      obtains_iff := fun later spared number ticket? result => ?obtains_iff }
  case nobody =>
    have given := mem_reasons.2 letGo
    have inactive := reasoned.inactive letGo
    obtain ⟨reason, once⟩ := reasoned.one inactive
    obtain ⟨handle, nobody⟩ := alone letGo
    refine ⟨inactive, ?_, fun later final onward => ?_⟩
    · rw [once] at given ⊢
      rw [List.mem_singleton.1 given]
    · obtain ⟨handle', unended⟩ := alone_of_follow sound handle nobody onward
      exact ⟨handle', unended.calls.trans nobody, fun _ _ _ => unended.returned⟩
  case settled_iff =>
    cases moved
    exact settled_giveUp_iff sound waited
  case obtains_iff =>
    rw [obtains_cons, act?_dropHandle]
    constructor
    · rintro (before | ⟨given, moved, obtained⟩)
      · exact ⟨[], later, link, rfl, rfl, before⟩
      · cases moved
        exact (obtains_giveUp_iff sound spared).1 obtained
    · exact fun obtained => .inr ⟨_, rfl, (obtains_giveUp_iff sound spared).2 obtained⟩

/-! ## A link that its user leaves behind -/

section Farewell

open Rehearsal

/-- Two requests are sent and written. The second call is cancelled, the user gives up its handle,
and the reply to the first request is read. -/
def farewellRun : List (Act Scripted) :=
  [.play (.send (scriptedMessage "000001") none), .turn 0 true, .write, .write, .write, .write,
    .play (.send (scriptedMessage "000002") none), .turn 1 true, .write, .write, .write, .write,
    .play (.abort 1), .play .dropHandle, .play (.arrive (.chunk (scriptedFrame 49))), .read, .read,
    .read]

/-- The link after that run. -/
def farewellLink : Link Scripted :=
  scriptedLink farewellRun

/-- The link when the first call has returned its reply. -/
def desertedLink : Link Scripted :=
  scriptedLink (farewellRun ++ [.turn 0 false])

theorem follow?_farewell : follow? scriptedWiring fresh farewellRun = some farewellLink ∧
    act? scriptedWiring farewellLink (.turn 0 false) = some desertedLink := by
  have all : follow? scriptedWiring fresh (farewellRun ++ [.turn 0 false]) = some desertedLink :=
    follow?_scripted (by decide +kernel)
  obtain ⟨mid, run, last⟩ := follow?_append.1 all
  obtain ⟨next, moved, none⟩ := follow?_cons.1 last
  cases none
  rw [farewellLink, scriptedLink_eq run]
  exact ⟨run, moved⟩

theorem farewell_eq : farewellLink.phase = .active ∧ desertedLink.handle = false ∧
    desertedLink.calls = [] ∧ desertedLink.stats.repliesMatched = 1 ∧
    (keeping? scriptedWiring farewellLink (.turn 0 false)).map (fun kept => kept.table.slots) =
      some [("000002", 1)] := by
  decide +kernel

theorem handled_of_run_farewell :
    follow? scriptedWiring fresh farewellRun = some farewellLink ∧
      Handled scriptedWiring farewellRun farewellLink ∧ ¬farewellLink.LetGo ∧
      act? scriptedWiring farewellLink (.turn 0 false) = some desertedLink ∧
      desertedLink.LetGo ∧ desertedLink.stats.repliesMatched = 1 ∧
      Deserted scriptedWiring (farewellRun ++ [.turn 0 false]) "000002" 1 := by
  obtain ⟨run, moved⟩ := follow?_farewell
  obtain ⟨active, handle, nobody, replied, slots⟩ := farewell_eq
  have handled := handled_of_run run
  have before : ¬farewellLink.LetGo := fun letGo => (handled.nobody letGo).1 active
  have letGo := (handled.lets_go _ _ moved).2 (.inr ⟨active, handle, nobody⟩)
  refine ⟨run, handled, before, moved, letGo, replied, ?_⟩
  -- the entry that is failed is the one of the call that was cancelled
  cases handled.forgone _ _ moved before letGo with
  | intro kept _ _ _ _ _ deserted =>
    rw [kept, Option.map_some] at slots
    refine deserted ("000002", 1) ?_
    rw [Option.some.inj slots]
    exact List.mem_singleton_self _

end Farewell

end Multiplex.Link
