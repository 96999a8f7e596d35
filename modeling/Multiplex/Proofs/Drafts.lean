import Multiplex.Proofs.Frames

/-!
# The requests that messages make

What becomes of messages that are sent one after another on an active link depends on the messages
alone: each gets a trace number if it has none, its key and its frame (`Link.enlist`). However the
tasks of the link run in between, the requests of a run are these, in this order
(`Link.Enrolled.after`).
-/

namespace Multiplex

variable {M : Type}

/-- A message that has its trace number, with its key and its frame. -/
structure Draft (M : Type) where
  message : M
  key : String
  frame : Bytes
  deriving DecidableEq

/-- The message that an act sends. -/
def Act.message? : Act M → Option M
  | .play (.send message _) => some message
  | _ => none

/-- The messages that are sent in a run, in order. -/
def sends (acts : List (Act M)) : List M :=
  acts.filterMap Act.message?

theorem sends_cons (act : Act M) (acts : List (Act M)) :
    sends (act :: acts) = act.message?.toList ++ sends acts := by
  rw [sends, List.filterMap_cons, sends]
  cases act.message? <;> rfl

/-- A counter is told by the number it issued last. -/
theorem Stan.eq_of_last {stan stan' : Stan} (same : stan.last = stan'.last) : stan = stan' := by
  cases stan
  cases stan'
  cases same
  rfl

namespace Link

/-- What messages make that are sent one after another; nothing if one of them cannot be sent. -/
def enlist (wiring : Wiring M) (stan : Stan) : List M → Option (List (Draft M))
  | [] => some []
  | original :: rest =>
    match assignStan wiring stan original with
    | (.error _, _) => none
    | (.ok message, stan) =>
      match keyedFrame wiring message with
      | .error _ => none
      | .ok (key, frame) => (enlist wiring stan rest).map (⟨message, key, frame⟩ :: ·)

variable {wiring : Wiring M} {act : Act M} {later : List (Act M)} {link next : Link M}
  {original : M} {rest : List M} {stan : Stan} {drafts : List (Draft M)}

theorem enlist_cons (all : enlist wiring stan (original :: rest) = some drafts) :
    ∃ draft others stan', assignStan wiring stan original = (.ok draft.message, stan') ∧
      keyedFrame wiring draft.message = .ok (draft.key, draft.frame) ∧
      enlist wiring stan' rest = some others ∧ drafts = draft :: others := by
  rw [enlist] at all
  split at all
  · cases all
  · next message stan' assigned =>
    split at all
    · cases all
    · next key frame framed =>
      obtain ⟨others, listed, rfl⟩ := Option.map_eq_some_iff.1 all
      exact ⟨⟨message, key, frame⟩, others, stan', assigned, framed, listed, rfl⟩

/-- There is a draft for every message. -/
theorem length_enlist (all : enlist wiring stan rest = some drafts) :
    drafts.length = rest.length := by
  induction rest generalizing stan drafts with
  | nil =>
    cases all
    rfl
  | cons original rest ih =>
    obtain ⟨draft, others, stan', -, -, listed, rfl⟩ := enlist_cons all
    rw [List.length_cons, List.length_cons, ih listed]

/-- A draft has the key and the frame of its message. -/
theorem keyedFrame_of_enlist (all : enlist wiring stan rest = some drafts) :
    ∀ draft ∈ drafts, keyedFrame wiring draft.message = .ok (draft.key, draft.frame) := by
  induction rest generalizing stan drafts with
  | nil =>
    cases all
    intro draft member
    cases member
  | cons original rest ih =>
    obtain ⟨first, others, stan', -, framed, listed, rfl⟩ := enlist_cons all
    exact List.forall_mem_cons.2 ⟨framed, ih listed⟩

/-- A message that passes is made a request, with a call that waits for its outcome. -/
theorem send_of_keyedFrame {message : M} {key : String} {frame : Bytes} (timeout : Option Nat)
    (active : link.phase = .active)
    (assigned : assignStan wiring link.stan original = (.ok message, stan))
    (framed : keyedFrame wiring message = .ok (key, frame)) :
    (link.send wiring original timeout).exchanges = link.exchanges ++ [Exchange.fresh] ∧
      (link.send wiring original timeout).stan = stan ∧
      ∃ timer, ⟨link.made, .send ⟨link.exchanges.length, key, frame⟩ false timer⟩ ∈
        (link.send wiring original timeout).calls := by
  obtain ⟨issued, eq, exchanges, made, counter⟩ : ∃ issued : Link M,
      (if stan.last = link.stan.last then link
        else { link with stan }.note (.issued stan.text)) = issued ∧
      issued.exchanges = link.exchanges ∧ issued.made = link.made ∧ issued.stan = stan := by
    split
    · next same =>
      exact ⟨link, rfl, rfl, rfl, (Stan.eq_of_last same).symm⟩
    · exact ⟨_, rfl, rfl, rfl, rfl⟩
  unfold send prepare
  rw [if_neg (not_not_intro active), assigned]
  dsimp only
  rw [eq, framed]
  refine ⟨congrArg (· ++ [Exchange.fresh]) exchanges, counter,
    timeout.map fun millis => ⟨millis, issued.clock + millis⟩, ?_⟩
  rw [← made, ← exchanges]
  exact List.mem_append_right _ (List.mem_singleton_self _)

theorem eq_send_of_act {timeout : Option Nat} (handle : link.handle = true)
    (moved : act? wiring link (.play (.send original timeout)) = some next) :
    next = link.send wiring original (timeout <|> wiring.config.requestTimeout) := by
  simp only [act?, play, withHandle, handle, if_true, Option.some.injEq] at moved
  exact moved.symm

theorem kept_of_change (change : Change wiring act link next) (silent : act.message? = none) :
    next.exchanges.length = link.exchanges.length ∧ next.stan = link.stan := by
  cases change with
  | issue active asked =>
    rw [asked] at silent
    cases silent
  | send _ _ _ _ origin =>
    obtain ⟨original, timeout, stan, asked, -⟩ := origin
    rw [asked] at silent
    cases silent
  | @abort call =>
    refine ⟨?_, rfl⟩
    cases call.task with
    | send request handed timer => exact Exchanges.length_quit _ _ _
    | close | watch => rfl
  | _ => exact ⟨by simp, rfl⟩

/-- The requests of a link are the first of the drafts, and the messages that are still to be sent
make the others. -/
structure Enrolled (wiring : Wiring M) (drafts : List (Draft M)) (later : List (Act M))
    (link : Link M) : Prop where
  bound : link.exchanges.length ≤ drafts.length
  rest : enlist wiring link.stan (sends later) = some (drafts.drop link.exchanges.length)
  known : ∀ message request, .prepared message request ∈ link.history →
    drafts[request.ticket]? = some ⟨message, request.key, request.frame⟩

theorem enrolled_fresh (all : enlist wiring .fresh (sends later) = some drafts) :
    Enrolled wiring drafts later (fresh : Link M) := by
  refine ⟨Nat.zero_le _, all, ?_⟩
  intro message request member
  simp [fresh] at member

/-- The next message that is sent makes the next draft. -/
theorem Enrolled.draft {timeout : Option Nat}
    (enrolled : Enrolled wiring drafts (.play (.send original timeout) :: later) link) :
    ∃ draft stan, drafts[link.exchanges.length]? = some draft ∧
      assignStan wiring link.stan original = (.ok draft.message, stan) ∧
      keyedFrame wiring draft.message = .ok (draft.key, draft.frame) ∧
      enlist wiring stan (sends later) = some (drafts.drop (link.exchanges.length + 1)) := by
  have rest := enrolled.rest
  rw [sends_cons, Act.message?, Option.toList_some, List.singleton_append] at rest
  obtain ⟨draft, others, stan, assigned, framed, listed, split⟩ := enlist_cons rest
  refine ⟨draft, stan, ?_, assigned, framed, ?_⟩
  · have found : (drafts.drop link.exchanges.length)[0]? = some draft := by rw [split]; rfl
    rwa [List.getElem?_drop, Nat.add_zero] at found
  · rw [listed, ← List.drop_drop, split, List.drop_one, List.tail_cons]

theorem Enrolled.after (synced : link.Synced)
    (active : link.phase = .active) (handle : link.handle = true)
    (moved : act? wiring link act = some next)
    (enrolled : Enrolled wiring drafts (act :: later) link) :
    Enrolled wiring drafts later next := by
  obtain ⟨bound, rest, known⟩ := id enrolled
  cases sent : act.message? with
  | none =>
    rw [sends_cons, sent, Option.toList_none, List.nil_append] at rest
    have kept := (act?_changes synced moved).keeps (motive := fun mid =>
      mid.exchanges.length = link.exchanges.length ∧ mid.stan = link.stan)
      (fun change same => by
        obtain ⟨length, stan⟩ := kept_of_change change sent
        exact ⟨length.trans same.1, stan.trans same.2⟩)
      ⟨rfl, rfl⟩
    refine ⟨kept.1 ▸ bound, by rw [kept.1, kept.2]; exact rest, ?_⟩
    intro message request member
    rcases prepared_of_act synced moved member with old | ⟨original, timeout, rfl, -⟩
    · exact known message request old
    · cases sent
  | some original =>
    obtain ⟨timeout, rfl⟩ : ∃ timeout, act = .play (.send original timeout) := by
      unfold Act.message? at sent
      split at sent
      · next message timeout =>
        cases sent
        exact ⟨timeout, rfl⟩
      · cases sent
    obtain ⟨draft, stan, first, assigned, framed, listed⟩ := enrolled.draft
    have made := eq_send_of_act handle moved
    obtain ⟨exchanges, counter, -⟩ :=
      send_of_keyedFrame (timeout <|> wiring.config.requestTimeout) active assigned framed
    rw [← made] at exchanges counter
    have length : next.exchanges.length = link.exchanges.length + 1 := by
      rw [exchanges, List.length_append, List.length_singleton]
    refine ⟨length ▸ (List.getElem?_eq_some_iff.1 first).1, ?_, ?_⟩
    · rw [counter, length, listed]
    · intro message request member
      rw [made] at member
      rcases prepared_of_send member with old | ⟨ticket, assigned', framed'⟩
      · exact known message request old
      · rw [assigned] at assigned'
        cases assigned'
        rw [framed, Except.ok.injEq, Prod.mk.injEq] at framed'
        rw [ticket, first, ← framed'.1, ← framed'.2]

end Link

end Multiplex
