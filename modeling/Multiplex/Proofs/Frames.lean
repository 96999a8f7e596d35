import Multiplex.Proofs.Consistent
import Mathlib.Data.List.Induction

/-!
# Where frames come from

Every request of a run comes from one send: its message has the trace number that the send gave it,
and its frame is the length header of the packed message, followed by the packed message
(`Link.origin_of_run`).
-/

namespace Multiplex

variable {M : Type}

namespace Link

variable {wiring : Wiring M} {act : Act M} {acts : List (Act M)} {link next : Link M}

/-- A frame that was made: a length header, and the packed message that both size limits allow. -/
theorem frameOf_eq_ok {message : M} {frame : Bytes} (framed : frameOf wiring message = .ok frame) :
    ∃ payload header, wiring.codec.pack message = .ok payload ∧
      payload.length ≤ wiring.config.maxFrameSize ∧
      wiring.framing.encode payload.length = .ok header ∧ frame = header ++ payload := by
  rw [frameOf] at framed
  split at framed
  · cases framed
  · next payload packed =>
    split at framed
    · cases framed
    · next small =>
      split at framed
      · cases framed
      · next header encoded =>
        cases framed
        exact ⟨payload, header, packed, Nat.le_of_not_lt small, encoded, rfl⟩

theorem frameOf_of_keyedFrame {message : M} {key : String} {frame : Bytes}
    (framed : keyedFrame wiring message = .ok (key, frame)) :
    frameOf wiring message = .ok frame := by
  rw [keyedFrame] at framed
  split at framed
  · cases framed
  · split at framed
    · cases framed
    · next made =>
      cases framed
      exact made

/-- The request was made of `message` by a send of the run, which gave it a trace number if it had
none. -/
inductive Origin (wiring : Wiring M) (acts : List (Act M)) (message : M) (request : Request) : Prop
  | sent {before later : List (Act M)} {original : M} {timeout : Option Nat} {start : Link M}
      {payload header : Bytes}
      (split : acts = before ++ .play (.send original timeout) :: later)
      (run : follow? wiring fresh before = some start)
      (ticket : request.ticket = start.exchanges.length)
      (assigned : (assignStan wiring start.stan original).1 = .ok message)
      (key : wiring.key message = .ok request.key)
      (packed : wiring.codec.pack message = .ok payload)
      (small : payload.length ≤ wiring.config.maxFrameSize)
      (encoded : wiring.framing.encode payload.length = .ok header)
      (frame : request.frame = header ++ payload)

/-- The origin of a request does not depend on what comes later. -/
theorem Origin.append {message : M} {request : Request}
    (origin : Origin wiring acts message request) (more : List (Act M)) :
    Origin wiring (acts ++ more) message request := by
  cases origin with
  | @sent before later original timeout _ _ _ split run ticket assigned key packed small encoded
      frame =>
    have split : acts ++ more = before ++ .play (.send original timeout) :: (later ++ more) := by
      rw [split, List.append_assoc, List.cons_append]
    exact .sent split run ticket assigned key packed small encoded frame

/-- Who makes a request: a send, whose message it is. -/
theorem prepared_of_send {original message : M} {request : Request} {timeout : Option Nat}
    (member : .prepared message request ∈ (link.send wiring original timeout).history) :
    .prepared message request ∈ link.history ∨ request.ticket = link.exchanges.length ∧
      (assignStan wiring link.stan original).1 = .ok message ∧
      keyedFrame wiring message = .ok (request.key, request.frame) := by
  have issued (stan : Stan) : ((if stan.last = link.stan.last then link
      else { link with stan }.note (.issued stan.text)).exchanges = link.exchanges) ∧
      (.prepared message request ∈ (if stan.last = link.stan.last then link
        else { link with stan }.note (.issued stan.text)).history →
          .prepared message request ∈ link.history) := by
    split
    · exact ⟨rfl, id⟩
    · exact ⟨rfl, fun member => by simpa [note] using member⟩
  obtain ⟨exchanges, old⟩ := issued (assignStan wiring link.stan original).2
  rw [send, prepare] at member
  split at member
  · next error after eq =>
    have there : .prepared message request ∈ after.history := by simpa [note] using member
    split at eq
    · cases eq
      exact .inl there
    · dsimp only at eq
      split at eq
      · cases eq
        exact .inl (old there)
      · split at eq
        · cases eq
          exact .inl (old there)
        · cases eq
  · next made after eq =>
    have member : .prepared message request ∈ after.history := member
    split at eq
    · cases eq
    · dsimp only at eq
      split at eq
      · cases eq
      · next keyed assigned =>
        split at eq
        · cases eq
        · next key frame framed =>
          cases eq
          rcases List.mem_cons.1 member with new | before
          · cases new
            exact .inr ⟨congrArg List.length exchanges, assigned, framed⟩
          · exact .inl (old before)

/-- Every other act makes no request. -/
theorem prepared_of_act (synced : link.Synced)
    (moved : act? wiring link act = some next) {message : M} {request : Request}
    (member : .prepared message request ∈ next.history) :
    .prepared message request ∈ link.history ∨ ∃ original timeout,
      act = .play (.send original timeout) ∧ request.ticket = link.exchanges.length ∧
        (assignStan wiring link.stan original).1 = .ok message ∧
        keyedFrame wiring message = .ok (request.key, request.frame) := by
  by_cases sends : ∃ original timeout, act = .play (.send original timeout)
  · obtain ⟨original, timeout, rfl⟩ := sends
    cases moved
    simp only [play, withHandle] at member
    split at member
    · rcases prepared_of_send member with old | ⟨ticket, assigned, framed⟩
      · exact .inl old
      · exact .inr ⟨original, timeout, rfl, ticket, assigned, framed⟩
    · exact .inl member
  · refine .inl ((act?_changes synced moved).keeps (motive := fun after =>
      .prepared message request ∈ after.history → .prepared message request ∈ link.history)
      ?_ id member)
    intro before after change old member
    apply old
    cases change with
    | aside only => exact only.mem_of_append rfl member
    | send _ _ _ _ origin =>
      obtain ⟨original, timeout, -, asked, -⟩ := origin
      exact absurd ⟨original, timeout, asked⟩ sends
    | _ => simpa using member

/-- Every request of a run comes from a send. -/
theorem origin_of_run (run : follow? wiring fresh acts = some link) {message : M}
    {request : Request} (member : .prepared message request ∈ link.history) :
    Origin wiring acts message request := by
  induction acts using List.reverseRecOn generalizing link with
  | nil =>
    cases run
    simp [fresh] at member
  | append_singleton earlier act ih =>
    obtain ⟨mid, first, last⟩ := follow?_append.1 run
    obtain ⟨after, moved, done⟩ := follow?_cons.1 last
    cases done
    have synced := (consistent_of_run first).sound.phased.synced
    rcases prepared_of_act synced moved member with
      old | ⟨original, timeout, rfl, ticket, assigned, framed⟩
    · exact (ih first old).append [act]
    · obtain ⟨payload, header, packed, small, encoded, frame⟩ :=
        frameOf_eq_ok (frameOf_of_keyedFrame framed)
      exact .sent rfl first ticket assigned (key_of_keyedFrame framed) packed small encoded frame

end Link

end Multiplex
