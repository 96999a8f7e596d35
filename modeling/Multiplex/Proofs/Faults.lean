import Multiplex.Proofs.Attempts

/-!
# Attempts that fail

What the writer makes of a link when the transport fails to take a frame or to flush it
(`FailedWrite`), and who returns such a failure: a call returns it only for an attempt at its own
request, and each attempt at most to one call (`traced_of_run`).
-/

namespace Multiplex.Link

variable {M : Type}

/-- Whoever has returned that a frame could not be written has done so for an attempt at its own
request. No request was attempted twice, and no two calls returned for one request. -/
structure Traced (wiring : Wiring M) (acts : List (Act M)) (final : Link M) : Prop where
  attempted : ∀ {number : Nat} {ticket : Ticket} {key : String} {source : IoError},
    .returned number (some ticket) (.failed (.writeFailed key source)) ∈ final.history →
      ∃ request, ⟨request, some source⟩ ∈ attempts wiring fresh acts ∧
        request.ticket = ticket ∧ request.key = key
  once : ((attempts wiring fresh acts).map fun attempt => attempt.request.ticket).Nodup
  one : ∀ {number number' : Nat} {ticket : Ticket} {result result' : Result M},
    .returned number (some ticket) result ∈ final.history →
      .returned number' (some ticket) result' ∈ final.history → number = number'

variable {wiring : Wiring M} {act : Act M} {acts : List (Act M)} {link next final : Link M}
  {request : Request} {error : IoError} {ticket : Ticket} {key : String} {source : IoError}

/-! ## The step -/

/-- What a failed write makes of a link. -/
inductive FailedWrite (wiring : Wiring M) (link : Link M) (request : Request) (error : IoError) :
    Link M → Prop
  | stays {told : List Ticket} (stays : wiring.config.closeOnWriteFailure = false) :
      FailedWrite wiring link request error
        { link with
          writer := .idle
          table := link.table.erase request.key
          exchanges :=
            link.exchanges.failAt link.table request.key (.writeFailed request.key error)
          told
          stats := { link.stats with writeFailures := link.stats.writeFailures + 1 }
          history := .writeFailed request.ticket request.key error :: link.history }
  | falls {told : List Ticket} {remarks : List (Event M)}
      (falls : wiring.config.closeOnWriteFailure = true) (only : Remarks remarks) :
      FailedWrite wiring link request error
        { link with
          phase := .draining
          stopAsked := true
          writer := .idle
          table := ⟨[], true⟩
          exchanges :=
            (link.exchanges.failAt link.table request.key
              (.writeFailed request.key error)).closeAll
                ((link.table.erase request.key).slots.map Prod.snd)
          told
          stats :=
            { link.stats with
              writeFailures := link.stats.writeFailures + 1
              drained := link.stats.drained + (link.table.erase request.key).slots.length }
          history := remarks ++ .draining (.writeFailure (.writeFailed request.key error)) ::
            .writeFailed request.ticket request.key error :: link.history }

theorem failWriting_fails (wiring : Wiring M) (active : link.phase = .active) (request : Request)
    (error : IoError) :
    FailedWrite wiring link request error (failWriting wiring link request error) := by
  obtain ⟨told, eq⟩ := failKey_eq
    ({ link with
        stats := { link.stats with writeFailures := link.stats.writeFailures + 1 }
        writer := .idle }.note (.writeFailed request.ticket request.key error))
    request.key (.writeFailed request.key error)
  unfold failWriting
  dsimp only
  generalize failKey _ _ _ = failed at eq
  split
  · next falls =>
    have active' : failed.phase = .active := by
      rw [eq]
      exact active
    obtain ⟨told', remarks, only, drained⟩ :=
      drain_of_active active' (.writeFailure (.writeFailed request.key error))
    rw [drained, eq]
    exact .falls falls only
  · next stays =>
    rw [eq]
    exact .stays (by simpa using stays)

/-! ## Who returns that a frame could not be written -/

/-- Whoever has returned that a frame could not be written has an event to show for it. -/
def Evident (link : Link M) : Prop :=
  ∀ {number : Nat} {ticket : Ticket} {key : String} {source : IoError},
    .returned number (some ticket) (.failed (.writeFailed key source)) ∈ link.history →
      .writeFailed ticket key source ∈ link.history

theorem Evident.change (change : Change wiring act link next) (consistent : link.Consistent wiring)
    (evident : link.Evident) : next.Evident := by
  intro number ticket key source returned
  have grows := Grows.of_change change consistent.sound.owned
  apply grows.mem_history
  rcases returned_of_change change returned with
    old | ⟨call, request, handed, timer, -, -, -, rfl, returns⟩
  · exact evident old
  · generalize result : Result.failed (LinkError.writeFailed key source) = told at returns
    cases returns with
    | turnedAway | late => cases result
    | @outcome outcome there =>
      cases outcome with
      | ok message => cases result
      | error error =>
        cases result
        rcases consistent.blamed.error there with
          closed | ⟨key', source', same, failed⟩ | ⟨key', same, -⟩
        · cases closed
        · cases same
          exact failed
        · cases same

theorem evident_of_run (run : follow? wiring fresh acts = some final) : final.Evident := by
  refine consistent_fresh.follow_keeps (motive := Evident) Evident.change run ?_
  intro number ticket key source member
  simp [fresh] at member

/-- A change that does not count a failed write is not one. -/
theorem writeFailures_of_change (change : Change wiring act link next) (ticket : Ticket)
    (key : String) (source : IoError) :
    next.stats.writeFailures = link.stats.writeFailures + 1 ∨
      next.stats.writeFailures = link.stats.writeFailures ∧
        (.writeFailed ticket key source ∈ next.history →
          .writeFailed ticket key source ∈ link.history) := by
  cases change with
  | aside only => exact .inr ⟨rfl, only.mem_of_append rfl⟩
  | fail => exact .inl rfl
  | _ => exact .inr ⟨rfl, by simp⟩

theorem writeFailed_of_uncounted (sound : link.Sound) (moved : act? wiring link act = some next)
    (same : next.stats.writeFailures = link.stats.writeFailures)
    (member : .writeFailed ticket key source ∈ next.history) :
    .writeFailed ticket key source ∈ link.history := by
  have during : link.stats.writeFailures < next.stats.writeFailures ∨
      next.stats.writeFailures = link.stats.writeFailures ∧
        (.writeFailed ticket key source ∈ next.history →
          .writeFailed ticket key source ∈ link.history) := by
    refine sound.keeps (motive := fun mid =>
      link.stats.writeFailures < mid.stats.writeFailures ∨
        mid.stats.writeFailures = link.stats.writeFailures ∧
          (.writeFailed ticket key source ∈ mid.history →
            .writeFailed ticket key source ∈ link.history))
      (fun {mid after} change _ before => ?_) moved (.inr ⟨rfl, id⟩)
    rcases writeFailures_of_change change ticket key source with more | ⟨kept, old⟩
    · exact .inl (by omega)
    · rw [kept]
      exact before.imp_right fun both => ⟨both.1, both.2 ∘ old⟩
  rcases during with more | ⟨-, old⟩
  · omega
  · exact old member

theorem FailedWrite.eq_of_writeFailed (failed : FailedWrite wiring link request error next)
    (member : .writeFailed ticket key source ∈ next.history) :
    .writeFailed ticket key source ∈ link.history ∨
      source = error ∧ request.ticket = ticket ∧ request.key = key := by
  have new : .writeFailed ticket key source ∈
      .writeFailed request.ticket request.key error :: link.history := by
    cases failed with
    | stays => exact member
    | falls falls only =>
      rcases List.mem_cons.1 (only.mem_of_append rfl member) with draining | rest
      · cases draining
      · exact rest
  rcases List.mem_cons.1 new with same | old
  · cases same
    exact .inr ⟨rfl, rfl, rfl⟩
  · exact .inl old

/-- A failed write is the end of an attempt. -/
theorem writeFailed_of_act (sound : link.Sound) (moved : act? wiring link act = some next)
    (member : .writeFailed ticket key source ∈ next.history) :
    .writeFailed ticket key source ∈ link.history ∨
      ∃ request, link.attempt? act = some ⟨request, some source⟩ ∧ request.ticket = ticket ∧
        request.key = key := by
  have counted := congrArg Output.failures (output_of_act sound moved)
  cases ended : link.attempt? act with
  | none =>
    rw [ended] at counted
    exact .inl (writeFailed_of_uncounted sound moved counted member)
  | some attempt =>
    rw [ended] at counted
    obtain ⟨request, fault⟩ := attempt
    cases fault with
    | none => exact .inl (writeFailed_of_uncounted sound moved counted member)
    | some error =>
      obtain ⟨-, unasked, -, eq⟩ := act?_of_attempt wiring ended
      have failed := failWriting_fails wiring (sound.phased.synced.unasked_iff.1 unasked) request
        error
      obtain rfl := Option.some.inj (moved.symm.trans eq)
      refine (failed.eq_of_writeFailed member).imp_right ?_
      rintro ⟨rfl, same⟩
      exact ⟨request, rfl, same⟩

theorem attempt_of_writeFailed (sound : link.Sound) (run : follow? wiring link acts = some final)
    (member : .writeFailed ticket key source ∈ final.history) :
    .writeFailed ticket key source ∈ link.history ∨
      ∃ request, ⟨request, some source⟩ ∈ attempts wiring link acts ∧ request.ticket = ticket ∧
        request.key = key := by
  induction acts generalizing link with
  | nil =>
    cases run
    exact .inl member
  | cons act rest ih =>
    obtain ⟨next, moved, onward⟩ := follow?_cons.1 run
    rw [attempts_cons moved]
    rcases ih (sound.after moved) onward with before | ⟨request, inside, same⟩
    · rcases writeFailed_of_act sound moved before with old | ⟨request, ended, same⟩
      · exact .inl old
      · refine .inr ⟨request, List.mem_append_left _ ?_, same⟩
        rw [ended]
        exact List.mem_singleton_self _
    · exact .inr ⟨request, List.mem_append_right _ inside, same⟩

/-- Failures are returned where they belong in every run. -/
theorem traced_of_run (run : follow? wiring fresh acts = some final) :
    Traced wiring acts final where
  attempted returned := by
    have event := evident_of_run run returned
    rcases attempt_of_writeFailed sound_fresh run event with old | attempted
    · simp [fresh] at old
    · exact attempted
  once := attempts_once run
  one := (consistent_of_run run).accounted.one

end Multiplex.Link
