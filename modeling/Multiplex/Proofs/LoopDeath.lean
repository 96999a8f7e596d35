import Multiplex.Proofs.Settled

/-!
# The end of a loop

A loop that ends in order takes its link out of the active phase. A loop that crashes does not: the
supervisor waits for both loops, so a link whose reader alone has crashed stays active, and nobody
who waits for a reply on it is told.

Main statements: `noticesEnd_iff` says when the end of a loop goes unnoticed on a settled link, and
`unnoticed_crash` is a run in which it does.
-/

namespace Multiplex.Link

variable {M : Type}

/-- If a loop is over, the link has left its active phase, its table is sealed and empty, and no
call that sends is outstanding. -/
def NoticesEnd (link : Link M) : Prop :=
  link.reader.isEnded = true ∨ link.writer.isEnded = true →
    link.phase ≠ .active ∧ link.table.isSealed = true ∧ link.table.slots = [] ∧
      ∀ call ∈ link.calls, ∀ request handed timer, call.task ≠ .send request handed timer

/-- One loop has crashed, and the other is not over. A reader that crashes alone does so on a frame
that crashes the codec. -/
inductive CrashedAlone (wiring : Wiring M) (link : Link M) : Prop
  | reader {text : String} {payload : Bytes} (crashed : link.reader = .ended (some text))
      (running : link.writer.isEnded = false) (read : .received payload ∈ link.history)
      (cause : wiring.codec.unpack payload = .crashed text)
  | writer {text : String} (crashed : link.writer = .ended (.crashed text))
      (running : link.reader.isEnded = false)

variable {wiring : Wiring M} {act : Act M} {acts : List (Act M)} {link next : Link M}

/-- A reader that crashed met a poisoned transport, or a frame that crashes the codec. -/
def CrashExplained (wiring : Wiring M) (link : Link M) : Prop :=
  ∀ text, link.reader = .ended (some text) → link.transport.poisoned = true ∨
    ∃ payload, .received payload ∈ link.history ∧ wiring.codec.unpack payload = .crashed text

theorem CrashExplained.change (change : Change wiring act link next) (sound : link.Sound)
    (explained : link.CrashExplained wiring) : next.CrashExplained wiring := by
  have grows := Grows.of_change change sound.owned
  have kept (reader : next.reader = link.reader)
      (poisoned : next.transport.poisoned = link.transport.poisoned) :
      next.CrashExplained wiring := by
    intro text crashed
    rcases explained text (reader ▸ crashed) with poison | ⟨payload, read, cause⟩
    · exact .inl (poisoned.trans poison)
    · exact .inr ⟨payload, grows.mem_history read, cause⟩
  cases change with
  | aside only wire same => exact kept rfl same
  | read running => exact fun _ crashed => nomatch crashed
  | endReading inactive running => exact fun text crashed => nomatch crashed
  | crashReading running cause =>
    intro text crashed
    cases crashed
    exact cause
  | crashWriting | crashClosing => exact fun _ _ => .inl rfl
  | _ => exact kept rfl rfl

theorem crashExplained_of_run (run : follow? wiring fresh acts = some link) :
    link.CrashExplained wiring :=
  sound_fresh.follow_keeps CrashExplained.change run fun _ crashed => nomatch crashed

/-- On a settled link that is still active, the end of a loop is a crash of one loop alone. -/
theorem crashedAlone_of_ended (run : follow? wiring fresh acts = some link)
    (settled : Settled wiring link) (active : link.phase = .active)
    (ended : link.reader.isEnded = true ∨ link.writer.isEnded = true) :
    link.CrashedAlone wiring := by
  have sound := sound_of_run run
  have apart : ¬(link.reader.isEnded = true ∧ link.writer.isEnded = true) := by
    rintro ⟨reader, writer⟩
    have closed := (settled.closed_of_ended sound reader writer).1
    rw [active] at closed
    cases closed
  rcases ended with reader | writer
  · have running : link.writer.isEnded = false := by
      rw [← Bool.not_eq_true]
      exact fun writer => apart ⟨reader, writer⟩
    cases position : link.reader with
    | running buffer part =>
      rw [position] at reader
      cases reader
    | ended crash =>
      cases crash with
      -- a reader that ends in order does so after the active phase
      | none => exact absurd active (sound.phased.inactive_of_ended position)
      | some text =>
        -- a poisoned transport would mean that the writer has crashed too
        rcases crashExplained_of_run run text position with poison | ⟨payload, read, cause⟩
        · have crashed := sound.phased.isCrashed_of_poisoned poison
          rw [Writer.isEnded_of_isCrashed crashed] at running
          cases running
        · exact .reader position running read cause
  · have running : link.reader.isEnded = false := by
      rw [← Bool.not_eq_true]
      exact fun reader => apart ⟨reader, writer⟩
    cases crashed : link.writer.isCrashed with
    | false =>
      have idle : link.writer.isServing = false := Writer.not_serving_of_isEnded writer
      exact absurd active (sound.phased.inactive_of_closing idle crashed)
    | true =>
      obtain ⟨text, position⟩ := Writer.isCrashed_iff.1 crashed
      exact .writer position running

/-- The end of a loop goes unnoticed exactly on a settled link that is active although one of its
loops, and only one, has crashed. -/
theorem noticesEnd_iff (run : follow? wiring fresh acts = some link)
    (settled : Settled wiring link) :
    link.NoticesEnd ↔ ¬(link.phase = .active ∧ link.CrashedAlone wiring) := by
  have sound := sound_of_run run
  constructor
  · rintro notices ⟨active, crashed⟩
    have ended : link.reader.isEnded = true ∨ link.writer.isEnded = true := by
      cases crashed with
      | reader crashed running read cause => exact .inl (by rw [crashed, Reader.isEnded])
      | writer crashed running => exact .inr (by rw [crashed, Writer.isEnded])
    exact (notices ended).1 active
  · intro elsewhere ended
    have inactive : link.phase ≠ .active := fun active =>
      elsewhere ⟨active, crashedAlone_of_ended run settled active ended⟩
    exact ⟨inactive, sound.phased.isSealed_iff.2 inactive, sound.phased.slots_eq_nil inactive,
      fun call member request handed timer => settled.no_send_of_inactive sound inactive member⟩

/-! ## A reader that crashes alone -/

section Unnoticed

open Rehearsal

/-- A request is sent and written; then a frame arrives that crashes the codec. -/
def crashRun : List (Act Scripted) :=
  [.play (.send (scriptedMessage "000001") none), .turn 0 true, .write, .write, .write, .write,
    .play (.arrive (.chunk [0, 4, 0, 0, 66, 79, 79, 77])), .read, .read, .read]

/-- The link after that run. -/
def crashedLink : Link Scripted :=
  scriptedLink crashRun

theorem follow?_crashRun : follow? scriptedWiring fresh crashRun = some crashedLink :=
  follow?_scripted (by decide +kernel)

/-- The call of the crashed link, with its request. -/
def crashedCall : Call :=
  ⟨0, .send ⟨0, "000001", [0, 14, 0, 0, 48, 50, 48, 48, 0, 11, 0, 6, 48, 48, 48, 48, 48, 49]⟩ true
    none⟩

theorem crashedLink_eq : crashedLink.phase = .active ∧ crashedLink.writer = .idle ∧
    crashedLink.reader = .ended (some "scripted unpack panic") ∧ crashedLink.queue = [] ∧
    crashedLink.calls = [crashedCall] ∧ crashedLink.table.isSealed = false ∧
    (crashedLink.exchanges.poll 0).isNone = true := by
  decide +kernel

theorem settled_crashedLink : Settled scriptedWiring crashedLink := by
  obtain ⟨phase, writer, reader, queue, calls, -, unseen⟩ := crashedLink_eq
  have unasked := (sound_of_run follow?_crashRun).phased.synced.unasked_iff.2 phase
  refine settled_of ?_ ?_ ?_ (superviseStep?_eq_none (.inr ?_))
  · unfold readStep?
    rw [reader]
  · simp [writerStep?, writer, unasked, queue]
  · intro call member first
    rw [calls, List.mem_singleton] at member
    subst member
    simp [turnOf?, turn?, crashedCall, Option.isNone_iff_eq_none.1 unseen, expireIfDue]
  · rw [writer]
    rfl

/-- The codec crashes on a frame, and the reader with it. The link goes on as if it were active, and
its call waits for a reply that nobody will read. -/
theorem unnoticed_crash : ∃ (acts : List (Act Scripted)) (link : Link Scripted),
    follow? scriptedWiring fresh acts = some link ∧ Settled scriptedWiring link ∧
      link.phase = .active ∧ link.reader.isEnded = true ∧ link.table.isSealed = false ∧
      crashedCall ∈ link.calls ∧ ¬link.NoticesEnd := by
  obtain ⟨phase, -, reader, -, calls, open_, -⟩ := crashedLink_eq
  have ended : crashedLink.reader.isEnded = true := by rw [reader, Reader.isEnded]
  refine ⟨crashRun, crashedLink, follow?_crashRun, settled_crashedLink, phase, ended, open_, ?_, ?_⟩
  · rw [calls]
    exact List.mem_singleton_self _
  · exact fun notices => (notices (.inl ended)).1 phase

theorem noticesEnd_iff_crashedLink : follow? scriptedWiring fresh crashRun = some crashedLink ∧
    Settled scriptedWiring crashedLink ∧
    (crashedLink.NoticesEnd ↔
      ¬(crashedLink.phase = .active ∧ crashedLink.CrashedAlone scriptedWiring)) :=
  ⟨follow?_crashRun, settled_crashedLink, noticesEnd_iff follow?_crashRun settled_crashedLink⟩

end Unnoticed

end Multiplex.Link
