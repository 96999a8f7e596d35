import Multiplex.Proofs.Attempts
import Multiplex.Proofs.Correlation
import Multiplex.Proofs.Leaving
import Multiplex.Proofs.Replies

/-!
# The counters of a link

What a link counts can be recovered from its run: the frames that it read, the calls that returned
messages, the requests that it wrote or failed to write, and the entries that it failed when it left
its active phase. Each of them is counted once.

Main statement: `balanced_of_run`.
-/

namespace Multiplex.Link

variable {M : Type}

/-- The table at the moment at which the link left its active phase: `found` says what the act in
which this happened had done to it before, and `failed` that its entries were failed. -/
inductive LeftBehind (wiring : Wiring M) (acts : List (Act M)) (table : Table) : Prop
  | intro {earlier later : List (Act M)} {act : Act M} {mid next : Link M} {stats : Stats}
      (split : acts = earlier ++ act :: later) (run : follow? wiring fresh earlier = some mid)
      (moved : act? wiring mid act = some next) (active : mid.phase = .active)
      (left : next.phase ≠ .active) (found : AtDrain wiring act mid table stats)
      (failed : ∀ slot ∈ table.slots, mid.exchanges.poll slot.2 = none ∧
        next.exchanges.poll slot.2 = some (.error .closed))

/-- The counters of a link to which a run has led. -/
structure Balanced (wiring : Wiring M) (acts : List (Act M)) (link : Link M) : Prop where
  /-- Every frame had a message that was handed over or unmatched, except that the last one may have
  had none. -/
  frames : (readings link.history).length = link.stats.repliesMatched + link.stats.unmatched +
    ((readings link.history).getLast?.any wiring.spoils).toNat
  bytesReceived : link.stats.bytesReceived =
    ((readings link.history).map fun payload => wiring.framing.size + payload.length).sum
  /-- No call returns two messages. -/
  returners : ((replies link.history).map Prod.fst).Nodup
  repliesMatched : Settled wiring link → CancelsSettled wiring fresh acts →
    link.stats.repliesMatched = (replies link.history).length
  /-- No request is attempted twice. -/
  attempted : ((attempts wiring fresh acts).map fun attempt => attempt.request.ticket).Nodup
  requestsSent : link.stats.requestsSent = (flushed (attempts wiring fresh acts)).length
  bytesSent : link.stats.bytesSent =
    ((flushed (attempts wiring fresh acts)).map fun request => request.frame.length).sum
  writeFailures : link.stats.writeFailures = (unflushed (attempts wiring fresh acts)).length
  undrained : link.phase = .active → link.stats.drained = 0
  drained : link.phase ≠ .active →
    ∃ table, LeftBehind wiring acts table ∧ link.stats.drained = table.size

variable {wiring : Wiring M} {acts : List (Act M)} {link : Link M}

/-- An entry that an act finds in the table when it makes the link drain was there before. -/
theorem AtDrain.mem_slots {act : Act M} {table : Table} {stats : Stats} {slot : String × Ticket}
    (found : AtDrain wiring act link table stats) (member : slot ∈ table.slots) :
    slot ∈ link.table.slots := by
  cases found with
  | plain | undecodable => exact member
  | unwritable | withdrawn => exact List.mem_of_mem_filter member

/-- A link that is not active any more has counted what was left in its table. -/
theorem leftBehind_of_run (run : follow? wiring fresh acts = some link)
    (inactive : link.phase ≠ .active) :
    ∃ table, LeftBehind wiring acts table ∧ link.stats.drained = table.size := by
  obtain ⟨earlier, act, later, mid, next, split, run', moved, active, left, leaves, frozen⟩ :=
    exists_leaves run inactive
  have sound := (consistent_of_run run').sound
  obtain ⟨table, stats, found, counted, closed⟩ := leaves.drained
  refine ⟨table, ?_, by rw [frozen.stats, counted]⟩
  refine .intro split run' moved active left found fun slot member => ?_
  exact ⟨sound.owned.poll_of_slot (List.mem_map_of_mem (found.mem_slots member)),
    closed slot member⟩

/-- Every run leads to a link whose counters are right. -/
theorem balanced_of_run (run : follow? wiring fresh acts = some link) :
    Balanced wiring acts link := by
  have tallied := tallied_of_run run
  have output : link.stats.output = Output.add ⟨0, 0, 0⟩ (attempts wiring fresh acts) :=
    output_of_follow sound_fresh run
  refine
    { frames := ?frames
      bytesReceived := tallied.bytes
      returners := replies_nodup_of_run run
      repliesMatched := fun settled cancels => (replies_length run settled cancels).symm
      attempted := attempts_once run
      requestsSent := (congrArg Output.sent output).trans (Nat.zero_add _)
      bytesSent := (congrArg Output.bytes output).trans (Nat.zero_add _)
      writeFailures := (congrArg Output.failures output).trans (Nat.zero_add _)
      undrained := drained_eq_zero run
      drained := leftBehind_of_run run }
  rw [tallied.frames, (legible_of_run run).countP_spoils]

/-! ## A link with every counter above zero -/

section Counted

open Rehearsal

/-- Two requests are written, and the second call is cancelled. Then the reply to the first one
arrives, a frame that is unmatched and one on which the codec crashes; and a third request cannot be
written, so the link drains and settles. -/
def countedRun : List (Act Scripted) :=
  [.play (.send (scriptedMessage "000001") none), .turn 0 true, .write, .write, .write, .write,
    .play (.send (scriptedMessage "000002") none), .turn 1 true, .write, .write, .write, .write,
    .play (.abort 1),
    .play (.arrive
      (.chunk (scriptedFrame 49 ++ scriptedFrame 57 ++ [0, 4, 0, 0, 66, 79, 79, 77]))),
    .read, .read, .read, .read, .read, .read, .read, .turn 0 true,
    .play (.transport { write := some (some 5, .fault (.plain .brokenPipe)) }),
    .play (.send (scriptedMessage "000003") none), .turn 2 true, .write, .write, .write,
    .turn 2 true, .write, .write, .supervise]

/-- The link after that run. -/
def countedLink : Link Scripted :=
  scriptedLink countedRun

theorem countedLink_eq : countedLink.stats = ⟨2, 1, 1, 1, 1, 36, 44⟩ ∧
    Settled scriptedWiring countedLink ∧ CancelsSettled scriptedWiring fresh countedRun := by
  decide +kernel

theorem balanced_of_run_counted :
    follow? scriptedWiring fresh countedRun = some countedLink ∧
      Balanced scriptedWiring countedRun countedLink ∧
      countedLink.stats = ⟨2, 1, 1, 1, 1, 36, 44⟩ ∧ (replies countedLink.history).length = 1 := by
  have run : follow? scriptedWiring fresh countedRun = some countedLink :=
    follow?_scripted (by decide +kernel)
  obtain ⟨stats, settled, cancels⟩ := countedLink_eq
  have balanced := balanced_of_run run
  refine ⟨run, balanced, stats, ?_⟩
  rw [← balanced.repliesMatched settled cancels, stats]

end Counted

end Multiplex.Link
