import Multiplex.Proofs.Failures
import Multiplex.Proofs.Fates
import Multiplex.Proofs.Handover

/-!
# Every run leaves a consistent link

All the invariants of the modules before this one together, and that every run keeps them
(`consistent_of_run`).
-/

namespace Multiplex.Link

variable {M : Type} {wiring : Wiring M} {act : Act M} {acts : List (Act M)}
  {link next final : Link M}

/-- The parts of the link agree, and its history accounts for all of them. -/
structure Consistent (wiring : Wiring M) (link : Link M) : Prop where
  sound : link.Sound
  recorded : link.Recorded wiring
  answered : link.Answered wiring
  accounted : link.Accounted
  honest : link.Honest
  blamed : link.Blamed

theorem consistent_fresh : Consistent wiring (fresh : Link M) :=
  ⟨sound_fresh, recorded_fresh, answered_fresh, accounted_fresh, honest_fresh, blamed_fresh⟩

theorem Consistent.change (change : Change wiring act link next)
    (consistent : link.Consistent wiring) : next.Consistent wiring := by
  obtain ⟨sound, recorded, answered, accounted, honest, blamed⟩ := consistent
  exact ⟨sound.change change, recorded.change change sound, answered.change change sound recorded,
    accounted.change change sound, honest.change change sound accounted,
    blamed.change change sound recorded⟩

theorem Consistent.after (h : act? wiring link act = some next)
    (consistent : link.Consistent wiring) : next.Consistent wiring :=
  (act?_changes consistent.sound.phased.synced h).keeps Consistent.change consistent

theorem Consistent.follow (run : follow? wiring link acts = some final)
    (consistent : link.Consistent wiring) : final.Consistent wiring :=
  follow?_invariant Consistent.after run consistent

/-- An entry in the table is there under the key of its request. -/
theorem Consistent.key_of_slot (consistent : link.Consistent wiring) {key : String}
    {message : M} {request : Request} (member : (key, request.ticket) ∈ link.table.slots)
    (known : .prepared message request ∈ link.history) : request.key = key := by
  obtain ⟨split, prepared, -, -⟩ := consistent.answered.filed member
  have before := split ▸ List.mem_append_right _ (List.mem_cons_of_mem _ prepared)
  rw [(consistent.recorded.unique known before rfl).2]

/-- What is in the table has been registered. -/
theorem Consistent.registered_of_slot (consistent : link.Consistent wiring) {key : String}
    {ticket : Ticket} (member : (key, ticket) ∈ link.table.slots) :
    .registered ticket key ∈ link.history := by
  obtain ⟨split, -, -, -⟩ := consistent.answered.filed member
  rw [split]
  exact List.mem_append_right _ List.mem_cons_self

/-- Every link that a run leads to is consistent. -/
theorem consistent_of_run (run : follow? wiring fresh acts = some final) :
    final.Consistent wiring :=
  consistent_fresh.follow run

/-- What every elementary change of a consistent link keeps, every act keeps. -/
theorem Consistent.keeps {motive : Link M → Prop} (consistent : link.Consistent wiring)
    (keeps : ∀ {link next : Link M}, Change wiring act link next → link.Consistent wiring →
      motive link → motive next) (h : act? wiring link act = some next) (holds : motive link) :
    motive next :=
  ((act?_changes consistent.sound.phased.synced h).keeps
    (motive := fun link => link.Consistent wiring ∧ motive link)
    (fun change both => ⟨both.1.change change, keeps change both.1 both.2⟩)
    ⟨consistent, holds⟩).2

/-- What every elementary change of a consistent link keeps, every run keeps. -/
theorem Consistent.follow_keeps {motive : Link M → Prop} (consistent : link.Consistent wiring)
    (keeps : ∀ {act : Act M} {link next : Link M}, Change wiring act link next →
      link.Consistent wiring → motive link → motive next)
    (run : follow? wiring link acts = some final) (holds : motive link) : motive final :=
  (follow?_invariant (motive := fun link => link.Consistent wiring ∧ motive link)
    (fun moved both => ⟨both.1.after moved, both.1.keeps keeps moved both.2⟩)
    run ⟨consistent, holds⟩).2

end Multiplex.Link
