import Multiplex.Proofs.Handing
import Multiplex.Proofs.Settled

/-!
# What is played is a fair run

`Link.settle` lets the tasks of a link take their steps in one fixed order, and `Link.after` plays
operations with that order in between. Both are runs in which a place in the queue goes to the call
that is first in line (`follow?_settle`, `follow?_after`), so what holds of every fair run holds of
them.
-/

namespace Multiplex.Link

variable {M : Type} {wiring : Wiring M} {link next : Link M} {call : Call}

/-- A turn depends on who is first in line only as far as it is the call itself. -/
theorem turnOf?_congr {first first' : Option Nat}
    (same : first = some call.number ↔ first' = some call.number) :
    turnOf? wiring link first call = turnOf? wiring link first' call := by
  unfold turnOf?
  simp only [same]

/-- The turn of a call is an act, and whoever is not first in line is not favoured by it. -/
theorem act?_of_turnOf? (owned : link.Owned) (member : call ∈ link.calls)
    (moved : turnOf? wiring link link.next? call = some next) :
    ∃ act, act.isStep = true ∧ act? wiring link act = some next ∧
      ∀ number ∈ act.favoured?, link.next? = some number := by
  refine ⟨.turn call.number (link.next? = some call.number), rfl, ?_, ?_⟩
  · rw [act?, owned.find?_call member, Option.bind_some, ← moved]
    refine turnOf?_congr ?_
    by_cases own : link.next? = some call.number
    · simp [own]
    · simp [own]
  · intro number favoured
    by_cases own : link.next? = some call.number
    · simp only [own, decide_true, Act.favoured?, Option.mem_some_iff] at favoured
      rw [own, favoured]
    · simp [own, Act.favoured?] at favoured

theorem mem_dueCalls (member : call ∈ link.dueCalls) : call ∈ link.calls := by
  obtain ⟨⟨time, other⟩, inside, rfl⟩ := List.mem_map.1 member
  obtain ⟨before, there, due⟩ := List.mem_filterMap.1 (List.mem_mergeSort.1 inside)
  split at due
  · split at due
    · cases due
      exact there
    · cases due
  · cases due

theorem act?_of_callStep? (owned : link.Owned) (moved : callStep? wiring link = some next) :
    ∃ act, act.isStep = true ∧ act? wiring link act = some next ∧
      ∀ number ∈ act.favoured?, link.next? = some number := by
  unfold callStep? at moved
  simp only [Option.orElse_eq_orElse, Option.orElse_eq_or, Option.or_eq_some_iff] at moved
  rcases moved with told | ⟨-, due | ⟨-, rest⟩⟩
  · obtain ⟨ticket, -, turn⟩ := List.exists_of_findSome?_eq_some told
    obtain ⟨call, found, turn⟩ := Option.bind_eq_some_iff.1 turn
    exact act?_of_turnOf? owned (List.mem_of_find?_eq_some found) turn
  · obtain ⟨call, member, turn⟩ := List.exists_of_findSome?_eq_some due
    exact act?_of_turnOf? owned (mem_dueCalls member) turn
  · obtain ⟨call, member, turn⟩ := List.exists_of_findSome?_eq_some rest
    exact act?_of_turnOf? owned member turn

/-- A step of a link is a step of one of its tasks. -/
theorem act?_of_step? (owned : link.Owned) (moved : step? wiring link = some next) :
    ∃ act, act.isStep = true ∧ act? wiring link act = some next ∧
      ∀ number ∈ act.favoured?, link.next? = some number := by
  have unfavoured (act : Act M) (none : act.favoured? = none) :
      ∀ number ∈ act.favoured?, link.next? = some number := by
    rw [none]
    exact fun number => (nomatch ·)
  unfold step? at moved
  split at moved
  · next read =>
    cases moved
    exact ⟨.read, rfl, read, unfavoured _ rfl⟩
  · split at moved
    · next write =>
      cases moved
      exact ⟨.write, rfl, write, unfavoured _ rfl⟩
    · split at moved
      · next call =>
        cases moved
        exact act?_of_callStep? owned call
      · exact ⟨.supervise, rfl, moved, unfavoured _ rfl⟩

theorem follow?_stepMany (sound : link.Sound) (fuel : Nat) :
    ∃ acts, follow? wiring link acts = some (stepMany wiring fuel link) ∧
      Fair wiring link acts := by
  induction fuel generalizing link with
  | zero => exact ⟨[], rfl, trivial⟩
  | succ fuel ih =>
    unfold stepMany
    split
    · exact ⟨[], rfl, trivial⟩
    · next next moved =>
      obtain ⟨act, -, moved, first⟩ := act?_of_step? sound.owned moved
      obtain ⟨acts, run, fair⟩ := ih (sound.after moved)
      refine ⟨act :: acts, follow?_cons.2 ⟨next, moved, run⟩, first, fun next' moved' => ?_⟩
      rw [Option.some.inj (moved'.symm.trans moved)]
      exact fair

/-- Settling in the fixed order is a fair run. -/
theorem follow?_settle (wiring : Wiring M) (sound : link.Sound) :
    ∃ acts, follow? wiring link acts = some (link.settle wiring) ∧ Fair wiring link acts :=
  follow?_stepMany sound _

/-- Playing operations one after another, with the link settling in between, is a fair run. -/
theorem follow?_after (wiring : Wiring M) (operations : List (Operation M)) :
    ∃ acts, follow? wiring fresh acts = some (after wiring operations) ∧
      Fair wiring fresh acts := by
  -- by induction on the operations, each with its run of settling before it
  have plays (link : Link M) (before : List (Act M))
      (run : follow? wiring fresh before = some link) (fair : Fair wiring fresh before) :
      ∃ acts, follow? wiring fresh acts =
          some (operations.foldl (fun link operation => (perform wiring link operation).2) link) ∧
        Fair wiring fresh acts := by
    induction operations generalizing link before with
    | nil => exact ⟨before, run, fair⟩
    | cons operation rest ih =>
      have played : follow? wiring fresh (before ++ [.play operation]) =
          some (play wiring link operation).2 :=
        follow?_append.2 ⟨link, run, rfl⟩
      have fair' : Fair wiring fresh (before ++ [.play operation]) :=
        (fair_append run).2 ⟨fair, fun number => (nomatch ·), fun _ _ => trivial⟩
      obtain ⟨acts, settled, first⟩ := follow?_settle wiring (sound_of_run played)
      exact ih _ _ (follow?_append.2 ⟨_, played, settled⟩) ((fair_append played).2 ⟨fair', first⟩)
  obtain ⟨acts, settled, fair⟩ := follow?_settle wiring sound_fresh
  exact plays _ acts settled fair

end Multiplex.Link
