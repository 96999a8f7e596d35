import Multiplex.Link.Operation
import Multiplex.Rehearsal.Scripted

/-!
# Runs in any order

The tasks of a link, which are its reader, its writer, its calls and its supervisor, run beside each
other, and its user and its peer act at any time. A run is a list of acts in any order: each act is
one step of one task, or one operation (`Act`, `Link.follow?`). `Link.settle` fixes one order of the
steps; whatever holds after every run holds in particular for that order.

A link has settled when no task can make progress (`Link.Settled`).
-/

namespace Multiplex

variable {M : Type}

/-- What happens next on a link: one of its tasks takes a step, or an operation is played. -/
inductive Act (M : Type) where
  | read
  | write
  /-- The call of a number takes its turn; `first` says whether it is first in line for the writer's
  queue. -/
  | turn (call : Nat) (first : Bool)
  | supervise
  | play (operation : Operation M)

/-- The act is the step of a task. -/
def Act.isStep : Act M → Bool
  | .play _ => false
  | _ => true

/-- The act is the step of a task, or something arrives: the user does nothing, the transport
behaves as before, and no time passes. -/
def Act.isQuiet : Act M → Bool
  | .play (.arrive _) => true
  | .play _ => false
  | _ => true

namespace Link

/-- The link after an act; none if the task cannot move. -/
def act? (wiring : Wiring M) (link : Link M) : Act M → Option (Link M)
  | .read => readStep? wiring link
  | .write => writerStep? wiring link
  | .turn number first =>
    (link.calls.find? fun call => call.number = number).bind
      (turnOf? wiring link (if first then some number else none))
  | .supervise => link.superviseStep?
  | .play operation => some (play wiring link operation).2

/-- The link after a run; none if some task of it could not move. -/
def follow? (wiring : Wiring M) (link : Link M) : List (Act M) → Option (Link M)
  | [] => some link
  | act :: rest => (act? wiring link act).bind fun next => follow? wiring next rest

/-- No task of the link can make progress. -/
def Settled (wiring : Wiring M) (link : Link M) : Prop :=
  ∀ act : Act M, act.isStep = true → act? wiring link act = none

variable {wiring : Wiring M} {link next final : Link M}

theorem follow?_cons {act : Act M} {rest : List (Act M)} :
    follow? wiring link (act :: rest) = some final ↔
      ∃ next, act? wiring link act = some next ∧ follow? wiring next rest = some final :=
  Option.bind_eq_some_iff

theorem follow?_append {before later : List (Act M)} :
    follow? wiring link (before ++ later) = some final ↔
      ∃ next, follow? wiring link before = some next ∧ follow? wiring next later = some final := by
  induction before generalizing link with
  | nil => simp [follow?]
  | cons act rest ih =>
    simp only [List.cons_append, follow?_cons, ih]
    constructor
    · rintro ⟨first, moved, middle, run, later⟩
      exact ⟨middle, ⟨first, moved, run⟩, later⟩
    · rintro ⟨middle, ⟨first, moved, run⟩, later⟩
      exact ⟨first, moved, middle, run, later⟩

/-- What is left of a run after its beginning. -/
theorem follow?_rest {before later : List (Act M)} {mid : Link M}
    (first : follow? wiring link before = some mid)
    (run : follow? wiring link (before ++ later) = some final) :
    follow? wiring mid later = some final := by
  obtain ⟨mid', first', onward⟩ := follow?_append.1 run
  obtain rfl := Option.some.inj (first.symm.trans first')
  exact onward

/-- What every act keeps, every run keeps. -/
theorem follow?_invariant {motive : Link M → Prop}
    (keeps : ∀ {link next : Link M} {act : Act M}, act? wiring link act = some next →
      motive link → motive next)
    {acts : List (Act M)} (run : follow? wiring link acts = some final) (holds : motive link) :
    motive final := by
  induction acts generalizing link with
  | nil =>
    cases run
    exact holds
  | cons act rest ih =>
    obtain ⟨next, moved, later⟩ := follow?_cons.1 run
    exact ih later (keeps moved holds)

/-- A run that comes to something which was not so at first comes to it in one of its acts. -/
theorem exists_act_of_follow {motive : Link M → Prop} {acts : List (Act M)}
    (run : follow? wiring link acts = some final) (before : ¬motive link) (after : motive final) :
    ∃ earlier act later mid next, acts = earlier ++ act :: later ∧
      follow? wiring link earlier = some mid ∧ act? wiring mid act = some next ∧
      follow? wiring next later = some final ∧ ¬motive mid ∧ motive next := by
  induction acts generalizing link with
  | nil =>
    cases run
    exact absurd after before
  | cons act rest ih =>
    obtain ⟨next, moved, later⟩ := follow?_cons.1 run
    by_cases here : motive next
    · exact ⟨[], act, rest, link, next, rfl, rfl, moved, later, before, here⟩
    · obtain ⟨earlier, act', later', mid, next', split, run', moved', run'', before', after'⟩ :=
        ih later here
      refine ⟨act :: earlier, act', later', mid, next', by rw [split, List.cons_append], ?_, moved',
        run'', before', after'⟩
      exact follow?_cons.2 ⟨next, moved, run'⟩

/-! ## Runs to try things on -/

open Rehearsal

/-- Scripted messages, with headers and keys as a link has them by default. -/
def scriptedWiring : Wiring Scripted :=
  Setup.wiring ⟨Scripted.codec [], .vml, .field 11, {}⟩

/-- A message with a trace number. -/
def scriptedMessage (stan : String) : Scripted :=
  ⟨(Message.ofType "0200").withField 11 stan, [], []⟩

/-- The link after a run of scripted messages. -/
def scriptedLink (acts : List (Act Scripted)) : Link Scripted :=
  (follow? scriptedWiring fresh acts).getD fresh

theorem scriptedLink_eq {acts : List (Act Scripted)} {link : Link Scripted}
    (run : follow? scriptedWiring fresh acts = some link) : scriptedLink acts = link := by
  rw [scriptedLink, run, Option.getD_some]

/-- A scripted run that never gets stuck leads to its link. -/
theorem follow?_scripted {acts : List (Act Scripted)}
    (runs : (follow? scriptedWiring fresh acts).isSome = true) :
    follow? scriptedWiring fresh acts = some (scriptedLink acts) := by
  exact (Option.getD_of_ne_none (Option.isSome_iff_ne_none.1 runs) fresh).symm

end Link

end Multiplex
