import Multiplex.Proofs.Acts

/-!
# The phases of a link and of its loops

What the phase of a link, the sign to stop, the seal of its table, its queue and the positions of
its two loops have to do with each other (`Link.Phased`). A fresh link is phased, and every
elementary change keeps it so (`Link.Phased.change`).
-/

namespace Multiplex

variable {M : Type}

/-- The writer takes requests from its queue, or works on one it took. -/
def Writer.isServing : Writer → Bool
  | .idle | .writing _ _ | .flushing _ => true
  | .closing | .ended _ => false

/-- The writer has crashed. -/
def Writer.isCrashed : Writer → Bool
  | .ended (.crashed _) => true
  | _ => false

theorem Writer.isServing_of_request? {writer : Writer} {request : Request}
    (h : writer.request? = some request) :
    writer.isServing = true ∧ writer.isCrashed = false ∧ writer.isEnded = false := by
  cases writer with
  | writing _ _ | flushing _ => exact ⟨rfl, rfl, rfl⟩
  | idle | closing | ended _ => cases h

theorem Writer.isCrashed_iff {writer : Writer} :
    writer.isCrashed = true ↔ ∃ text, writer = .ended (.crashed text) := by
  cases writer with
  | ended how => cases how <;> simp [isCrashed]
  | _ => simp [isCrashed]

theorem Writer.isEnded_of_isCrashed {writer : Writer} (h : writer.isCrashed = true) :
    writer.isEnded = true := by
  obtain ⟨text, rfl⟩ := isCrashed_iff.1 h
  rfl

theorem Writer.not_serving_of_isEnded {writer : Writer} (h : writer.isEnded = true) :
    writer.isServing = false := by
  cases writer with
  | ended how => rfl
  | _ => cases h

namespace Link

/-- The phase of a link agrees with its table, its queue and its loops. -/
structure Phased (link : Link M) : Prop where
  stopAsked_iff : link.stopAsked = true ↔ link.phase ≠ .active
  isSealed_iff : link.table.isSealed = true ↔ link.phase ≠ .active
  slots_eq_nil : link.phase ≠ .active → link.table.slots = []
  isOpen_iff : link.queueOpen = true ↔ link.writer.isServing = true
  queue_eq_nil : link.queueOpen = false → link.queue = []
  inactive_of_closing : link.writer.isServing = false → link.writer.isCrashed = false →
    link.phase ≠ .active
  inactive_of_ended : link.reader = .ended none → link.phase ≠ .active
  ended_of_closed : link.phase = .closed →
    link.writer.isEnded = true ∧ link.reader.isEnded = true
  isCrashed_of_poisoned : link.transport.poisoned = true → link.writer.isCrashed = true

theorem phased_fresh : (fresh : Link M).Phased := by
  constructor <;> simp [fresh, Table.empty, Writer.isServing]

variable {wiring : Wiring M} {act : Act M} {link next : Link M}

theorem Phased.unsealed (phased : link.Phased) (active : link.phase = .active) :
    link.table.isSealed = false := by
  rw [← Bool.not_eq_true, phased.isSealed_iff]
  exact not_not_intro active

theorem Phased.synced (phased : link.Phased) : link.Synced :=
  ⟨phased.stopAsked_iff, phased.unsealed⟩

/-- A writer that serves has not ended, nor has its link closed. -/
theorem Phased.serving (phased : link.Phased) (serving : link.writer.isServing = true) :
    link.queueOpen = true ∧ link.writer.isCrashed ≠ true ∧ link.phase ≠ .closed := by
  have unended : link.writer.isEnded ≠ true := fun ended => by
    rw [Writer.not_serving_of_isEnded ended] at serving
    cases serving
  exact ⟨phased.isOpen_iff.2 serving, fun crashed => unended (Writer.isEnded_of_isCrashed crashed),
    fun closed => unended (phased.ended_of_closed closed).1⟩

/-- While the writer goes on serving, entries and requests may go. -/
theorem Phased.of_serving (phased : link.Phased) (serving : link.writer.isServing = true)
    (serving' : next.writer.isServing = true) (phase : next.phase = link.phase)
    (stopAsked : next.stopAsked = link.stopAsked)
    (isSealed : next.table.isSealed = link.table.isSealed)
    (slots : link.phase ≠ .active → next.table.slots = [])
    (isOpen : next.queueOpen = link.queueOpen) (reader : next.reader = link.reader)
    (poisoned : next.transport.poisoned = link.transport.poisoned) : next.Phased := by
  obtain ⟨opened, uncrashed, unclosed⟩ := phased.serving serving
  refine ⟨?_, ?_, ?_, ?_, ?_, ?_, ?_, ?_, ?_⟩
  · rw [stopAsked, phase]
    exact phased.stopAsked_iff
  · rw [isSealed, phase]
    exact phased.isSealed_iff
  · rw [phase]
    exact slots
  · rw [isOpen, opened, serving']
  · rw [isOpen, opened]
    intro shut
    cases shut
  · rw [serving']
    intro idle
    cases idle
  · rw [reader, phase]
    exact phased.inactive_of_ended
  · rw [phase]
    intro closed
    exact absurd closed unclosed
  · rw [poisoned]
    intro poison
    exact absurd (phased.isCrashed_of_poisoned poison) uncrashed

theorem Phased.change (change : Change wiring act link next) (phased : link.Phased) :
    next.Phased := by
  have erased (key : String) (inactive : link.phase ≠ .active) :
      (link.table.erase key).slots = [] := by
    simp [Table.erase, phased.slots_eq_nil inactive]
  have serves {request : Request} (working : link.writer.request? = some request) :=
    (Writer.isServing_of_request? working).1
  have opens {buffer : Bytes} {part : Part} (running : link.reader = .running buffer part)
      (closed : link.phase = .closed) : False := by
    have ended := (phased.ended_of_closed closed).2
    rw [running] at ended
    cases ended
  -- whole for the lemmas on a serving writer, in parts for the other cases
  have phased' := phased
  obtain ⟨asked, isSealed, slots, isOpen, queue, closing, ended, closed, poisoned⟩ := phased
  cases change with
  | aside only wire same =>
    exact ⟨asked, isSealed, slots, isOpen, queue, closing, ended, closed, fun poison =>
      poisoned (same.symm.trans poison)⟩
  | drain active =>
    refine ⟨by simp, by simp, fun _ => rfl, isOpen, queue, ?_, by simp, by simp, poisoned⟩
    exact fun _ _ => by simp
  -- both loops must have ended, which is what a closed link promises
  | closeDown draining writer reader =>
    have inactive : link.phase ≠ .active := by simp [draining]
    refine ⟨?_, ?_, fun _ => slots inactive, isOpen, queue, by simp, by simp, ?_, poisoned⟩
    · simp [asked.2 inactive]
    · simp [isSealed.2 inactive]
    · intro _
      rw [writer, reader]
      exact ⟨rfl, rfl⟩
  | enqueue member task active opened room =>
    refine ⟨asked, isSealed, slots, isOpen, ?_, closing, ended, closed, poisoned⟩
    intro shut
    rw [opened] at shut
    cases shut
  | withdraw => exact ⟨asked, isSealed, erased _, isOpen, queue, closing, ended, closed, poisoned⟩
  | read running =>
    refine ⟨asked, isSealed, slots, isOpen, queue, closing, ?_,
      fun past => (opens running past).elim, poisoned⟩
    intro past
    cases past
  | claimed | late =>
    exact ⟨asked, isSealed, erased _, isOpen, queue, closing, ended, closed, poisoned⟩
  | endReading inactive running =>
    exact ⟨asked, isSealed, slots, isOpen, queue, closing, fun _ => inactive,
      fun past => (opens running past).elim, poisoned⟩
  | crashReading running cause =>
    refine ⟨asked, isSealed, slots, isOpen, queue, closing, ?_,
      fun past => (opens running past).elim, poisoned⟩
    intro past
    cases past
  -- an idle writer still served, so it cannot have crashed, nor can the link be closed
  | stopWriting inactive idle =>
    obtain ⟨-, uncrashed, unclosed⟩ := phased'.serving (by rw [idle, Writer.isServing])
    exact ⟨asked, isSealed, slots, by simp [Writer.isServing], fun _ => rfl, fun _ _ => inactive,
      ended, fun past => absurd past unclosed, fun poison => absurd (poisoned poison) uncrashed⟩
  | crashWriting active working =>
    refine ⟨asked, isSealed, slots, by simp [Writer.isServing], fun _ => rfl, ?_, ended, ?_,
      fun _ => rfl⟩
    -- a writer that crashes leaves the link in its phase
    · intro _ uncrashed
      cases uncrashed
    · simp [active]
  | crashClosing shutting =>
    have inactive := closing (by rw [shutting, Writer.isServing]) (by rw [shutting]; rfl)
    refine ⟨asked, isSealed, slots, ?_, queue, fun _ _ => inactive, ended, ?_, fun _ => rfl⟩
    · rw [isOpen, shutting, Writer.isServing, Writer.isServing]
    · exact fun past => ⟨rfl, (closed past).2⟩
  | endWriting shutting quiet =>
    have inactive := closing (by rw [shutting, Writer.isServing]) (by rw [shutting]; rfl)
    refine ⟨asked, isSealed, slots, ?_, queue, fun _ _ => inactive, ended, ?_, ?_⟩
    · rw [isOpen, shutting, Writer.isServing, Writer.isServing]
    · exact fun past => ⟨rfl, (closed past).2⟩
    -- a writer that is shutting down has not crashed, so the transport is not poisoned
    · intro poison
      have crashed := poisoned poison
      rw [shutting] at crashed
      cases crashed
  | refuse active idle =>
    have serving : link.writer.isServing = true := by rw [idle, Writer.isServing]
    exact phased'.of_serving serving serving rfl rfl rfl slots rfl rfl rfl
  | skip active idle =>
    have serving : link.writer.isServing = true := by rw [idle, Writer.isServing]
    exact phased'.of_serving serving serving rfl rfl rfl (erased _) rfl rfl rfl
  | register active idle =>
    have serving : link.writer.isServing = true := by rw [idle, Writer.isServing]
    exact phased'.of_serving serving rfl rfl rfl rfl (fun inactive => absurd active inactive)
      rfl rfl rfl
  | accept active writing | flush active writing | sent active writing =>
    have serving : link.writer.isServing = true := by rw [writing, Writer.isServing]
    exact phased'.of_serving serving rfl rfl rfl rfl slots rfl rfl rfl
  | fail active working | interrupt inactive working =>
    exact phased'.of_serving (serves working) rfl rfl rfl rfl (erased _) rfl rfl rfl
  | _ => exact ⟨asked, isSealed, slots, isOpen, queue, closing, ended, closed, poisoned⟩

/-- Only the writer moves the writer. -/
theorem writer_of_change (change : Change wiring act link next) (elsewhere : act ≠ .write) :
    next.writer = link.writer := by
  cases change with
  | stopWriting | refuse | skip | register | accept | flush | sent | fail | interrupt
  | crashWriting | crashClosing | endWriting => exact absurd (by assumption) elsewhere
  | _ => rfl

end Link

end Multiplex
