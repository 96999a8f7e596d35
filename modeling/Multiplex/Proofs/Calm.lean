import Multiplex.Proofs.Stream
import Mathlib.Data.List.Induction

/-!
# Calm runs

In a calm run nobody closes the link, cancels a call or gives up the handle, nothing but bytes
arrives, and the transport may stall but does not fail. A link can drain then only for a reason that
its reader gives (`Link.Calm`).
-/

namespace Multiplex

variable {M : Type}

/-- The transport answers, or leaves its writer waiting. -/
def Answer.isGentle : Answer → Bool
  | .done | .stalled => true
  | .fault _ | .crashes _ => false

/-- The answer leaves its writer in one piece. -/
def Answer.isSafe : Answer → Bool
  | .crashes _ => false
  | _ => true

/-- The transport accepts what is written to it, or stalls, and it crashes nobody. -/
structure Transport.Gentle (transport : Transport) : Prop where
  stop : transport.stop = .stalled
  flush : transport.flush.isGentle = true
  shutdown : transport.shutdown.isSafe = true

/-- The change lets a transport stall at worst, as long as it is not shut down, and fail at worst
when it is. -/
def TransportChange.isGentle (change : TransportChange) : Bool :=
  (match change.write with
    | some (_, stop) => stop = .stalled
    | none => true) &&
  change.flush.all Answer.isGentle && change.shutdown.all Answer.isSafe

/-- The act ends nothing, cancels nothing and makes nothing fail. -/
def Act.isCalm : Act M → Bool
  | .play .close | .play (.abort _) | .play .dropHandle | .play (.arrive .finish)
  | .play (.arrive (.fault _)) => false
  | .play (.transport change) => change.isGentle
  | _ => true

namespace Link

variable {wiring : Wiring M} {act : Act M} {acts : List (Act M)} {link next final : Link M}

/-! ## What a calm link is spared -/

/-- The user holds the link, its writer has not crashed and has given up no frame, and it does not
drain for a reason other than the reader's. -/
structure Calm (link : Link M) : Prop where
  handle : link.handle = true
  uncrashed : link.writer.isCrashed = false
  unfailed : ∀ ticket key source, .writeFailed ticket key source ∉ link.history
  readers : ∀ reason, .draining reason ∈ link.history → reason.isReaders = true

theorem calm_fresh : (fresh : Link M).Calm := by
  constructor
  · rfl
  · rfl
  · intro ticket key source member
    simp [fresh] at member
  · intro reason member
    simp [fresh] at member

theorem gentle_of_change (change : Change wiring act link next)
    (other : ∀ change, act ≠ .play (.transport change)) (gentle : link.transport.Gentle) :
    next.transport.Gentle := by
  cases change with
  | aside _ _ _ sink =>
    have same := sink other
    simp only [Transport.sink, Prod.mk.injEq] at same
    obtain ⟨-, stop, flush, shutdown⟩ := same
    exact ⟨stop.trans gentle.stop, flush ▸ gentle.flush, shutdown ▸ gentle.shutdown⟩
  | _ => exact ⟨gentle.stop, gentle.flush, gentle.shutdown⟩

theorem gentle_apply {change : TransportChange} (calm : change.isGentle = true)
    {transport : Transport} (gentle : transport.Gentle) : (change.apply transport).Gentle := by
  obtain ⟨write, flush, shutdown⟩ := change
  rw [TransportChange.isGentle, Bool.and_eq_true, Bool.and_eq_true] at calm
  obtain ⟨⟨writes, flushes⟩, shuts⟩ := calm
  have kept {old : Answer} {good : Answer → Bool} (given : Option Answer)
      (calm : given.all good = true) (before : good old = true) :
      good (given.getD old) = true := by
    cases given with
    | none => exact before
    | some answer => exact calm
  refine ⟨?_, ?_, ?_⟩
  · cases write with
    | none => exact gentle.stop
    | some given =>
      have stalls : given.2 = .stalled := by simpa using writes
      exact stalls
  · cases write <;> exact kept flush flushes gentle.flush
  · cases write <;> exact kept shutdown shuts gentle.shutdown

theorem gentle_of_act (sound : link.Sound) (calmly : act.isCalm = true)
    (moved : act? wiring link act = some next) (gentle : link.transport.Gentle) :
    next.transport.Gentle := by
  by_cases changes : ∃ change, act = .play (.transport change)
  · obtain ⟨change, rfl⟩ := changes
    cases moved
    exact gentle_apply calmly gentle
  · exact sound.keeps (motive := fun mid => mid.transport.Gentle)
      (fun change _ gentle =>
        gentle_of_change change (fun other asked => changes ⟨other, asked⟩) gentle) moved gentle

theorem Calm.change (change : Change wiring act link next) (calmly : act.isCalm = true)
    (gentle : act = .write → link.transport.Gentle) (sound : link.Sound) (calm : link.Calm) :
    next.Calm := by
  obtain ⟨handle, uncrashed, unfailed, readers⟩ := calm
  have plain (new : List (Event M)) (history : next.history = new ++ link.history)
      (quiet : ∀ event ∈ new, (∀ ticket key source, event ≠ .writeFailed ticket key source) ∧
        ∀ reason, event ≠ .draining reason)
      (held : next.handle = link.handle) (crash : next.writer.isCrashed = false) : next.Calm := by
    refine ⟨held.trans handle, crash, ?_, ?_⟩
    · intro ticket key source member
      rw [history] at member
      rcases List.mem_append.1 member with recent | old
      · exact (quiet _ recent).1 ticket key source rfl
      · exact unfailed ticket key source old
    · intro reason member
      rw [history] at member
      rcases List.mem_append.1 member with recent | old
      · exact absurd rfl ((quiet _ recent).2 reason)
      · exact readers reason old
  cases change with
  | aside only _ _ _ _ held =>
    refine plain _ rfl ?_ (held ?_) uncrashed
    · intro event member
      have remark := only event member
      constructor <;> rintro _ <;> intros <;> rintro rfl <;> cases remark
    · rintro rfl
      cases calmly
  | @drain reason active cause =>
    refine ⟨handle, uncrashed, ?_, ?_⟩
    · intro ticket key source member
      exact unfailed ticket key source (by simpa using member)
    · intro other member
      rcases List.mem_cons.1 member with new | old
      · cases new
        cases cause with
        | closed asked =>
          rw [asked] at calmly
          cases calmly
        | released _ gone =>
          rw [handle] at gone
          cases gone
        | finished | unreadable => rfl
        | unwritable _ _ failed =>
          obtain ⟨ticket, key, source, failed⟩ := failed
          exact absurd failed (unfailed ticket key source)
        -- a writer that is over without a crash has waited for the end of the active phase
        | exited _ writer =>
          exact absurd active (sound.phased.inactive_of_closing
            (Writer.not_serving_of_isEnded writer) uncrashed)
      · exact readers other old
  | fail _ _ asked unwilling =>
    obtain ⟨stop, flush, -⟩ := gentle asked
    rcases unwilling with fails | fails
    · exact absurd stop fails
    · rw [fails] at flush
      cases flush
  | crashWriting _ _ asked cause =>
    obtain ⟨stop, flush, -⟩ := gentle asked
    rcases cause with crashes | crashes
    · rw [stop] at crashes
      cases crashes
    · rw [crashes] at flush
      cases flush
  | crashClosing _ asked answer =>
    have safe := (gentle asked).shutdown
    rw [answer] at safe
    cases safe
  | @endWriting how _ quiet =>
    refine plain [] rfl (by simp) rfl ?_
    cases how with
    | crashed text => exact absurd rfl (quiet text)
    | done | fault => rfl
  | stopWriting | interrupt | accept | flush =>
    exact plain [] rfl (by simp) rfl rfl
  | sent | register => exact plain [_] rfl (by simp) rfl rfl
  | skip | claimed => exact plain [_, _] rfl (by simp) rfl uncrashed
  | issue | send | reject | enqueue | finish | conclude | refuse | undecoded | unclaimed | late =>
    exact plain [_] rfl (by simp) rfl uncrashed
  | _ => exact plain [] rfl (by simp) rfl uncrashed

/-- What every elementary change of a calm link keeps, a calm act keeps. -/
theorem Calm.keeps {motive : Link M → Prop} (calm : link.Calm)
    (consistent : link.Consistent wiring) (calmly : act.isCalm = true)
    (gentle : link.transport.Gentle)
    (keeps : ∀ {link next : Link M}, Change wiring act link next → link.Consistent wiring →
      link.Calm → next.Calm → motive link → motive next)
    (moved : act? wiring link act = some next) (holds : motive link) : next.Calm ∧ motive next := by
  -- the user may change the transport, but then the writer has no part in the act
  have all := consistent.keeps
    (motive := fun mid => (act = .write → mid.transport.Gentle) ∧ mid.Calm ∧ motive mid)
    (fun change consistent all => by
      obtain ⟨gentle, calm, holds⟩ := all
      have calm' := calm.change change calmly gentle consistent.sound
      refine ⟨?_, calm', keeps change consistent calm calm' holds⟩
      intro asked
      refine gentle_of_change change ?_ (gentle asked)
      intro other same
      rw [asked] at same
      cases same)
    moved ⟨fun _ => gentle, calm, holds⟩
  exact all.2

theorem calm_of_run (run : follow? wiring fresh acts = some link)
    (calmly : ∀ act ∈ acts, act.isCalm = true) : link.Calm ∧ link.transport.Gentle := by
  induction acts using List.reverseRecOn generalizing link with
  | nil =>
    cases run
    exact ⟨calm_fresh, rfl, rfl, rfl⟩
  | append_singleton earlier act ih =>
    obtain ⟨mid, first, last⟩ := follow?_append.1 run
    obtain ⟨after, moved, done⟩ := follow?_cons.1 last
    cases done
    obtain ⟨before, own⟩ := List.forall_mem_append.1 calmly
    have own := own act (List.mem_singleton_self act)
    obtain ⟨calm, gentle⟩ := ih first before
    have consistent := consistent_of_run first
    have kept := calm.keeps (motive := fun _ => True) consistent own gentle
      (fun _ _ _ _ _ => trivial) moved trivial
    exact ⟨kept.1, gentle_of_act consistent.sound own moved gentle⟩

/-- What a reader has made of its stream is not spoiled by anybody else. -/
theorem Calm.unspoiled (calm : link.Calm) (sound : link.Sound) : ¬link.Spoiled := by
  rintro (⟨reason, member, other⟩ | ⟨poisoned, -⟩)
  · rw [calm.readers reason member] at other
    cases other
  · have crashed := sound.phased.isCrashed_of_poisoned poisoned
    rw [calm.uncrashed] at crashed
    cases crashed

/-- As long as a calm link is active, its writer takes requests. -/
theorem Calm.isOpen (calm : link.Calm) (sound : link.Sound) (active : link.phase = .active) :
    link.queueOpen = true := by
  rw [sound.phased.isOpen_iff, ← Bool.not_eq_false]
  exact fun idle => sound.phased.inactive_of_closing idle calm.uncrashed active

end Link

end Multiplex
