import Multiplex.Proofs.Calm
import Multiplex.Proofs.Drafts
import Multiplex.Proofs.RoundTrip

/-!
# Frames that come back

A stream that begins like the frames of some drafts, one after another, reads as the messages of
these drafts as far as it goes (`parses_frames`, `parses_beginning`). So a calm link to which such a
stream comes stays active, and what its reader has read are the payloads of the first drafts
(`Link.reads_of_frames`).
-/

namespace Multiplex

variable {M : Type} {wiring : Wiring M} {draft : Draft M} {drafts : List (Draft M)} {bytes : Bytes}

/-- The frame of the draft without its header. -/
def Draft.payload (wiring : Wiring M) (draft : Draft M) : Bytes :=
  draft.frame.drop wiring.framing.size

/-- The frame of the draft reads as the draft's message, which has the draft's key. -/
structure Draft.ReadsBack (wiring : Wiring M) (draft : Draft M) : Prop where
  announces : wiring.Announces (draft.frame.take wiring.framing.size) (draft.payload wiring).length
  unpacked : wiring.codec.unpack (draft.payload wiring) = .message draft.message
  keyed : wiring.key draft.message = .ok draft.key

/-- Where every frame reads as its message, the frames of requests do. -/
theorem Wiring.Faithful.readsBack (faithful : wiring.Faithful) {stan : Stan} {originals : List M}
    (all : Link.enlist wiring stan originals = some drafts) :
    ∀ draft ∈ drafts, draft.ReadsBack wiring := by
  intro draft member
  have framed := Link.keyedFrame_of_enlist all draft member
  obtain ⟨header, payload, split, announces, unpacked⟩ :=
    faithful _ _ (Link.frameOf_of_keyedFrame framed)
  have first : draft.frame.take wiring.framing.size = header := by
    rw [split, List.take_left' announces.size]
  have later : draft.payload wiring = payload := by
    rw [Draft.payload, split, List.drop_left' announces.size]
  refine ⟨?_, ?_, Link.key_of_keyedFrame framed⟩
  · rw [first, later]
    exact announces
  · rw [later]
    exact unpacked

namespace Draft

variable {rest : Bytes}

theorem frame_eq (wiring : Wiring M) (draft : Draft M) :
    draft.frame.take wiring.framing.size ++ draft.payload wiring = draft.frame :=
  List.take_append_drop _ _

theorem ReadsBack.length_frame (reads : draft.ReadsBack wiring) :
    wiring.framing.size + (draft.payload wiring).length = draft.frame.length := by
  have whole := congrArg List.length (draft.frame_eq wiring)
  rwa [List.length_append, reads.announces.size] at whole

theorem ReadsBack.cut (reads : draft.ReadsBack wiring) (sized : 0 < wiring.framing.size) :
    wiring.cut (draft.frame ++ rest) = .frame (draft.payload wiring) rest := by
  rw [← draft.frame_eq wiring, List.append_assoc, reads.announces.cut_frame sized, Wiring.open,
    reads.unpacked]

/-- A byte string that is broken off inside the frame stops inside a part of a frame. -/
theorem ReadsBack.cut_beginning (reads : draft.ReadsBack wiring) (sized : 0 < wiring.framing.size)
    (within : bytes <+: draft.frame) (less : bytes.length < draft.frame.length) :
    ∃ part : Part, wiring.cut bytes = .stops part.stop := by
  by_cases none : bytes = []
  · exact ⟨.boundary, none ▸ wiring.cut_nil⟩
  by_cases short : bytes.length < wiring.framing.size
  · exact ⟨.header bytes, Wiring.cut_short none short⟩
  -- the header is complete, and the payload is not
  · have first : bytes.take wiring.framing.size = draft.frame.take wiring.framing.size := by
      obtain ⟨more, split⟩ := within
      rw [← split, List.take_append_of_le_length (Nat.le_of_not_lt short)]
    refine ⟨.payload (draft.payload wiring).length 0 [], ?_⟩
    rw [← List.take_append_drop wiring.framing.size bytes, first]
    apply reads.announces.cut_short sized
    have whole := reads.length_frame
    rw [List.length_drop]
    omega

end Draft

/-- The frames of drafts, one after another. -/
def frames (drafts : List (Draft M)) : Bytes :=
  (drafts.map Draft.frame).flatten

theorem frames_cons (draft : Draft M) (drafts : List (Draft M)) :
    frames (draft :: drafts) = draft.frame ++ frames drafts := by
  rw [frames, List.map_cons, List.flatten_cons, frames]

/-- Frames, one after another, read as the messages that they were made of. -/
theorem parses_frames (sized : 0 < wiring.framing.size)
    (reads : ∀ draft ∈ drafts, draft.ReadsBack wiring) :
    Parses wiring (frames drafts) (drafts.map (Draft.payload wiring)) .boundary := by
  induction drafts with
  | nil => exact .stops wiring.cut_nil
  | cons draft rest ih =>
    obtain ⟨first, later⟩ := List.forall_mem_cons.1 reads
    rw [frames_cons]
    exact .frame (first.cut sized) (ih later)

/-- As long as a stream is one of frames, what is there of it reads as the first of the messages. -/
theorem parses_beginning (sized : 0 < wiring.framing.size)
    (reads : ∀ draft ∈ drafts, draft.ReadsBack wiring) (within : bytes <+: frames drafts) :
    ∃ payloads, ∃ part : Part, Parses wiring bytes payloads part.stop ∧
      payloads <+: drafts.map (Draft.payload wiring) := by
  induction drafts generalizing bytes with
  | nil =>
    cases List.prefix_nil.1 within
    exact ⟨[], .boundary, .stops wiring.cut_nil, List.nil_prefix⟩
  | cons draft rest ih =>
    obtain ⟨first, later⟩ := List.forall_mem_cons.1 reads
    rw [frames_cons] at within
    by_cases less : bytes.length < draft.frame.length
    · have inside : bytes <+: draft.frame :=
        List.prefix_of_prefix_length_le within (List.prefix_append _ _) (Nat.le_of_lt less)
      obtain ⟨part, cut⟩ := first.cut_beginning sized inside less
      exact ⟨[], part, .stops cut, List.nil_prefix⟩
    · obtain ⟨more, rfl⟩ :=
        List.prefix_of_prefix_length_le (List.prefix_append _ _) within (Nat.le_of_not_lt less)
      obtain ⟨payloads, part, parse, earlier⟩ :=
        ih later ((List.prefix_append_right_inj _).1 within)
      refine ⟨_, part, .frame (first.cut sized) parse, ?_⟩
      rw [List.map_cons]
      exact List.cons_prefix_cons.2 ⟨rfl, earlier⟩

theorem volume_payloads (reads : ∀ draft ∈ drafts, draft.ReadsBack wiring) :
    wiring.volume (drafts.map (Draft.payload wiring)) =
      (drafts.map fun draft => draft.frame.length).sum := by
  rw [Wiring.volume, List.map_map]
  congr 1
  exact List.map_congr_left fun draft member => (reads draft member).length_frame

/-! ## What arrives in a calm run -/

theorem arrived_append (before later : List (Act M)) :
    arrived (before ++ later) = arrived before ++ arrived later := by
  rw [arrived, arrivals, List.filterMap_append, List.map_append, List.flatten_append]
  rfl

/-- Nothing but chunks arrives in a calm run. -/
theorem arrivals_of_calm {acts : List (Act M)} (calmly : ∀ act ∈ acts, act.isCalm = true) :
    arrivals acts =
      ((arrivals acts).map Inbound.content).map .chunk ++ StreamEnd.silence.items := by
  rw [StreamEnd.items, List.append_nil, List.map_map]
  refine ((List.map_congr_left ?_).trans (List.map_id _)).symm
  intro item member
  obtain ⟨act, inside, arrives⟩ := List.mem_filterMap.1 member
  have calm := calmly act inside
  unfold Act.arrives? at arrives
  split at arrives
  · cases arrives
  · cases arrives
    cases item with
    | chunk => rfl
    | finish | fault => cases calm
  · cases arrives

namespace Link

variable {acts : List (Act M)} {link : Link M}

/-- As long as nothing but frames arrives, a calm link stays active, its reader does not crash, and
it reads the first of the frames. -/
theorem reads_of_frames (sized : 0 < wiring.framing.size)
    (run : follow? wiring fresh acts = some link) (calmly : ∀ act ∈ acts, act.isCalm = true)
    (reads : ∀ draft ∈ drafts, draft.ReadsBack wiring) (within : arrived acts <+: frames drafts) :
    link.phase = .active ∧ (∀ text, link.reader ≠ .ended (some text)) ∧
      readings link.history <+: drafts.map (Draft.payload wiring) := by
  have calm := (calm_of_run run calmly).1
  have streams := (streams_of_run sized run (arrivals_of_calm calmly)).resolve_right
    (calm.unspoiled (sound_of_run run))
  obtain ⟨payloads, part, parse, beginning⟩ := parses_beginning sized reads within
  have waits : part.stop.verdict .silence = none := by
    cases part <;> rfl
  have last : part.stop.last = [] := by
    cases part <;> rfl
  have crashless : ∀ text, link.reader ≠ .ended (some text) := by
    intro text crashed
    cases streams with
    | reads _ reader | ended _ reader =>
      rw [crashed] at reader
      cases reader
    | crashed _ parse' =>
      obtain ⟨-, stop⟩ := parse'.unique parse
      cases part <;> cases stop
  have bound := streams.readings_prefix sized crashless parse
  rw [last, List.append_nil] at bound
  refine ⟨?_, crashless, bound.trans beginning⟩
  cases streams with
  | reads active => exact active
  | crashed reader => exact absurd reader (crashless _)
  | ended _ _ parse' _ verdict =>
    obtain ⟨-, rfl⟩ := parse'.unique parse
    rw [waits] at verdict
    cases verdict

end Link

end Multiplex
