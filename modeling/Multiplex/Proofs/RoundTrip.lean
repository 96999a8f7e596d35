import Multiplex.Proofs.Frames
import Multiplex.Proofs.Grammar
import Multiplex.Proofs.Parsing

/-!
# What is written reads back

The written form of a message reads back as that message (`Message.unpack_of_pack`). So a frame that
a link makes of a message is a frame that a link with the same choices reads as that message
(`faithful_setup`): both size limits that apply to the frame apply to it again when it is read, and
the key of what is read is the key of what was written.
-/

namespace Multiplex

variable {M : Type}

/-- Every frame that is made of a message reads as the message. -/
def Wiring.Faithful (wiring : Wiring M) : Prop :=
  ∀ message frame, Link.frameOf wiring message = .ok frame →
    ∃ header payload, frame = header ++ payload ∧ wiring.Announces header payload.length ∧
      wiring.codec.unpack payload = .message message

/-- Frames of plain messages are read as they were written, in every layout of the header. -/
theorem faithful_setup (header : Header) (policy : Policy) (config : Config) :
    (Setup.wiring ⟨Message.codec, header, policy, config⟩).Faithful := by
  intro message frame framed
  obtain ⟨payload, announcement, packed, small, encoded, rfl⟩ := Link.frameOf_eq_ok framed
  obtain ⟨fits, rfl⟩ := Header.announce_eq_ok_iff.1 encoded
  refine ⟨_, payload, rfl, ⟨header.length_layout _, ?_⟩, ?_⟩
  · have read : (Setup.wiring ⟨Message.codec, header, policy, config⟩).framing.decode
        (header.layout payload.length) = .ok payload.length := Header.decode_layout fits
    rw [Wiring.announced, read]
    exact if_neg (Nat.not_lt.2 small)
  · have read : (Message.codec.unpack payload : Reading Message) =
        .ofExcept (Message.unpack payload) := rfl
    refine read.trans ?_
    rw [Message.unpack_of_pack packed, Reading.ofExcept]

end Multiplex
