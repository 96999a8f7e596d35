import Multiplex.Message.Record

/-!
# Codecs

A link never looks inside its messages. It reads and sets text fields of them, and turns them into
payload bytes and back, through a codec. Reading a payload may also crash, which is told apart from
a refusal.
-/

namespace Multiplex

/-- What a codec makes of a payload. -/
inductive Reading (M : Type) where
  | message (m : M)
  | refused (fault : WireError)
  | crashed (text : String)

/-- How a link handles messages of type `M`. -/
structure Codec (M : Type) where
  /-- The text of a field; absent fields read as empty. -/
  text : M → FieldId → Except WireError String
  /-- The message with another text in a field. -/
  set : M → FieldId → String → Except WireError M
  /-- The payload of a message. -/
  pack : M → Except WireError Bytes
  /-- The message of a payload. -/
  unpack : Bytes → Reading M

/-- A reading that cannot crash. -/
def Reading.ofExcept {M : Type} : Except WireError M → Reading M
  | .ok m => .message m
  | .error fault => .refused fault

/-- Plain messages, with nothing around them. -/
def Message.codec : Codec Message where
  text message id := .ok (message.text id)
  set := Message.set
  pack := Message.pack
  unpack bytes := .ofExcept (Message.unpack bytes)

end Multiplex
