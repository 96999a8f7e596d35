import Multiplex.Link.Transport
import Multiplex.Message.Codec

/-!
# Messages with scripted faults

A message wrapped with the field numbers on which reading or setting fails, and a codec for such
messages that crashes on the type indicator `BOOM`. With them, and with a transport that crashes its
writer, a rehearsal brings a link into states that well-behaved messages and transports never reach.
-/

namespace Multiplex.Rehearsal

/-- A message and the fields on which it fails. -/
structure Scripted where
  message : Message
  failRead : List FieldId := []
  failSet : List FieldId := []
  deriving DecidableEq, Inhabited

namespace Scripted

/-- The text of a field, unless reading it is scripted to fail. -/
def text (scripted : Scripted) (id : FieldId) : Except WireError String :=
  if scripted.failRead.contains id then .error (.badField id "scripted get failure")
  else .ok (scripted.message.text id)

/-- The message with another text in a field, unless setting it is scripted to fail. -/
def set (scripted : Scripted) (id : FieldId) (value : String) : Except WireError Scripted :=
  if scripted.failSet.contains id then .error (.badField id "scripted set failure")
  else (scripted.message.set id value).map fun message => { scripted with message }

/-- What a payload reads as, when reading fails on the fields `failRead` of every message. -/
def unpack (failRead : List FieldId) (bytes : Bytes) : Reading Scripted :=
  match Message.unpack bytes with
  | .error fault => .refused fault
  | .ok message =>
    if message.indicator = "BOOM" then .crashed "scripted unpack panic"
    else .message { message, failRead }

/-- The codec of scripted messages. -/
def codec (failRead : List FieldId) : Codec Scripted where
  text := text
  set := set
  pack scripted := scripted.message.pack
  unpack := unpack failRead

end Scripted

end Multiplex.Rehearsal

/-- How the transport of a rehearsal crashes its writer. -/
def Multiplex.WriteStop.crash : Multiplex.WriteStop :=
  .crashes "scripted write panic"
