import Multiplex.Message.Basic

/-!
# The written form of a message

A message is written as its type indicator, which takes four ASCII bytes, followed by one record
per field in ascending order of the field numbers. A record is the field number in two octets, the
length of the value in two octets, and the UTF-8 bytes of the value.

Reading accepts the records in any order but each field at most once, and reports the first fault
from left to right.
-/

namespace Multiplex.Message

/-- The number of bytes of a type indicator. -/
def indicatorLength : Nat := 4

/-- One field record. -/
def record (id : FieldId) (value : Bytes) : Bytes :=
  Bytes.word16 id.toNat ++ (Bytes.word16 value.length ++ value)

/-- The records of some fields, one after another. The first value too long for a record is
refused. -/
def packFields : List (FieldId × String) → Except WireError Bytes
  | [] => .ok []
  | (id, value) :: rest =>
    let bytes := Text.encode value
    if maxValueLength < bytes.length then
      .error (.badField id "value longer than 65535 bytes")
    else
      match packFields rest with
      | .error e => .error e
      | .ok written => .ok (record id bytes ++ written)

/-- The indicator can be written: it is four ASCII bytes. -/
def isWritableType (indicator : String) : Bool :=
  (Text.encode indicator).length == indicatorLength && Text.isAscii indicator

/-- The written form of a message. A bad type indicator is reported before any field. -/
def pack (message : Message) : Except WireError Bytes :=
  if isWritableType message.indicator then
    match packFields message.fields.entries with
    | .error e => .error e
    | .ok written => .ok (Text.encode message.indicator ++ written)
  else .error (.badType message.indicator "expected 4 ascii characters")

/-- Why a field value is no text. -/
def valueFault (bytes : Bytes) : String :=
  match Text.flaw? bytes with
  | some flaw => flaw.message
  | none => "invalid utf-8"

/-- Reads field records, the first of which starts at `offset`, into a field map. -/
def unpackFields (offset : Nat) (bytes : Bytes) (fields : Fields) : Except WireError Fields :=
  match bytes with
  | [] => .ok fields
  | i :: j :: k :: l :: rest =>
    let id := UInt16.ofNat (Bytes.ofWord16 i j)
    let need := Bytes.ofWord16 k l
    let value := rest.take need
    if value.length < need then
      .error (.truncatedField id offset need rest.length)
    else
      match Text.decode? value with
      | none => .error (.badField id (valueFault value))
      | some text =>
        if fields.contains id then .error (.duplicateField id offset)
        else unpackFields (offset + 4 + need) (rest.drop need) (fields.insert id text)
  | short =>
    .error (.tooShort 4 short.length ("field record header at offset " ++ toString offset))
  termination_by bytes.length
  decreasing_by simp only [List.length_drop, List.length_cons]; omega

/-- Reads a type indicator from its four bytes. -/
def unpackType (bytes : Bytes) : Except WireError String :=
  match Text.decode? bytes with
  | some indicator =>
    if Text.isAscii indicator then .ok indicator
    else .error (.badType (Text.decodeLossy bytes) "not ascii")
  | none => .error (.badType (Text.decodeLossy bytes) "not ascii")

/-- Reads a message from its written form. -/
def unpack (bytes : Bytes) : Except WireError Message :=
  if bytes.length < indicatorLength then
    .error (.tooShort indicatorLength bytes.length "message type indicator")
  else
    match unpackType (bytes.take indicatorLength) with
    | .error e => .error e
    | .ok indicator =>
      match unpackFields indicatorLength (bytes.drop indicatorLength) .empty with
      | .error e => .error e
      | .ok fields => .ok ⟨indicator, fields⟩

end Multiplex.Message
