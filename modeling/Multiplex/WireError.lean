import Multiplex.Bytes
import Multiplex.Text.Quoted

/-!
# Faults of length headers and messages

What can be wrong with a length header, a length, a message or one of its fields, and how each
fault is worded.
-/

namespace Multiplex

/-- The number of a message field. -/
abbrev FieldId := UInt16

/-- A fault of a length header or of a message on its way to or from bytes. -/
inductive WireError where
  /-- Fewer bytes than `context` takes. -/
  | tooShort (need got : Nat) (context : String)
  /-- A length header whose bytes write no length. -/
  | badHeader (raw : Bytes) (reason : String)
  /-- A length above what the named header or limit allows. -/
  | lengthOutOfRange (length max : Nat) (limit : String)
  /-- A field record that announces more bytes than follow it. -/
  | truncatedField (field : FieldId) (offset need remaining : Nat)
  /-- A second record of one field. -/
  | duplicateField (field : FieldId) (offset : Nat)
  /-- A field value that cannot be used. -/
  | badField (field : FieldId) (reason : String)
  /-- A message type indicator that cannot be used. -/
  | badType (indicator : String) (reason : String)
  deriving DecidableEq, Repr

namespace WireError

/-- The wording of a fault. -/
def message : WireError → String
  | tooShort need got context =>
    "Message too small: need " ++ toString need ++ " bytes, got " ++ toString got
      ++ " (context: " ++ context ++ ")"
  | badHeader raw reason => "Invalid length header 0x" ++ raw.hex ++ ": " ++ reason
  | lengthOutOfRange length max limit =>
    "Length " ++ toString length ++ " out of range for " ++ limit ++ " header (max "
      ++ toString max ++ ")"
  | truncatedField field offset need remaining =>
    "Truncated field " ++ toString field.toNat ++ " at offset " ++ toString offset ++ ": need "
      ++ toString need ++ " bytes, " ++ toString remaining ++ " remaining"
  | duplicateField field offset =>
    "Duplicate field " ++ toString field.toNat ++ " at offset " ++ toString offset
  | badField field reason => "Invalid value for field " ++ toString field.toNat ++ ": " ++ reason
  | badType indicator reason =>
    "Invalid message type indicator " ++ Text.quoted indicator ++ ": " ++ reason

end WireError

end Multiplex
