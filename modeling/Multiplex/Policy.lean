import Multiplex.LinkError
import Multiplex.Message.Codec

/-!
# Correlation policies

A request and its reply carry the same key, which a policy reads out of the message: the text of
one field, or the texts of several fields joined by a separator. No part of a key may be empty.
-/

namespace Multiplex

/-- Where the key of a message is found. -/
inductive Policy where
  | field (id : FieldId)
  | composite (ids : List FieldId) (separator : String)
  deriving DecidableEq, Repr

namespace Policy

/-- The field of the system trace audit number. -/
def stanField : FieldId := 11

/-- Keys are trace numbers alone, unless a link is told otherwise. -/
instance : Inhabited Policy := ⟨field stanField⟩

variable {M : Type}

/-- The text of one field, as a part of a key. -/
def component (codec : Codec M) (message : M) (id : FieldId) : Except LinkError String :=
  match codec.text message id with
  | .error fault =>
    .error (.uncorrelated ("reading field " ++ toString id.toNat) (some fault))
  | .ok text =>
    if text = "" then
      .error (.uncorrelated ("field " ++ toString id.toNat ++ " is empty") none)
    else .ok text

/-- The texts of several fields, as parts of a key; the first that is missing is reported. -/
def components (codec : Codec M) (message : M) : List FieldId → Except LinkError (List String)
  | [] => .ok []
  | id :: rest =>
    match component codec message id with
    | .error e => .error e
    | .ok text =>
      match components codec message rest with
      | .error e => .error e
      | .ok texts => .ok (text :: texts)

/-- The key of a message. -/
def key (policy : Policy) (codec : Codec M) (message : M) : Except LinkError String :=
  match policy with
  | field id => component codec message id
  | composite [] _ => .error (.uncorrelated "composite key has no fields" none)
  | composite ids separator => (components codec message ids).map separator.intercalate

end Policy

end Multiplex
