import Multiplex.Message.Fields
import Multiplex.Text.Utf8

/-!
# Messages

A message is a type indicator and a map of numbered text fields. A field that is absent reads as
the empty text. Setting a field through `set` keeps every value short enough for its record.
-/

namespace Multiplex

/-- A type indicator and numbered text fields. -/
structure Message where
  indicator : String
  fields : Fields
  deriving DecidableEq, Inhabited

namespace Message

/-- The number of bytes that a field record can announce. -/
def maxValueLength : Nat := 65535

/-- A message with no field. -/
def ofType (indicator : String) : Message :=
  ⟨indicator, .empty⟩

/-- The message with a text under a field number, whatever its length. -/
def withField (message : Message) (id : FieldId) (value : String) : Message :=
  { message with fields := message.fields.insert id value }

/-- The text under a field number, if there is one. -/
def field? (message : Message) (id : FieldId) : Option String :=
  message.fields.get? id

/-- The text of a field; an absent field reads as empty. -/
def text (message : Message) (id : FieldId) : String :=
  (message.field? id).getD ""

/-- The message with a text under a field number; a text too long for a record is refused. -/
def set (message : Message) (id : FieldId) (value : String) : Except WireError Message :=
  let length := (Text.encode value).length
  if maxValueLength < length then
    .error (.badField id ("value of " ++ toString length ++ " bytes exceeds 65535"))
  else .ok (message.withField id value)

@[simp] theorem field?_withField (message : Message) (id : FieldId) (value : String)
    (key : FieldId) :
    (message.withField id value).field? key = if key = id then some value else message.field? key :=
  Fields.get?_insert message.fields id value key

@[simp] theorem indicator_withField (message : Message) (id : FieldId) (value : String) :
    (message.withField id value).indicator = message.indicator := rfl

theorem set_eq_ok_iff {message result : Message} {id : FieldId} {value : String} :
    message.set id value = .ok result ↔
      (Text.encode value).length ≤ maxValueLength ∧ result = message.withField id value := by
  simp only [set]
  split
  · next h => simp only [reduceCtorEq, false_iff]; omega
  · next h =>
    simp only [Except.ok.injEq]
    constructor
    · intro e; exact ⟨by omega, e.symm⟩
    · intro e; exact e.2.symm

end Message

end Multiplex
