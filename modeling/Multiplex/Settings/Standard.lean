import Multiplex.Settings.Layer
import Multiplex.Settings.Library
import Multiplex.Settings.Toml.Document

/-!
# The library at hand

The library that reads the settings of links: files are TOML documents, tables are layers, and
values are converted leniently.
-/

namespace Multiplex.Settings.Standard

/-- A name with its capitals made small. -/
def fold (name : String) : String :=
  String.ofList (foldCase name.toList)

/-- The assignments that a document makes. -/
def document? (content : String) : Option (List (String × Value)) :=
  (Toml.document? content.toList).map fun assignments =>
    assignments.map fun (name, value) => (String.ofList name, value)

/-- The name and the value that a variable assigns, if it starts like a setting. -/
def assignment? (options : EnvironmentOptions) : String × String → Option (String × Value)
  | (name, text) => (options.rest? fold name).map fun rest =>
      (String.ofList (dotted options.nesting.toList 0 rest.toList),
        if options.parses then environmentValue text.toList else .text text)

/-- The value is no table and no array. -/
def isScalar : Value → Bool
  | .emptyTable | .nested => false
  | .truth _ | .integer _ | .decimal _ | .text _ => true

/-- A value as what a setting holds. -/
def convert? : (kind : Kind) → Value → Option kind.Carrier
  | .unsigned => Value.toUnsigned?
  | .optional => fun value => value.toUnsigned?.map some
  | .fieldNumber => Value.toFieldNumber?
  | .truth => Value.toTruth?

/-- Fills the settings from entries, each of which may come once. -/
def fill? : List (String × Value) → Option Given
  | [] => some .none
  | (name, value) :: rest =>
    match Setting.ofName? name with
    | none => fill? rest
    | some setting => do
      let held ← convert? setting.kind value
      let given ← fill? rest
      if (given setting).isSome then none else some (given.set setting held)

end Multiplex.Settings.Standard

namespace Multiplex.Settings

/-- The library at hand. -/
def standard : Library where
  Value := Value
  Table := Layer
  fold := Standard.fold
  isPath name := (target name.toList).2
  isScalar := Standard.isScalar
  document? := Standard.document?
  parse text := environmentValue text.toList
  assignment? := Standard.assignment?
  empty := .empty
  set := Layer.assign
  entries := Layer.entries
  convert? := Standard.convert?
  fill? := Standard.fill?

end Multiplex.Settings
