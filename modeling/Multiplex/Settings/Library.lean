import Multiplex.Config

/-!
# Libraries that read settings

The settings of a link are not read by the link itself. A library takes a file and the variables of
the environment apart, merges what they say into one table, converts values, and fills the settings
from the table. What of this a link relies on is `Library.Laws`: how one name is set, how one
variable is named, and what one entry of a table gives. How files are written and how values are
converted is the library's own business.
-/

namespace Multiplex.Settings

/-- What a setting holds. -/
inductive Kind where
  /-- An unsigned integer of 64 bits. -/
  | unsigned
  /-- An unsigned integer, or nothing. -/
  | optional
  /-- The number of a field. -/
  | fieldNumber
  | truth
  deriving DecidableEq, Repr

/-- The values of a kind. -/
def Kind.Carrier : Kind → Type
  | unsigned => Nat
  | optional => Option Nat
  | fieldNumber => FieldId
  | truth => Bool

instance : (kind : Kind) → DecidableEq kind.Carrier
  | .unsigned => inferInstanceAs (DecidableEq Nat)
  | .optional => inferInstanceAs (DecidableEq (Option Nat))
  | .fieldNumber => inferInstanceAs (DecidableEq FieldId)
  | .truth => inferInstanceAs (DecidableEq Bool)

/-- A setting of a link. -/
inductive Setting where
  | connectTimeout
  | requestTimeout
  | maxFrameSize
  | writeQueueDepth
  | unmatchedQueueDepth
  | stanField
  | closeOnWriteFailure
  | readBufferSize
  | nodelay
  deriving DecidableEq, Repr

namespace Setting

/-- The name under which a setting is found. -/
def name : Setting → String
  | connectTimeout => "connect_timeout_ms"
  | requestTimeout => "request_timeout_ms"
  | maxFrameSize => "max_frame_size"
  | writeQueueDepth => "write_queue_depth"
  | unmatchedQueueDepth => "unmatched_queue_depth"
  | stanField => "stan_field"
  | closeOnWriteFailure => "close_on_write_failure"
  | readBufferSize => "read_buffer_size"
  | nodelay => "nodelay"

/-- What the setting holds. -/
def kind : Setting → Kind
  | requestTimeout => .optional
  | stanField => .fieldNumber
  | closeOnWriteFailure | nodelay => .truth
  | _ => .unsigned

/-- The values that the setting can have. -/
abbrev Carrier (setting : Setting) : Type :=
  setting.kind.Carrier

/-- All settings. -/
def all : List Setting :=
  [connectTimeout, requestTimeout, maxFrameSize, writeQueueDepth, unmatchedQueueDepth, stanField,
    closeOnWriteFailure, readBufferSize, nodelay]

theorem mem_all (setting : Setting) : setting ∈ all := by
  cases setting <;> decide

theorem name_injective {setting setting' : Setting} (same : setting.name = setting'.name) :
    setting = setting' := by
  revert same
  cases setting <;> cases setting' <;> decide

/-- The setting that is found under a name. -/
def ofName? (name : String) : Option Setting :=
  all.find? fun setting => setting.name = name

@[simp] theorem ofName?_name (setting : Setting) : ofName? setting.name = some setting := by
  cases setting <;> rfl

theorem name_of_ofName? {name : String} {setting : Setting}
    (known : ofName? name = some setting) : setting.name = name := by
  have found := List.find?_some known
  exact of_decide_eq_true found

theorem ofName?_eq_none_iff {name : String} :
    ofName? name = none ↔ ∀ setting : Setting, setting.name ≠ name := by
  rw [ofName?, List.find?_eq_none]
  exact ⟨fun absent setting same => absent setting setting.mem_all (decide_eq_true same),
    fun absent setting _ same => absent setting (of_decide_eq_true same)⟩

end Setting

end Multiplex.Settings

namespace Multiplex.Config

open Settings (Setting)

/-- What a setting holds. -/
def get (config : Config) : (setting : Setting) → setting.Carrier
  | .connectTimeout => config.connectTimeout
  | .requestTimeout => config.requestTimeout
  | .maxFrameSize => config.maxFrameSize
  | .writeQueueDepth => config.writeQueueDepth
  | .unmatchedQueueDepth => config.unmatchedQueueDepth
  | .stanField => config.stanField
  | .closeOnWriteFailure => config.closeOnWriteFailure
  | .readBufferSize => config.readBufferSize
  | .nodelay => config.nodelay

/-- The settings that hold the given values. -/
def ofSettings (held : (setting : Setting) → setting.Carrier) : Config where
  connectTimeout := held .connectTimeout
  requestTimeout := held .requestTimeout
  maxFrameSize := held .maxFrameSize
  writeQueueDepth := held .writeQueueDepth
  unmatchedQueueDepth := held .unmatchedQueueDepth
  stanField := held .stanField
  closeOnWriteFailure := held .closeOnWriteFailure
  readBufferSize := held .readBufferSize
  nodelay := held .nodelay

@[simp] theorem get_ofSettings (held : (setting : Setting) → setting.Carrier)
    (setting : Setting) : (ofSettings held).get setting = held setting := by
  cases setting <;> rfl

theorem ofSettings_get (config : Config) : ofSettings config.get = config := rfl

end Multiplex.Config

namespace Multiplex.Settings

/-- Which variables of the environment are settings, and how they are read. -/
structure EnvironmentOptions where
  /-- What the names start with, in any case of letters. -/
  start : String
  /-- What stands between the start and the name of a setting. -/
  joint : String
  /-- What stands between the parts of a name that leads into a setting. -/
  nesting : String
  /-- Texts that are written like numbers or truth values are taken as such. -/
  parses : Bool
  deriving DecidableEq, Repr

/-- What follows the start of the names of settings in a name, both with their capitals made
small. -/
def EnvironmentOptions.rest? (options : EnvironmentOptions) (fold : String → String)
    (name : String) : Option String :=
  let start := (fold (options.start ++ options.joint)).toList
  let name := (fold name).toList
  if start.isPrefixOf name then some (String.ofList (name.drop start.length)) else none

/-- The values of some of the settings. -/
abbrev Given : Type :=
  (setting : Setting) → Option setting.Carrier

/-- No values. -/
def Given.none : Given :=
  fun _ => Option.none

/-- The values with one more. -/
def Given.set (given : Given) (setting : Setting) (held : setting.Carrier) : Given :=
  fun other => if same : setting = other then some (same ▸ held) else given other

@[simp] theorem Given.set_self (given : Given) (setting : Setting) (held : setting.Carrier) :
    given.set setting held setting = some held := by
  simp [Given.set]

theorem Given.set_of_ne (given : Given) {setting other : Setting} (held : setting.Carrier)
    (apart : setting ≠ other) : given.set setting held other = given other :=
  dif_neg apart

/-- A library that reads settings. -/
structure Library where
  /-- Values as they are found. -/
  Value : Type
  /-- What has been collected from files and environments. -/
  Table : Type
  /-- A name with its capitals made small. -/
  fold : String → String
  /-- The name leads into a setting, and is not the name of one. -/
  isPath : String → Bool
  /-- The value is no table and no array. -/
  isScalar : Value → Bool
  /-- The names and values that the text of a file assigns, unless it is malformed. -/
  document? : String → Option (List (String × Value))
  /-- What the text of a variable is taken as. -/
  parse : String → Value
  /-- The name and the value that a variable of the environment assigns, if it is a setting. -/
  assignment? : EnvironmentOptions → String × String → Option (String × Value)
  /-- Nothing collected. -/
  empty : Table
  /-- One more assignment. -/
  set : Table → String → Value → Table
  /-- The names in a table and their values. -/
  entries : Table → List (String × Value)
  /-- A value as what a setting holds. -/
  convert? : (kind : Kind) → Value → Option kind.Carrier
  /-- The settings that entries give, unless one of them cannot be converted. -/
  fill? : List (String × Value) → Option Given

namespace Library

/-- What follows the start of the names of settings in the name of a variable. -/
def ownName? (library : Library) (options : EnvironmentOptions) (name : String) :
    Option String :=
  options.rest? library.fold name

/-- What a link relies on in a library, for one name, one variable, and one entry at a time. -/
structure Laws (library : Library) : Prop where
  /-- The names of settings have no capitals. -/
  fold_name : ∀ setting : Setting, library.fold setting.name = setting.name
  fold_own : ∀ {options : EnvironmentOptions} {name rest : String},
    library.ownName? options name = some rest → library.fold rest = rest
  /-- What leads into a setting has points or brackets. -/
  marked_of_isPath : ∀ {name : String}, library.isPath name = true →
    '.' ∈ name.toList ∨ '[' ∈ name.toList
  entries_empty : library.entries library.empty = []
  entries_nodup : ∀ table, ((library.entries table).map Prod.fst).Nodup
  /-- What is assigned to a name is found under it, whatever was there, in any case of letters. A
  table or an array may be merged with what was there. -/
  lookup_set : ∀ {table : library.Table} {name : String} {value : library.Value},
    library.isPath name = false → library.isScalar value = true ∨
      (library.entries table).lookup (library.fold name) = none →
    (library.entries (library.set table name value)).lookup (library.fold name) = some value
  /-- Nothing else changes. -/
  lookup_set_of_ne : ∀ {table : library.Table} {name other : String} {value : library.Value},
    library.isPath name = false → library.fold name ≠ other →
    (library.entries (library.set table name value)).lookup other =
      (library.entries table).lookup other
  isScalar_parse : ∀ text, library.isScalar (library.parse text) = true
  /-- A variable that does not start so is no setting. -/
  assignment?_of_foreign : ∀ {options : EnvironmentOptions} {name : String} (text : String),
    library.ownName? options name = none → library.assignment? options (name, text) = none
  assignment?_of_own : ∀ {options : EnvironmentOptions} {name rest : String} (text : String),
    options.parses = true → library.ownName? options name = some rest →
      ¬options.nesting.toList <:+: rest.toList →
        library.assignment? options (name, text) = some (rest, library.parse text)
  fill?_nil : library.fill? [] = some .none
  /-- An entry under a name that is no setting's is passed over. -/
  fill?_of_unknown : ∀ {name : String} {value : library.Value}
    {rest : List (String × library.Value)}, (∀ setting : Setting, setting.name ≠ name) →
      library.fill? ((name, value) :: rest) = library.fill? rest
  /-- An entry under the name of a setting gives that one its value, converted. -/
  fill?_of_known : ∀ {setting : Setting} {value : library.Value}
    {rest : List (String × library.Value)}, setting.name ∉ rest.map Prod.fst →
      library.fill? ((setting.name, value) :: rest) =
        (library.convert? setting.kind value).bind fun held =>
          (library.fill? rest).map fun given => given.set setting held

/-- Assignments one after another. -/
def setAll (library : Library) (table : library.Table)
    (assignments : List (String × library.Value)) : library.Table :=
  assignments.foldl (fun table (name, value) => library.set table name value) table

end Library

end Multiplex.Settings
