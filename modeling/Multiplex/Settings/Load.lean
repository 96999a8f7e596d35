import Multiplex.Settings.Standard

/-!
# Loading link settings

The settings of a link come from a file, if one is named, and from the environment, which replaces
what the file says. A setting that neither names keeps its default. Names that are no settings are
passed over.

Main statement: `Library.load_eq_ok_iff` (what is loaded, and when).
-/

namespace Multiplex.Settings

/-- The file that is to be loaded. -/
inductive Source where
  /-- No file is named. -/
  | none
  /-- The named file does not exist. -/
  | missing
  /-- The file holds a text. -/
  | text (content : String)
  deriving DecidableEq, Repr

/-- What can be wrong with settings. -/
inductive Problem where
  /-- The file is missing or no TOML document. -/
  | unreadable
  /-- The value of a setting cannot be taken as what the setting holds. -/
  | unconvertible
  /-- No link can run with the settings. -/
  | unfit (fault : Config.Fault)
  deriving DecidableEq, Repr

/-- The wording of a problem. -/
def Problem.message : Problem → String
  | unreadable => "Failed to build client configuration"
  | unconvertible => "Failed to deserialize client configuration"
  | unfit fault => fault.message

/-- The variables of the environment that are settings: `TXLINK_` and the name of a setting, in which
two underscores lead into the setting. -/
def environmentOptions : EnvironmentOptions :=
  ⟨"TXLINK", "_", "__", true⟩

namespace Library

variable (library : Library)

/-- The assignments that a file makes. -/
def fileAssignments? : Source → Option (List (String × library.Value))
  | .none => some []
  | .missing => none
  | .text content => library.document? content

/-- The assignments of the environment; variables of other names are left out. -/
def environmentAssignments (env : List (String × String)) : List (String × library.Value) :=
  env.filterMap (library.assignment? environmentOptions)

/-- The assignments of the file and then those of the environment. -/
def table? (source : Source) (env : List (String × String)) : Option library.Table :=
  (library.fileAssignments? source).map fun file =>
    library.setAll (library.setAll library.empty file) (library.environmentAssignments env)

/-- The settings of a link in a table; what it does not give is left at its default. -/
def config? (table : library.Table) : Option Config :=
  (library.fill? (library.entries table)).map fun given =>
    .ofSettings fun setting => (given setting).getD (({} : Config).get setting)

/-- Loads the settings of a link. -/
def load (source : Source) (env : List (String × String)) : Except Problem Config :=
  match library.table? source env with
  | none => .error .unreadable
  | some table =>
    match library.config? table with
    | none => .error .unconvertible
    | some config =>
      match config.fault? with
      | some fault => .error (.unfit fault)
      | none => .ok config

variable {library}

theorem load_eq_ok_iff {source : Source} {env : List (String × String)} {config : Config} :
    library.load source env = .ok config ↔
      ∃ table, library.table? source env = some table ∧ library.config? table = some config ∧
        config.fault? = none := by
  unfold load
  cases library.table? source env with
  | none => simp
  | some table =>
    cases found : library.config? table with
    | none => simp [found]
    | some loaded =>
      cases fault : loaded.fault? with
      | none =>
        simp only [found, fault, Except.ok.injEq, Option.some.injEq, exists_eq_left']
        constructor
        · rintro rfl
          exact ⟨rfl, fault⟩
        · exact And.left
      | some f =>
        simp only [found, fault, reduceCtorEq, Option.some.injEq, exists_eq_left', false_iff]
        rintro ⟨rfl, passes⟩
        simp [fault] at passes

end Library

/-- Loads the settings of a link with the library at hand. -/
def load (source : Source) (env : List (String × String)) : Except Problem Config :=
  standard.load source env

end Multiplex.Settings
