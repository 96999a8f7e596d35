import Multiplex.Proofs.StandardLibrary

/-!
# Settings one by one

If no name is a path and no two names of one source differ only in the case of letters, every
setting is loaded by itself: from the environment if that gives it a value, else from the file, else
it keeps its default. All settings load if each value can be converted and a link can run with what
comes of them. What the file says of a setting that the environment gives, and whatever is no
setting, has no influence (`Layered`). This holds of every library that sets one name, names one
variable and reads one entry as it should (`Library.Laws`).

A name that is a path is another matter: a key of the file that is spelled like no setting, but
leads into one, spoils it (`path_spoils_setting`).

Main statement: `layered_of_flat`.
-/

namespace Multiplex.Settings

/-- What a setting holds: its value converted, or its default if there is none. -/
def Holds {α β : Type} (value : Option α) (convert : α → Option β) (default held : β) : Prop :=
  match value with
  | none => held = default
  | some value => convert value = some held

instance {α β : Type} [DecidableEq β] {convert : α → Option β} {default held : β} :
    (value : Option α) → Decidable (Holds value convert default held)
  | none => inferInstanceAs (Decidable (held = default))
  | some value => inferInstanceAs (Decidable (convert value = some held))

theorem Holds.unique {α β : Type} {value : Option α} {convert : α → Option β}
    {default held held' : β} (holds : Holds value convert default held)
    (holds' : Holds value convert default held') : held = held' := by
  cases value with
  | none => exact holds.trans holds'.symm
  | some value => exact Option.some.inj (holds.symm.trans holds')

namespace Library

section Statement

variable (library : Library)

/-- What the assignments of a file give a setting: the value under its name, in any case of
letters. -/
def given? (assignments : List (String × library.Value)) (name : String) :
    Option library.Value :=
  (assignments.find? fun assignment => library.fold assignment.1 = name).map Prod.snd

/-- What the environment gives a setting: the value of the variable with its name, in any case of
letters. -/
def environmentGiven? (env : List (String × String)) (name : String) : Option library.Value :=
  (env.find? fun entry => library.ownName? environmentOptions entry.1 = some name).map fun entry =>
    library.parse entry.2

/-- The value of a setting in the environment if that gives one, else in the file. -/
def effective? (file : List (String × library.Value)) (env : List (String × String))
    (setting : Setting) : Option library.Value :=
  (library.environmentGiven? env setting.name).or (library.given? file setting.name)

/-- The names of the settings that the environment gives, in small letters. -/
def environmentNames (env : List (String × String)) : List String :=
  env.filterMap fun entry => library.ownName? environmentOptions entry.1

/-- No name is a path, and no two of them differ only in the case of letters. -/
structure Flat (names : List String) : Prop where
  distinct : (names.map library.fold).Nodup
  simple : ∀ name ∈ names, library.isPath name = false

/-- The names in a file, if it can be read, are flat, and so are those in the environment, where no
name has two underscores in a row. -/
structure FlatSources (source : Source) (env : List (String × String)) : Prop where
  file : ∀ file, library.fileAssignments? source = some file → library.Flat (file.map Prod.fst)
  environment : library.Flat (library.environmentNames env)
  unnested : ∀ name ∈ library.environmentNames env,
    ¬environmentOptions.nesting.toList <:+: name.toList

/-- Every setting holds what its own value says. -/
def Holding (value : Setting → Option library.Value) (config : Config) : Prop :=
  ∀ setting : Setting, Holds (value setting) (library.convert? setting.kind)
    (({} : Config).get setting) (config.get setting)

/-- Every setting that has a value can take it. -/
def Convertible (value : Setting → Option library.Value) : Prop :=
  ∀ setting found, value setting = some found →
    (library.convert? setting.kind found).isSome = true

/-- The file can be read, every setting can take its value, and a link can run with what they
hold. -/
def Loadable (source : Source) (env : List (String × String)) : Prop :=
  ∃ file, library.fileAssignments? source = some file ∧
    library.Convertible (library.effective? file env) ∧
      ∀ config, library.Holding (library.effective? file env) config → config.fault? = none

/-- How the settings of a link are loaded from a file and the environment. -/
structure Layered (source : Source) (env : List (String × String)) : Prop where
  succeeds : (∃ config, library.load source env = .ok config) ↔ library.Loadable source env
  /-- What is loaded holds, setting by setting, what the environment or else the file says. -/
  holds : ∀ config, library.load source env = .ok config ↔
    ∃ file, library.fileAssignments? source = some file ∧
      library.Holding (library.effective? file env) config ∧ config.fault? = none
  /-- Nothing but the effective values of the settings matters, as far as the file can be read. -/
  only : ∀ source' env' file file', library.FlatSources source' env' →
    library.fileAssignments? source = some file → library.fileAssignments? source' = some file' →
      (∀ setting, library.effective? file' env' setting = library.effective? file env setting) →
        library.load source' env' = library.load source env
  /-- No link is given settings that it cannot run with. -/
  fit : ∀ config, library.load source env = .ok config →
    0 < config.writeQueueDepth ∧ 0 < config.maxFrameSize ∧ 0 < config.readBufferSize ∧
      config.requestTimeout ≠ some 0

end Statement

variable {library : Library} {table : library.Table}
  {assignments file entries : List (String × library.Value)} {name : String} {source : Source}
  {env : List (String × String)} {config : Config}

/-- Names without points and brackets are flat if they differ in more than the case of letters. -/
theorem flat_of_unmarked (laws : library.Laws) {names : List String}
    (distinct : (names.map library.fold).Nodup)
    (unmarked : ∀ name ∈ names, '.' ∉ name.toList ∧ '[' ∉ name.toList) : library.Flat names where
  distinct := distinct
  simple name member := by
    rw [← Bool.not_eq_true]
    intro path
    exact (laws.marked_of_isPath path).elim (unmarked name member).1 (unmarked name member).2

/-! ## What a table says of a name -/

theorem given?_cons (assignment : String × library.Value) :
    library.given? (assignment :: assignments) name =
      if library.fold assignment.1 = name then some assignment.2
      else library.given? assignments name := by
  unfold given?
  rw [List.find?_cons]
  by_cases own : library.fold assignment.1 = name
  · simp [own]
  · simp [own]

theorem given?_eq_none
    (absent : ∀ assignment ∈ assignments, library.fold assignment.1 ≠ name) :
    library.given? assignments name = none := by
  rw [given?, Option.map_eq_none_iff, List.find?_eq_none]
  intro assignment member
  simpa using absent assignment member

/-- Assignments of different names do not interfere: a name has the value they give it, and else
the one it had. -/
theorem lookup_setAll (laws : library.Laws) (flat : library.Flat (assignments.map Prod.fst))
    (new : ∀ assignment ∈ assignments, library.isScalar assignment.2 = true ∨
      (library.entries table).lookup (library.fold assignment.1) = none) :
    (library.entries (library.setAll table assignments)).lookup name =
      (library.given? assignments name).or ((library.entries table).lookup name) := by
  -- the first assignment is made first; the others have other names and leave its value alone
  induction assignments generalizing table with
  | nil => rfl
  | cons assignment rest ih =>
    obtain ⟨distinct, simple⟩ := flat
    rw [List.map_cons, List.map_cons, List.nodup_cons] at distinct
    obtain ⟨absent, distinct⟩ := distinct
    have apart : ∀ other ∈ rest, library.fold other.1 ≠ library.fold assignment.1 :=
      fun other member same => absent (List.mem_map.2 ⟨_, List.mem_map_of_mem member, same⟩)
    obtain ⟨here, simple⟩ := List.forall_mem_cons.1 simple
    obtain ⟨first, new⟩ := List.forall_mem_cons.1 new
    have later : ∀ other ∈ rest, library.isScalar other.2 = true ∨
        (library.entries (library.set table assignment.1 assignment.2)).lookup
          (library.fold other.1) = none := by
      intro other member
      rw [laws.lookup_set_of_ne here (Ne.symm (apart other member))]
      exact new other member
    show (library.entries (library.setAll (library.set table assignment.1 assignment.2)
      rest)).lookup name = _
    rw [ih ⟨distinct, simple⟩ later, given?_cons]
    by_cases own : library.fold assignment.1 = name
    · subst own
      rw [if_pos rfl, given?_eq_none apart, laws.lookup_set here first]
      rfl
    · rw [if_neg own, laws.lookup_set_of_ne here own]

/-! ## What the environment says of a name -/

/-- One assignment for each variable that is a setting. -/
theorem environmentAssignments_eq (laws : library.Laws) (flat : library.FlatSources source env) :
    library.environmentAssignments env = env.filterMap fun entry =>
      (library.ownName? environmentOptions entry.1).map fun name =>
        (name, library.parse entry.2) := by
  refine List.filterMap_congr fun entry member => ?_
  cases own : library.ownName? environmentOptions entry.1 with
  | none => exact laws.assignment?_of_foreign entry.2 own
  | some name =>
    exact laws.assignment?_of_own entry.2 rfl own
      (flat.unnested name (List.mem_filterMap.2 ⟨entry, member, own⟩))

theorem names_environmentAssignments (laws : library.Laws)
    (flat : library.FlatSources source env) :
    (library.environmentAssignments env).map Prod.fst = library.environmentNames env := by
  rw [environmentAssignments_eq laws flat, List.map_filterMap]
  refine List.filterMap_congr fun entry _ => ?_
  rw [Option.map_map]
  exact Option.map_id'

theorem isScalar_environmentAssignments (laws : library.Laws)
    (flat : library.FlatSources source env) :
    ∀ assignment ∈ library.environmentAssignments env, library.isScalar assignment.2 = true := by
  rw [environmentAssignments_eq laws flat]
  intro assignment member
  obtain ⟨entry, -, made⟩ := List.mem_filterMap.1 member
  obtain ⟨name, -, rfl⟩ := Option.map_eq_some_iff.1 made
  exact laws.isScalar_parse entry.2

theorem given?_environmentAssignments (laws : library.Laws)
    (flat : library.FlatSources source env) :
    library.given? (library.environmentAssignments env) name =
      library.environmentGiven? env name := by
  rw [environmentAssignments_eq laws flat]
  clear flat
  unfold environmentGiven?
  induction env with
  | nil => rfl
  | cons entry rest ih =>
    rw [List.find?_cons]
    cases own : library.ownName? environmentOptions entry.1 with
    | none =>
      rw [List.filterMap_cons_none (by rw [own]; rfl), ih]
      rfl
    | some found =>
      rw [List.filterMap_cons_some (by rw [own]; rfl), given?_cons, laws.fold_own own, ih]
      by_cases same : found = name
      · simp [same]
      · simp [same]

/-- In the table of flat sources every setting has its effective value. -/
theorem lookup_table? (laws : library.Laws) (flat : library.FlatSources source env)
    (read : library.fileAssignments? source = some file) :
    ∃ table, library.table? source env = some table ∧ ∀ setting : Setting,
      (library.entries table).lookup setting.name = library.effective? file env setting := by
  refine ⟨_, congrArg _ read, fun setting => ?_⟩
  have ofFile : (library.entries (library.setAll library.empty file)).lookup setting.name =
      library.given? file setting.name := by
    rw [lookup_setAll laws (flat.file file read), laws.entries_empty]
    · exact Option.or_none
    · intro assignment _
      rw [laws.entries_empty]
      exact .inr rfl
  have names := names_environmentAssignments laws flat
  rw [lookup_setAll laws (names ▸ flat.environment), given?_environmentAssignments laws flat,
    ofFile]
  · rfl
  · exact fun assignment member =>
      .inl (isScalar_environmentAssignments laws flat assignment member)

/-! ## What the settings hold -/

/-- What an entry's value, or no entry, makes of a setting. -/
def Fills (library : Library) (value : Option library.Value) (setting : Setting)
    (held? : Option setting.Carrier) : Prop :=
  match value with
  | none => held? = none
  | some value => ∃ held, library.convert? setting.kind value = some held ∧ held? = some held

/-- One more entry fills the setting of its name, and what it holds is what its value converts
to. -/
theorem fill?_known_iff (laws : library.Laws) {setting : Setting} {value : library.Value}
    (once : setting.name ∉ entries.map Prod.fst) {given : Given} :
    library.fill? ((setting.name, value) :: entries) = some given ↔
      ∃ held before, library.convert? setting.kind value = some held ∧
        library.fill? entries = some before ∧ given = before.set setting held := by
  rw [laws.fill?_of_known once]
  simp only [Option.bind_eq_some_iff, Option.map_eq_some_iff]
  constructor
  · rintro ⟨held, converted, before, filled, rfl⟩
    exact ⟨held, before, converted, filled, rfl⟩
  · rintro ⟨held, before, converted, filled, rfl⟩
    exact ⟨held, converted, before, filled, rfl⟩

/-- One more setting is filled, and all others as by the other entries, which do not fill this
one. -/
theorem fills_set_iff {own : Setting} {held : own.Carrier} {given : Given}
    (unset : entries.lookup own.name = none) :
    (∃ before : Given, (∀ setting : Setting,
          library.Fills (entries.lookup setting.name) setting (before setting)) ∧
        given = before.set own held) ↔
      given own = some held ∧ ∀ setting : Setting, own ≠ setting →
        library.Fills (entries.lookup setting.name) setting (given setting) := by
  constructor
  · rintro ⟨before, filled, rfl⟩
    refine ⟨before.set_self own held, fun setting other => ?_⟩
    rw [Given.set_of_ne _ _ other]
    exact filled setting
  · rintro ⟨set, others⟩
    refine ⟨fun setting => if own = setting then none else given setting, fun setting => ?_,
      funext fun setting => ?_⟩
    · by_cases same : own = setting
      · subst same
        rw [unset]
        exact if_pos rfl
      · simpa only [if_neg same] using others setting same
    · by_cases same : own = setting
      · subst same
        rw [Given.set_self, set]
      · rw [Given.set_of_ne _ _ same, if_neg same]

/-- Entries of different names fill the settings of their names, and each setting is filled by its
own entry alone. -/
theorem fill?_eq_some_iff (laws : library.Laws) (once : (entries.map Prod.fst).Nodup)
    {given : Given} : library.fill? entries = some given ↔ ∀ setting : Setting,
      library.Fills (entries.lookup setting.name) setting (given setting) := by
  induction entries generalizing given with
  | nil =>
    rw [laws.fill?_nil]
    constructor
    · rintro ⟨⟩ setting
      rfl
    · intro unset
      exact congrArg some (funext fun setting => (unset setting).symm)
  | cons entry rest ih =>
    obtain ⟨name, value⟩ := entry
    rw [List.map_cons, List.nodup_cons] at once
    obtain ⟨absent, once⟩ := once
    have elsewhere {setting : Setting} (other : setting.name ≠ name) :
        ((name, value) :: rest).lookup setting.name = rest.lookup setting.name := by
      rw [List.lookup_cons, beq_eq_false_iff_ne.2 other]
    by_cases known : ∃ own : Setting, own.name = name
    · obtain ⟨own, rfl⟩ := known
      have here : ((own.name, value) :: rest).lookup own.name = some value := by
        rw [List.lookup_cons, beq_self_eq_true]
      have apart {setting : Setting} (other : own ≠ setting) : setting.name ≠ own.name :=
        fun same => other (Setting.name_injective same).symm
      have unset : rest.lookup own.name = none := by
        rw [List.lookup_eq_none_iff]
        intro entry member
        exact bne_iff_ne.2 fun same => absent (List.mem_map.2 ⟨entry, member, same.symm⟩)
      rw [fill?_known_iff laws absent]
      constructor
      · rintro ⟨held, before, converted, filled, eq⟩
        obtain ⟨set, others⟩ := (fills_set_iff unset).1 ⟨before, (ih once).1 filled, eq⟩
        intro setting
        by_cases same : own = setting
        · subst same
          rw [here]
          exact ⟨held, converted, set⟩
        · rw [elsewhere (apart same)]
          exact others setting same
      · intro fills
        have fillsOwn := fills own
        rw [here] at fillsOwn
        obtain ⟨held, converted, set⟩ := fillsOwn
        have others (setting : Setting) (other : own ≠ setting) :
            library.Fills (rest.lookup setting.name) setting (given setting) := by
          rw [← elsewhere (apart other)]
          exact fills setting
        obtain ⟨before, filled, eq⟩ := (fills_set_iff unset).2 ⟨set, others⟩
        exact ⟨held, before, converted, (ih once).2 filled, eq⟩
    · rw [not_exists] at known
      rw [laws.fill?_of_unknown known, ih once]
      exact forall_congr' fun setting => by rw [elsewhere (known setting)]

theorem Fills.holds {value : Option library.Value} {setting : Setting}
    {held? : Option setting.Carrier} (fills : library.Fills value setting held?)
    (default : setting.Carrier) :
    Holds value (library.convert? setting.kind) default (held?.getD default) := by
  cases value with
  | none =>
    rw [show held? = none from fills]
    exact rfl
  | some value =>
    obtain ⟨held, converted, rfl⟩ := fills
    exact converted

theorem fills_of_holds {value : Option library.Value} {setting : Setting}
    {default held : setting.Carrier}
    (holds : Holds value (library.convert? setting.kind) default held) :
    library.Fills value setting (value.map fun _ => held) ∧
      (value.map fun _ => held).getD default = held := by
  cases value with
  | none => exact ⟨rfl, Eq.symm holds⟩
  | some value => exact ⟨⟨held, holds, rfl⟩, rfl⟩

theorem config?_eq_some_iff (laws : library.Laws) :
    library.config? table = some config ↔
      library.Holding (fun setting => (library.entries table).lookup setting.name) config := by
  unfold config?
  rw [Option.map_eq_some_iff]
  constructor
  · rintro ⟨given, filled, rfl⟩ setting
    rw [Config.get_ofSettings]
    exact ((fill?_eq_some_iff laws (laws.entries_nodup table)).1 filled setting).holds _
  · intro holding
    have fills (setting : Setting) := fills_of_holds (holding setting)
    refine ⟨_, (fill?_eq_some_iff laws (laws.entries_nodup table)).2 fun setting =>
      (fills setting).1, ?_⟩
    rw [← config.ofSettings_get]
    exact congrArg Config.ofSettings (funext fun setting => (fills setting).2)

/-- Settings can hold something exactly if each of them can take its value. -/
theorem exists_holding_iff {value : Setting → Option library.Value} :
    (∃ config, library.Holding value config) ↔ library.Convertible value := by
  constructor
  · rintro ⟨config, holding⟩ setting found given
    have holds := holding setting
    rw [given] at holds
    exact Option.isSome_iff_exists.2 ⟨_, holds⟩
  · intro convertible
    have each (setting : Setting) : ∃ held : setting.Carrier, Holds (value setting)
        (library.convert? setting.kind) (({} : Config).get setting) held := by
      cases given : value setting with
      | none => exact ⟨_, rfl⟩
      | some found => exact Option.isSome_iff_exists.1 (convertible setting found given)
    choose held holds using each
    refine ⟨.ofSettings held, fun setting => ?_⟩
    rw [Config.get_ofSettings]
    exact holds setting

/-- What the settings hold is settled by their values. -/
theorem Holding.unique {value : Setting → Option library.Value} {config' : Config}
    (holding : library.Holding value config) (holding' : library.Holding value config') :
    config = config' := by
  rw [← config.ofSettings_get, ← config'.ofSettings_get]
  exact congrArg Config.ofSettings
    (funext fun setting => (holding setting).unique (holding' setting))

/-! ## What is loaded -/

theorem load_of_flat (laws : library.Laws) (flat : library.FlatSources source env) :
    library.load source env = .ok config ↔
      ∃ file, library.fileAssignments? source = some file ∧
        library.Holding (library.effective? file env) config ∧ config.fault? = none := by
  rw [load_eq_ok_iff]
  constructor
  · rintro ⟨table, collected, found, fit⟩
    obtain ⟨file, read, -⟩ := Option.map_eq_some_iff.1 collected
    obtain ⟨table', collected', values⟩ := lookup_table? laws flat read
    obtain rfl := Option.some.inj (collected.symm.trans collected')
    rw [config?_eq_some_iff laws, funext values] at found
    exact ⟨file, read, found, fit⟩
  · rintro ⟨file, read, holding, fit⟩
    obtain ⟨table, collected, values⟩ := lookup_table? laws flat read
    refine ⟨table, collected, ?_, fit⟩
    rw [config?_eq_some_iff laws, funext values]
    exact holding

theorem loadable_of_flat (laws : library.Laws) (flat : library.FlatSources source env) :
    (∃ config, library.load source env = .ok config) ↔ library.Loadable source env := by
  constructor
  · rintro ⟨config, loaded⟩
    obtain ⟨file, read, holding, fit⟩ := (load_of_flat laws flat).1 loaded
    refine ⟨file, read, exists_holding_iff.1 ⟨config, holding⟩, fun config' holding' => ?_⟩
    rw [← holding.unique holding']
    exact fit
  · rintro ⟨file, read, convertible, fit⟩
    obtain ⟨config, holding⟩ := exists_holding_iff.2 convertible
    exact ⟨config, (load_of_flat laws flat).2 ⟨file, read, holding, fit config holding⟩⟩

/-- Whatever flat sources say of other things than the settings, and whatever the file says of a
setting that the environment gives, the same is loaded, or the same problem is found. -/
theorem load_congr (laws : library.Laws) {source' : Source} {env' : List (String × String)}
    {file' : List (String × library.Value)} (flat : library.FlatSources source env)
    (flat' : library.FlatSources source' env') (read : library.fileAssignments? source = some file)
    (read' : library.fileAssignments? source' = some file')
    (same : ∀ setting, library.effective? file' env' setting =
      library.effective? file env setting) :
    library.load source' env' = library.load source env := by
  obtain ⟨table, collected, values⟩ := lookup_table? laws flat read
  obtain ⟨table', collected', values'⟩ := lookup_table? laws flat' read'
  have equal : library.config? table' = library.config? table := by
    refine Option.ext fun config => ?_
    rw [config?_eq_some_iff laws, config?_eq_some_iff laws, funext values, funext values',
      funext same]
  unfold load
  rw [collected, collected']
  dsimp only
  rw [equal]

/-- The settings of a link come setting by setting from the environment, the file, or the
defaults. -/
theorem layered_of_flat (laws : library.Laws) (flat : library.FlatSources source env) :
    library.Layered source env where
  succeeds := loadable_of_flat laws flat
  holds config := load_of_flat laws flat
  only source' env' file file' flat' read read' same := load_congr laws flat flat' read read' same
  fit config loaded := by
    obtain ⟨file, read, holding, fit⟩ := (load_of_flat laws flat).1 loaded
    exact Config.fault?_eq_none_iff.1 fit

end Library

/-! ## A value that is replaced, and a path -/

/-- A file with a size in words, a setting, and something that is none. -/
def shadowedFile : Source :=
  .text "MAX_FRAME_SIZE = \"lots\"\nwrite_queue_depth = 4\ncolours = [1, 2]"

/-- An environment that gives the size, another setting, and something that is none. -/
def shadowingEnvironment : List (String × String) :=
  [("TXLINK_MAX_FRAME_SIZE", "4096"), ("txlink_nodelay", "off"), ("TXLINK_COLOUR", "blue")]

theorem fileAssignments?_shadowed : standard.fileAssignments? shadowedFile =
    some [("MAX_FRAME_SIZE", Value.text "lots"), ("write_queue_depth", Value.integer 4),
      ("colours", Value.nested)] := by
  have read : Standard.document?
      "MAX_FRAME_SIZE = \"lots\"\nwrite_queue_depth = 4\ncolours = [1, 2]" =
        some [("MAX_FRAME_SIZE", .text "lots"), ("write_queue_depth", .integer 4),
          ("colours", .nested)] := by
    decide +kernel
  exact read

theorem flatSources_shadowed : standard.FlatSources shadowedFile shadowingEnvironment where
  file file read := by
    obtain rfl := Option.some.inj (fileAssignments?_shadowed.symm.trans read)
    exact Library.flat_of_unmarked standard_laws (by decide +kernel) (by decide +kernel)
  environment := Library.flat_of_unmarked standard_laws (by decide +kernel) (by decide +kernel)
  unnested := by decide +kernel

theorem layered_of_flat_shadowed :
    standard.Laws ∧ standard.FlatSources shadowedFile shadowingEnvironment ∧
      standard.Layered shadowedFile shadowingEnvironment ∧
      load shadowedFile shadowingEnvironment =
        .ok { maxFrameSize := 4096, writeQueueDepth := 4, nodelay := false } := by
  have layered := Library.layered_of_flat standard_laws flatSources_shadowed
  refine ⟨standard_laws, flatSources_shadowed, layered,
    (layered.holds _).2 ⟨_, fileAssignments?_shadowed, ?_, rfl⟩⟩
  intro setting
  cases setting <;> decide +kernel

/-- A file whose only key is spelled like no setting, and leads into one. -/
def pathFile : Source :=
  .text "\"nodelay.x\" = true"

/-- A key that leads into a setting keeps the settings from being loaded, although no setting is
named and no two names are alike. -/
theorem path_spoils_setting :
    standard.fileAssignments? pathFile = some [("nodelay.x", Value.truth true)] ∧
      (∀ setting : Setting, standard.given? [("nodelay.x", Value.truth true)] setting.name = none) ∧
      load .none [] = .ok {} ∧ load pathFile [] = .error .unconvertible ∧
      ¬((∃ config, load pathFile [] = .ok config) ↔ standard.Loadable pathFile []) := by
  have read : Standard.document? "\"nodelay.x\" = true" = some [("nodelay.x", .truth true)] := by
    decide +kernel
  have refused : load pathFile [] = .error .unconvertible := by decide +kernel
  have unnamed : ∀ setting : Setting,
      standard.given? [("nodelay.x", Value.truth true)] setting.name = none := by
    intro setting
    cases setting <;> decide +kernel
  -- no setting has a value, so all of them hold their defaults
  have defaults : standard.Holding
      (standard.effective? [("nodelay.x", Value.truth true)] []) {} := by
    intro setting
    rw [Library.effective?, unnamed]
    exact rfl
  have loadable : standard.Loadable pathFile [] :=
    ⟨_, read, Library.exists_holding_iff.1 ⟨{}, defaults⟩, fun config holding => by
      rw [← defaults.unique holding]
      rfl⟩
  refine ⟨read, unnamed, by decide +kernel, refused, fun same => ?_⟩
  obtain ⟨config, loaded⟩ := same.2 loadable
  rw [refused] at loaded
  cases loaded

end Multiplex.Settings
