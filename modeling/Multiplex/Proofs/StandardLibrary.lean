import Multiplex.Settings.Load
import Mathlib

/-!
# The library at hand keeps its laws

What a link relies on in a library that reads settings holds of the one at hand.

Main statement: `standard_laws`.
-/

namespace Multiplex.Settings

variable {name : List Char}

/-! ## Names in small letters -/

theorem foldCase_cons (c : Char) (rest : List Char) :
    foldCase (c :: rest) = (if c = '\u212a' then 'k' else c.toLower) :: foldCase rest := rfl

/-- What is no letter is no capital made small. -/
theorem eq_of_toLower_eq {c sign : Char} (noLetter : sign.isAlpha = false)
    (same : c.toLower = sign) : c = sign := by
  rw [← same, Char.toLower_eq_of_not_isUpper]
  intro upper
  rw [← same, Char.isAlpha_toLower_eq_isAlpha, Char.isAlpha, upper] at noLetter
  cases noLetter

theorem foldCase_foldCase (name : List Char) : foldCase (foldCase name) = foldCase name := by
  induction name with
  | nil => rfl
  | cons c rest ih =>
    rw [foldCase_cons, foldCase_cons, ih]
    congr 1
    by_cases kelvin : c = '\u212a'
    · rw [if_pos kelvin]
      decide
    · rw [if_neg kelvin, Char.toLower_toLower_eq_toLower, if_neg]
      exact fun again => kelvin (eq_of_toLower_eq (by decide) again)

/-- The end of a name in small letters is in small letters. -/
theorem foldCase_of_append {first rest : List Char} (same : foldCase name = first ++ rest) :
    foldCase rest = rest := by
  have folded := foldCase_foldCase name
  rw [same] at folded
  have parts : foldCase first ++ foldCase rest = first ++ rest := by
    rw [← folded, foldCase, foldCase, foldCase, List.map_append]
  exact (List.append_inj parts (by rw [foldCase, List.length_map])).2

theorem mem_of_mem_foldCase {sign : Char} (noLetter : sign.isAlpha = false)
    (member : sign ∈ foldCase name) : sign ∈ name := by
  obtain ⟨c, inside, same⟩ := List.mem_map.1 member
  by_cases kelvin : c = '\u212a'
  · rw [if_pos kelvin] at same
    rw [← same] at noLetter
    cases noLetter
  · rw [if_neg kelvin] at same
    rwa [← eq_of_toLower_eq noLetter same]

/-! ## Paths -/

theorem marked_of_isPathTail {fuel : Nat} {text : List Char} (tail : isPathTail fuel text = true)
    (filled : text ≠ []) : '.' ∈ text ∨ '[' ∈ text := by
  unfold isPathTail at tail
  split at tail
  · exact absurd rfl filled
  · cases tail
  · exact .inl List.mem_cons_self
  · exact .inr List.mem_cons_self
  · cases tail

theorem marked_of_target (inside : (target name).2 = true) : '.' ∈ name ∨ '[' ∈ name := by
  unfold target at inside
  dsimp only at inside
  split at inside
  · next path =>
    simp only [Bool.and_eq_true, Bool.not_eq_true', List.isEmpty_eq_false_iff] at path
    have from_tail {sign : Char} (member : sign ∈ (foldCase name).dropWhile isPathChar) :
        sign ∈ foldCase name :=
      (List.dropWhile_suffix _).subset member
    exact (marked_of_isPathTail path.2 path.1.2).imp
      (fun point => mem_of_mem_foldCase (by decide) (from_tail point))
      fun bracket => mem_of_mem_foldCase (by decide) (from_tail bracket)
  · cases inside

/-- A name that is no path is taken as a whole. -/
theorem target_of_simple (simple : (target name).2 = false) :
    target name = (foldCase name, false) := by
  unfold target at *
  dsimp only at *
  split at simple
  · cases simple
  · next whole => rw [if_neg whole]

/-! ## Layers -/

namespace Layer

variable {layer : Layer} {setting other : String} {value : Value}

theorem lookup_put : (layer.put setting value).entries.lookup setting = some value := by
  rw [put, List.lookup_cons, beq_self_eq_true]

theorem lookup_filter_ne (entries : List (String × Value)) (apart : setting ≠ other) :
    (entries.filter fun entry => entry.1 ≠ setting).lookup other = entries.lookup other := by
  induction entries with
  | nil => rfl
  | cons entry rest ih =>
    obtain ⟨own, value⟩ := entry
    by_cases same : own = setting
    · have elsewhere : (other == own) = false := by
        rw [beq_eq_false_iff_ne, same]
        exact apart.symm
      rw [List.filter_cons_of_neg (by simpa using same), ih, List.lookup_cons, elsewhere]
    · rw [List.filter_cons_of_pos (by simpa using same), List.lookup_cons, List.lookup_cons, ih]

theorem lookup_put_of_ne (apart : setting ≠ other) :
    (layer.put setting value).entries.lookup other = layer.entries.lookup other := by
  have elsewhere : (other == setting) = false := beq_eq_false_iff_ne.2 apart.symm
  rw [put, List.lookup_cons, elsewhere]
  exact lookup_filter_ne layer.entries apart

theorem assign_of_simple {name : String} (simple : (target name.toList).2 = false) :
    layer.assign name value =
      if value = .emptyTable && (layer.entries.lookup (Standard.fold name)).isSome then layer
      else layer.put (Standard.fold name) value := by
  unfold assign
  rw [target_of_simple simple]
  rfl

theorem lookup_assign {name : String} (simple : (target name.toList).2 = false)
    (new : Standard.isScalar value = true ∨
      layer.entries.lookup (Standard.fold name) = none) :
    (layer.assign name value).entries.lookup (Standard.fold name) = some value := by
  have put : layer.assign name value = layer.put (Standard.fold name) value := by
    rw [assign_of_simple simple, if_neg]
    intro merged
    rw [Bool.and_eq_true, decide_eq_true_iff] at merged
    obtain ⟨rfl, there⟩ := merged
    rcases new with scalar | absent
    · cases scalar
    · rw [absent] at there
      cases there
  rw [put, lookup_put]

theorem lookup_assign_of_ne {name : String} (simple : (target name.toList).2 = false)
    (apart : Standard.fold name ≠ other) :
    (layer.assign name value).entries.lookup other = layer.entries.lookup other := by
  rw [assign_of_simple simple]
  split
  · rfl
  · exact lookup_put_of_ne apart

end Layer

/-! ## Variables -/

theorem dotted_of_absent {nesting text : List Char} (absent : ¬nesting <:+: text) :
    dotted nesting 0 text = text := by
  induction text with
  | nil => rfl
  | cons c rest ih =>
    have elsewhere : ¬nesting.isPrefixOf (c :: rest) = true := fun start =>
      absent (List.isPrefixOf_iff_prefix.1 start).isInfix
    rw [dotted, if_neg (fun both => elsewhere (Bool.and_eq_true _ _ ▸ both).2),
      ih fun inside => absent (inside.trans (List.suffix_cons c rest).isInfix)]

/-! ## Filling settings -/

namespace Standard

variable {entries rest : List (String × Value)} {setting : Setting} {value : Value}

theorem fill?_of_unknown {name : String} (unknown : ∀ setting : Setting, setting.name ≠ name) :
    fill? ((name, value) :: rest) = fill? rest := by
  rw [fill?, Setting.ofName?_eq_none_iff.2 unknown]

/-- Entries give no setting a value whose name they do not have. -/
theorem given_of_fill? {given : Given} (filled : fill? entries = some given)
    (absent : setting.name ∉ entries.map Prod.fst) : given setting = none := by
  induction entries generalizing given with
  | nil =>
    cases filled
    rfl
  | cons entry rest ih =>
    obtain ⟨name, value⟩ := entry
    obtain ⟨other, absent⟩ := not_or.1 (mt List.mem_cons.2 absent)
    cases known : Setting.ofName? name with
    | none =>
      rw [fill?_of_unknown (Setting.ofName?_eq_none_iff.1 known)] at filled
      exact ih filled absent
    | some own =>
      simp only [fill?, known, Option.bind_eq_bind, Option.bind_eq_some_iff] at filled
      obtain ⟨held, -, before, filled, once⟩ := filled
      split at once
      · cases once
      · cases once
        have apart : own ≠ setting := by
          rintro rfl
          exact other (Setting.name_of_ofName? known)
        rw [Given.set_of_ne _ _ apart]
        exact ih filled absent

theorem fill?_of_known (once : setting.name ∉ rest.map Prod.fst) :
    fill? ((setting.name, value) :: rest) =
      (convert? setting.kind value).bind fun held =>
        (fill? rest).map fun given => given.set setting held := by
  rw [fill?, Setting.ofName?_name]
  refine Option.bind_congr fun held _ => ?_
  cases filled : fill? rest with
  | none => rfl
  | some given =>
    have unset := given_of_fill? filled once
    simp [unset]

end Standard

/-! ## The laws -/

theorem Standard.fold_name (setting : Setting) : fold setting.name = setting.name := by
  cases setting <;> decide +kernel

theorem isScalar_environmentValue (text : List Char) :
    Standard.isScalar (environmentValue text) = true := by
  unfold environmentValue
  dsimp only
  split
  · rfl
  · split
    · rfl
    · split
      · rfl
      · split <;> rfl

theorem fold_of_rest? {options : EnvironmentOptions} {name rest : String}
    (own : options.rest? Standard.fold name = some rest) : Standard.fold rest = rest := by
  unfold EnvironmentOptions.rest? at own
  dsimp only at own
  generalize Standard.fold (options.start ++ options.joint) = start at own
  have folded : (Standard.fold name).toList = foldCase name.toList := String.toList_ofList
  rw [folded] at own
  split at own
  · next starts =>
    obtain ⟨after, same⟩ := List.isPrefixOf_iff_prefix.1 starts
    rw [← same, List.drop_left] at own
    rw [← Option.some.inj own, Standard.fold, String.toList_ofList,
      foldCase_of_append same.symm]
  · cases own

theorem standard_assignment? : standard.assignment? = Standard.assignment? := by
  dsimp only [standard]

theorem assignment?_of_foreign {options : EnvironmentOptions} {name : String} (text : String)
    (foreign : standard.ownName? options name = none) :
    standard.assignment? options (name, text) = none := by
  have foreign : options.rest? Standard.fold name = none := foreign
  rw [standard_assignment?, Standard.assignment?, foreign, Option.map_none]
  rfl

theorem assignment?_of_own {options : EnvironmentOptions} {name rest : String} (text : String)
    (parses : options.parses = true) (own : standard.ownName? options name = some rest)
    (absent : ¬options.nesting.toList <:+: rest.toList) :
    standard.assignment? options (name, text) = some (rest, standard.parse text) := by
  have own : options.rest? Standard.fold name = some rest := own
  rw [standard_assignment?, Standard.assignment?, own, Option.map_some, dotted_of_absent absent,
    String.ofList_toList, if_pos parses]
  rfl

/-- The library at hand does what a link relies on. -/
theorem standard_laws : standard.Laws where
  fold_name := Standard.fold_name
  fold_own own := fold_of_rest? own
  marked_of_isPath inside := marked_of_target inside
  entries_empty := rfl
  entries_nodup := Layer.nodup
  lookup_set simple new := Layer.lookup_assign simple new
  lookup_set_of_ne simple apart := Layer.lookup_assign_of_ne simple apart
  isScalar_parse text := isScalar_environmentValue text.toList
  assignment?_of_foreign text foreign := assignment?_of_foreign text foreign
  assignment?_of_own text parses own absent := assignment?_of_own text parses own absent
  fill?_nil := rfl
  fill?_of_unknown unknown := Standard.fill?_of_unknown unknown
  fill?_of_known once := Standard.fill?_of_known once

end Multiplex.Settings
