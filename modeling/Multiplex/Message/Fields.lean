import Multiplex.WireError

/-!
# The fields of a message

A field map keeps one text per field number, in ascending order of the numbers. The order is part
of the type, so two maps with the same texts are equal.

Main statement: `get?_insert` (a value put under a number is found there, and what is found under
any other number is as before).
-/

namespace Multiplex

/-- Field records in strictly ascending order of their numbers. -/
abbrev Ascending (entries : List (FieldId × String)) : Prop :=
  entries.Pairwise fun a b => a.1 < b.1

/-- One text per field number, in ascending order of the numbers. -/
structure Fields where
  entries : List (FieldId × String)
  ascending : Ascending entries
  deriving DecidableEq

namespace Fields

/-- No field. -/
def empty : Fields :=
  ⟨[], .nil⟩

instance : Inhabited Fields := ⟨empty⟩

/-- Puts a record at its place, where it replaces a record of the same number. -/
def place (id : FieldId) (value : String) :
    List (FieldId × String) → List (FieldId × String)
  | [] => [(id, value)]
  | (k, v) :: rest =>
    if id < k then (id, value) :: (k, v) :: rest
    else if id = k then (id, value) :: rest
    else (k, v) :: place id value rest

theorem mem_place {id : FieldId} {value : String} {entries : List (FieldId × String)}
    {entry : FieldId × String} (h : entry ∈ place id value entries) :
    entry = (id, value) ∨ entry ∈ entries := by
  induction entries with
  | nil => simpa [place] using h
  | cons head rest ih =>
    obtain ⟨k, v⟩ := head
    simp only [place] at h
    split at h
    · simpa using h
    · split at h
      · simp only [List.mem_cons] at h ⊢
        exact h.imp_right .inr
      · simp only [List.mem_cons] at h ⊢
        rcases h with h | h
        · exact .inr (.inl h)
        · exact (ih h).imp_right .inr

theorem ascending_place {id : FieldId} {value : String} {entries : List (FieldId × String)}
    (h : Ascending entries) : Ascending (place id value entries) := by
  induction entries with
  | nil => simp [place, Ascending]
  | cons head rest ih =>
    obtain ⟨k, v⟩ := head
    have hk := (List.pairwise_cons.1 h).1
    have hrest := (List.pairwise_cons.1 h).2
    simp only [place]
    split
    · next lt =>
      refine List.pairwise_cons.2 ⟨?_, h⟩
      intro entry mem
      rcases List.mem_cons.1 mem with rfl | mem
      · exact lt
      · exact UInt16.lt_trans lt (hk entry mem)
    · next nlt =>
      split
      · next eq =>
        subst eq
        exact List.pairwise_cons.2 ⟨hk, hrest⟩
      · next ne =>
        refine List.pairwise_cons.2 ⟨?_, ih hrest⟩
        intro entry mem
        rcases mem_place mem with rfl | mem
        · exact UInt16.lt_of_le_of_ne (UInt16.not_lt.1 nlt) (fun e => ne e.symm)
        · exact hk entry mem

/-- Puts a text under a number, in place of any text there. -/
def insert (fields : Fields) (id : FieldId) (value : String) : Fields :=
  ⟨place id value fields.entries, ascending_place fields.ascending⟩

/-- The text under a number. -/
def get? (fields : Fields) (id : FieldId) : Option String :=
  fields.entries.lookup id

/-- A text is held under the number. -/
def contains (fields : Fields) (id : FieldId) : Bool :=
  (fields.get? id).isSome

/-- Looking a number up record by record. -/
theorem lookup_cons_eq_ite (key k : FieldId) (v : String) (rest : List (FieldId × String)) :
    ((k, v) :: rest).lookup key = if key = k then some v else rest.lookup key := by
  rw [List.lookup_cons]
  by_cases e : key = k
  · simp [e]
  · rw [beq_eq_false_iff_ne.2 e]
    simp [e]

theorem lookup_place (id : FieldId) (value : String) (entries : List (FieldId × String))
    (key : FieldId) :
    (place id value entries).lookup key = if key = id then some value else entries.lookup key := by
  induction entries with
  | nil => simp [place, lookup_cons_eq_ite]
  | cons head rest ih =>
    obtain ⟨k, v⟩ := head
    simp only [place]
    split
    · rw [lookup_cons_eq_ite]
    · split
      · next eq =>
        subst eq
        simp only [lookup_cons_eq_ite]
        split <;> rfl
      · next ne =>
        simp only [lookup_cons_eq_ite, ih]
        by_cases e : key = k
        · subst e
          simp [Ne.symm ne]
        · simp [e]

/-- A value put under a number is found there, and the rest of the map is as before. -/
theorem get?_insert (fields : Fields) (id : FieldId) (value : String) (key : FieldId) :
    (fields.insert id value).get? key = if key = id then some value else fields.get? key :=
  lookup_place id value fields.entries key

end Fields

end Multiplex
