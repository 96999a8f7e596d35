import Multiplex.Proofs.Grammar

/-!
# Canonical form

Every message that can be written reads back, so different messages are written differently. Reading
takes the records of a message in any order, and writing the message again puts them in ascending
order of their numbers: what is written is a canonical form of what was read, of the same length,
and the same if the records were in order already.

Main statement: `Message.canonicalForm`.
-/

namespace Multiplex.Message

/-- The order of field numbers. -/
def numberLe (a b : FieldId × String) : Bool :=
  decide (a.1 ≤ b.1)

/-- A type indicator of four ASCII bytes. -/
structure FourAscii (indicator : String) : Prop where
  four : (Text.encode indicator).length = 4
  ascii : ∀ b ∈ Text.encode indicator, b < 0x80

/-- The message after some fields have been set; a text that is refused changes nothing. -/
def setAll (message : Message) (changes : List (FieldId × String)) : Message :=
  changes.foldl
    (fun message change =>
      match message.set change.1 change.2 with
      | .ok changed => changed
      | .error _ => message)
    message

/-- What writing makes of a message. -/
structure Writes (message : Message) : Prop where
  succeeds_iff : (∃ raw, message.pack = .ok raw) ↔
    FourAscii message.indicator ∧ ∀ entry ∈ message.fields.entries, Fits entry
  badType : ¬FourAscii message.indicator →
    message.pack = .error (.badType message.indicator "expected 4 ascii characters")
  /-- The smallest number of a field that does not fit is reported. -/
  badField : FourAscii message.indicator → ∀ entry ∈ message.fields.entries, ¬Fits entry →
    (∀ other ∈ message.fields.entries, ¬Fits other → entry.1 ≤ other.1) →
      message.pack = .error (.badField entry.1 "value longer than 65535 bytes")
  readsBack : ∀ raw, message.pack = .ok raw → unpack raw = .ok message

/-- What comes of writing a message again that was read. -/
inductive Rewrites (raw : Bytes) (message : Message) : Prop
  | intro {entries : List (FieldId × String)} {packed : Bytes}
      (spells : Spells message.indicator entries raw) (packs : message.pack = .ok packed)
      (sorted : packed = Text.encode message.indicator ++ spell (entries.mergeSort numberLe))
      (length : packed.length = raw.length) (again : unpack packed = .ok message)
      (same_iff : packed = raw ↔ (entries.map Prod.fst).Pairwise (· < ·))

/-- Writing and reading are inverse to each other, up to the order of records. -/
structure CanonicalForm : Prop where
  writes : ∀ message, Writes message
  injective : ∀ (message other : Message) (raw : Bytes),
    message.pack = .ok raw → other.pack = .ok raw → message = other
  rewrites : ∀ raw message, unpack raw = .ok message → Rewrites raw message
  /-- Messages on which fields were set only are among those that can be written. -/
  setAll : ∀ indicator changes, FourAscii indicator → ∃ raw,
    ((ofType indicator).setAll changes).pack = .ok raw ∧
      unpack raw = .ok ((ofType indicator).setAll changes)

variable {raw : Bytes} {message : Message} {indicator : String}
  {entries : List (FieldId × String)}

/-! ## Writing -/

theorem isWritableType_iff : isWritableType indicator = true ↔ FourAscii indicator := by
  rw [isWritableType, Bool.and_eq_true, beq_iff_eq, Text.isAscii_iff]
  exact ⟨fun writable => ⟨writable.1, writable.2⟩, fun writable => ⟨writable.four, writable.ascii⟩⟩

theorem pack_succeeds_iff : (∃ raw, message.pack = .ok raw) ↔
    FourAscii message.indicator ∧ ∀ entry ∈ message.fields.entries, Fits entry := by
  simp only [pack_eq_ok_iff]
  constructor
  · rintro ⟨raw, spells⟩
    exact ⟨⟨spells.four, spells.ascii⟩, spells.fit⟩
  · rintro ⟨type, fit⟩
    exact ⟨_, type.four, type.ascii, fit, Fields.nodup_of_ascending message.fields.ascending, rfl⟩

/-- The first field that does not fit has the smallest number of all that do not. -/
theorem find?_unfit {entry : FieldId × String} (ascending : Ascending entries)
    (member : entry ∈ entries) (unfit : ¬Fits entry)
    (least : ∀ other ∈ entries, ¬Fits other → entry.1 ≤ other.1) :
    entries.find? (fun entry => !decide (Fits entry)) = some entry := by
  obtain ⟨before, after, split⟩ := List.append_of_mem member
  refine List.find?_eq_some_iff_append.2 ⟨by simpa using unfit, before, after, split, ?_⟩
  intro other earlier
  rw [Bool.not_not, decide_eq_true_iff]
  by_contra unfit'
  rw [split] at ascending least
  have less := (List.pairwise_append.1 ascending).2.2 other earlier entry List.mem_cons_self
  exact UInt16.not_le.2 less (least other (List.mem_append_left _ earlier) unfit')

theorem writes_of_message (message : Message) : Writes message where
  succeeds_iff := pack_succeeds_iff
  badType other := by
    rw [pack, if_neg fun writable => other (isWritableType_iff.1 writable)]
  badField type entry member unfit least := by
    have found := find?_unfit message.fields.ascending member unfit least
    rw [pack, if_pos (isWritableType_iff.2 type), packFields_eq, found]
  readsBack _ := unpack_of_pack

/-! ## Writing again what was read -/

theorem ascending_iff : Ascending entries ↔ (entries.map Prod.fst).Pairwise (· < ·) :=
  List.pairwise_map.symm

theorem numberLe_trans (a b c : FieldId × String) (first : numberLe a b = true)
    (second : numberLe b c = true) : numberLe a c = true := by
  rw [numberLe, decide_eq_true_iff] at *
  exact UInt16.le_trans first second

theorem numberLe_total (a b : FieldId × String) : (numberLe a b || numberLe b a) = true := by
  rw [Bool.or_eq_true, numberLe, numberLe, decide_eq_true_iff, decide_eq_true_iff]
  exact UInt16.le_total _ _

/-- Fields of different numbers are in ascending order once they are sorted. -/
theorem ascending_mergeSort (once : (entries.map Prod.fst).Nodup) :
    Ascending (entries.mergeSort numberLe) := by
  have sorted := List.pairwise_mergeSort numberLe_trans numberLe_total entries
  have differ : ((entries.mergeSort numberLe).map Prod.fst).Nodup :=
    ((List.mergeSort_perm entries numberLe).map Prod.fst).nodup_iff.2 once
  rw [List.Nodup, List.pairwise_map] at differ
  refine (sorted.and differ).imp ?_
  rintro a b ⟨le, ne⟩
  exact UInt16.lt_of_le_of_ne (of_decide_eq_true le) ne

theorem rewrites_of_unpack (read : unpack raw = .ok message) : Rewrites raw message := by
  obtain ⟨entries, spells, perm⟩ := unpack_eq_ok_iff.1 read
  have sorted : message.fields.entries = entries.mergeSort numberLe :=
    Fields.eq_of_perm_of_ascending (perm.trans (List.mergeSort_perm entries numberLe).symm)
      message.fields.ascending (ascending_mergeSort spells.once)
  have written : Spells message.indicator message.fields.entries
      (Text.encode message.indicator ++ spell message.fields.entries) :=
    ⟨spells.four, spells.ascii, fun entry member => spells.fit entry (perm.subset member),
      Fields.nodup_of_ascending message.fields.ascending, rfl⟩
  refine .intro spells (pack_eq_ok_iff.2 written) (by rw [sorted]) ?_
    (unpack_of_pack (pack_eq_ok_iff.2 written)) ?_
  · rw [spells.bytes, List.length_append, List.length_append, length_spell_of_perm perm]
  · rw [← ascending_iff]
    constructor
    · intro same
      obtain ⟨-, own⟩ := spells.unique (same ▸ written)
      rw [← own]
      exact message.fields.ascending
    · intro ascending
      rw [spells.bytes, Fields.eq_of_perm_of_ascending perm message.fields.ascending ascending]

/-! ## Setting fields -/

theorem fit_set {changed : Message} {id : FieldId} {value : String}
    (set : message.set id value = .ok changed)
    (fit : ∀ entry ∈ message.fields.entries, Fits entry) :
    ∀ entry ∈ changed.fields.entries, Fits entry := by
  obtain ⟨fits, rfl⟩ := set_eq_ok_iff.1 set
  intro entry member
  rcases Fields.mem_place member with rfl | before
  · exact fits
  · exact fit entry before

/-- Setting fields keeps the type indicator, and every value fits as before. -/
theorem setAll_keeps (changes : List (FieldId × String))
    (fit : ∀ entry ∈ message.fields.entries, Fits entry) :
    (message.setAll changes).indicator = message.indicator ∧
      ∀ entry ∈ (message.setAll changes).fields.entries, Fits entry := by
  induction changes generalizing message with
  | nil => exact ⟨rfl, fit⟩
  | cons change rest ih =>
    rw [Message.setAll, List.foldl_cons]
    cases set : message.set change.1 change.2 with
    | error fault => exact ih fit
    | ok changed =>
      obtain ⟨indicator, fit'⟩ := ih (fit_set set fit)
      refine ⟨indicator.trans ?_, fit'⟩
      rw [(set_eq_ok_iff.1 set).2, indicator_withField]

theorem pack_setAll (changes : List (FieldId × String)) (type : FourAscii indicator) :
    ∃ raw, ((ofType indicator).setAll changes).pack = .ok raw ∧
      unpack raw = .ok ((ofType indicator).setAll changes) := by
  have none : ∀ entry ∈ (ofType indicator).fields.entries, Fits entry := fun _ => (nomatch ·)
  obtain ⟨same, fit⟩ := setAll_keeps changes none
  have writable : FourAscii ((ofType indicator).setAll changes).indicator := by
    rw [same]
    exact type
  obtain ⟨raw, packed⟩ := pack_succeeds_iff.2 ⟨writable, fit⟩
  exact ⟨raw, packed, unpack_of_pack packed⟩

/-- Messages and their written forms correspond, and reading and writing again sorts records. -/
theorem canonicalForm : CanonicalForm where
  writes := writes_of_message
  injective message other raw packed packed' := by
    have read := (unpack_of_pack packed).symm.trans (unpack_of_pack packed')
    exact Except.ok.inj read
  rewrites _ _ := rewrites_of_unpack
  setAll _ changes := pack_setAll changes

end Multiplex.Message
