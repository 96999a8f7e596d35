import Multiplex.Message.Record
import Mathlib.Data.List.Sort

/-!
# Field records one after another

The written form of some fields is one record for each of them (`Message.spell`). A byte string
that is read as fields begins with such records, of different numbers, and then it ends or goes on
with something that is no record (`Message.RecordFault`, `Message.spelled`). What is read is told by
the records alone (`Message.unpackFields_spell`, `Message.unpackFields_of_fault`), and a byte string
begins with records in one way only (`Message.prefix_of_spell_append`).
-/

namespace Multiplex

/-! ## ASCII bytes -/

namespace Text

theorem isAscii_iff {text : String} : isAscii text = true ↔ ∀ b ∈ encode text, b < 0x80 := by
  simp [isAscii]

/-- The UTF-8 bytes of some characters. -/
theorem encode_ofList (chars : List Char) :
    encode (String.ofList chars) = chars.flatMap String.utf8EncodeChar := by
  rw [encode, String.toByteArray_ofList, List.utf8Encode, List.data_toByteArray, List.toList_toArray]

/-- A character below `0x80` is written as one byte. -/
theorem utf8EncodeChar_ofNat {b : UInt8} (ascii : b < 0x80) :
    String.utf8EncodeChar (Char.ofNat b.toNat) = [b] := by
  have small : b.toNat < 128 := UInt8.lt_iff_toNat_lt.1 ascii
  have value : (Char.ofNat b.toNat).val.toNat = b.toNat := by
    have valid : b.toNat.isValidChar := .inl (by omega)
    rw [Char.ofNat, dif_pos valid]
    rfl
  unfold String.utf8EncodeChar
  rw [value]
  dsimp only
  rw [if_pos (by omega), UInt8.ofNat_toNat]

/-- Bytes below `0x80` are the written form of a text. -/
theorem exists_encode_of_ascii {bytes : Bytes} (ascii : ∀ b ∈ bytes, b < 0x80) :
    ∃ text, encode text = bytes := by
  refine ⟨String.ofList (bytes.map fun b => Char.ofNat b.toNat), ?_⟩
  rw [encode_ofList, List.flatMap_map]
  induction bytes with
  | nil => rfl
  | cons b rest ih =>
    obtain ⟨first, later⟩ := List.forall_mem_cons.1 ascii
    rw [List.flatMap_cons, utf8EncodeChar_ofNat first, ih later, List.singleton_append]

end Text

/-! ## Fields put into a map one after another -/

namespace Fields

variable {fields others : Fields} {entries : List (FieldId × String)} {id : FieldId}

/-- The map with some fields put into it, one after another. -/
def insertAll (fields : Fields) (entries : List (FieldId × String)) : Fields :=
  entries.foldl (fun fields entry => fields.insert entry.1 entry.2) fields

theorem contains_iff : fields.contains id = true ↔ id ∈ fields.entries.map Prod.fst := by
  rw [contains, get?, ← not_iff_not, Bool.not_eq_true, Option.isSome_eq_false_iff,
    Option.isNone_iff_eq_none, List.lookup_eq_none_iff, List.mem_map]
  constructor
  · rintro none ⟨entry, member, rfl⟩
    simpa using none entry member
  · intro absent entry member
    rw [bne_iff_ne]
    rintro rfl
    exact absent ⟨entry, member, rfl⟩

/-- A record with a new number only finds its place. -/
theorem perm_place (new : id ∉ entries.map Prod.fst) (value : String) :
    (place id value entries).Perm ((id, value) :: entries) := by
  induction entries with
  | nil => exact .refl _
  | cons head rest ih =>
    rw [List.map_cons, List.mem_cons, not_or] at new
    obtain ⟨differs, new⟩ := new
    rw [place, if_neg differs]
    split
    · exact .refl _
    · exact ((ih new).cons head).trans (.swap _ _ _)

theorem perm_insertAll (fields : Fields)
    (new : (fields.entries.map Prod.fst ++ entries.map Prod.fst).Nodup) :
    (fields.insertAll entries).entries.Perm (fields.entries ++ entries) := by
  induction entries generalizing fields with
  | nil =>
    rw [List.append_nil]
    exact .refl _
  | cons entry rest ih =>
    have apart : entry.1 ∉ fields.entries.map Prod.fst := by
      intro member
      exact (List.nodup_append.1 new).2.2 _ member _ List.mem_cons_self rfl
    have placed : (fields.insert entry.1 entry.2).entries.Perm (entry :: fields.entries) :=
      perm_place apart entry.2
    have numbers : ((fields.insert entry.1 entry.2).entries.map Prod.fst ++
        rest.map Prod.fst).Perm (fields.entries.map Prod.fst ++ (entry :: rest).map Prod.fst) :=
      ((placed.map Prod.fst).append_right _).trans List.perm_middle.symm
    have later := ih _ (numbers.nodup_iff.2 new)
    exact later.trans ((placed.append_right rest).trans List.perm_middle.symm)

/-- Numbers in ascending order are different. -/
theorem nodup_of_ascending (ascending : Ascending entries) : (entries.map Prod.fst).Nodup := by
  rw [List.Nodup, List.pairwise_map]
  exact ascending.imp fun less same => UInt16.ne_of_lt less same

/-- Fields in ascending order are told by which fields they are. -/
theorem eq_of_perm_of_ascending {entries others : List (FieldId × String)}
    (perm : entries.Perm others) (ascending : Ascending entries) (ascending' : Ascending others) :
    entries = others :=
  perm.eq_of_pairwise (fun _ _ _ _ less less' => absurd less' (UInt16.lt_asymm less))
    ascending ascending'

theorem eq_of_perm (perm : fields.entries.Perm others.entries) : fields = others := by
  have same := eq_of_perm_of_ascending perm fields.ascending others.ascending
  cases fields
  cases others
  cases same
  rfl

end Fields

namespace Message

variable {entries : List (FieldId × String)} {written rest : Bytes} {fault : WireError}
  {offset : Nat} {fields : Fields} {seen : List FieldId}

/-- The value of a field is short enough for its record. -/
def Fits (entry : FieldId × String) : Prop :=
  (Text.encode entry.2).length ≤ maxValueLength

instance (entry : FieldId × String) : Decidable (Fits entry) :=
  inferInstanceAs (Decidable (_ ≤ _))

/-- The records of some fields, one after another. -/
def spell (entries : List (FieldId × String)) : Bytes :=
  entries.flatMap fun entry => record entry.1 (Text.encode entry.2)

/-- What is wrong with a byte string that should go on with a record, when records of some numbers
have been seen. Of the things that may be wrong each presupposes that those before it are not. -/
inductive RecordFault (offset : Nat) (seen : List FieldId) : Bytes → WireError → Prop
  /-- It ends within the number and the length. -/
  | cut {bytes : Bytes} (more : bytes ≠ []) (short : bytes.length < 4) :
      RecordFault offset seen bytes
        (.tooShort 4 bytes.length ("field record header at offset " ++ toString offset))
  /-- It ends within the value. -/
  | truncated {i j k l : UInt8} {bytes : Bytes} (short : bytes.length < Bytes.ofWord16 k l) :
      RecordFault offset seen (i :: j :: k :: l :: bytes)
        (.truncatedField (.ofNat (Bytes.ofWord16 i j)) offset (Bytes.ofWord16 k l) bytes.length)
  /-- The value is no text. -/
  | garbled {i j k l : UInt8} {value bytes : Bytes} (length : value.length = Bytes.ofWord16 k l)
      (noText : Text.decode? value = none) :
      RecordFault offset seen (i :: j :: k :: l :: (value ++ bytes))
        (.badField (.ofNat (Bytes.ofWord16 i j)) (valueFault value))
  /-- The number has been seen. -/
  | repeated {id : FieldId} {text : String} {bytes : Bytes} (fits : Fits (id, text))
      (again : id ∈ seen) : RecordFault offset seen (record id (Text.encode text) ++ bytes)
        (.duplicateField id offset)

/-! ## Writing -/

@[simp] theorem spell_nil : spell [] = [] := rfl

theorem spell_cons (entry : FieldId × String) (entries : List (FieldId × String)) :
    spell (entry :: entries) = record entry.1 (Text.encode entry.2) ++ spell entries := rfl

theorem length_record (id : FieldId) (value : Bytes) :
    (record id value).length = 4 + value.length := by
  simp only [record, List.length_append, Bytes.length_word16]
  omega

/-- Records in another order take as many bytes. -/
theorem length_spell_of_perm {others : List (FieldId × String)} (perm : entries.Perm others) :
    (spell entries).length = (spell others).length :=
  (perm.flatMap_right _).length_eq

/-- A record is its number in two octets, the length of its value in two octets, and its value. -/
theorem record_eq (id : FieldId) {value : Bytes} (short : value.length ≤ maxValueLength) :
    ∃ i j k l, record id value = i :: j :: k :: l :: value ∧
      UInt16.ofNat (Bytes.ofWord16 i j) = id ∧ Bytes.ofWord16 k l = value.length := by
  have bound : value.length < 65536 := Nat.lt_succ_of_le short
  refine ⟨_, _, _, _, rfl, ?_, Bytes.ofWord16_word16 bound⟩
  rw [Bytes.ofWord16_word16 id.toNat_lt, UInt16.ofNat_toNat]

/-- The records are written, unless a value does not fit; the first such value is reported. -/
theorem packFields_eq (entries : List (FieldId × String)) :
    packFields entries = match entries.find? fun entry => !decide (Fits entry) with
      | none => .ok (spell entries)
      | some entry => .error (.badField entry.1 "value longer than 65535 bytes") := by
  induction entries with
  | nil => rfl
  | cons head rest ih =>
    rw [packFields, List.find?_cons]
    by_cases fits : Fits head
    · rw [if_neg (Nat.not_lt.2 fits), ih]
      simp only [fits, decide_true, Bool.not_true]
      cases rest.find? _ with
      | none => rfl
      | some entry => rfl
    · rw [if_pos (Nat.not_le.1 fits)]
      simp only [fits, decide_false, Bool.not_false]

theorem packFields_eq_ok_iff :
    packFields entries = .ok written ↔
      (∀ entry ∈ entries, Fits entry) ∧ written = spell entries := by
  rw [packFields_eq]
  cases found : entries.find? fun entry => !decide (Fits entry) with
  | none =>
    have fit : ∀ entry ∈ entries, Fits entry := fun entry member => by
      simpa using List.find?_eq_none.1 found entry member
    rw [Except.ok.injEq, eq_comm]
    exact (and_iff_right fit).symm
  | some entry =>
    have unfit : ¬Fits entry := by simpa using List.find?_some found
    simp only [reduceCtorEq, false_iff]
    exact fun fit => unfit (fit.1 entry (List.mem_of_find?_eq_some found))

/-! ## Reading -/

/-- A record at the front is read, unless its number has been read before. -/
theorem unpackFields_record {id : FieldId} {text : String} (fits : Fits (id, text)) (offset : Nat)
    (rest : Bytes) (fields : Fields) :
    unpackFields offset (record id (Text.encode text) ++ rest) fields =
      if fields.contains id then .error (.duplicateField id offset)
      else unpackFields (offset + (record id (Text.encode text)).length) rest
        (fields.insert id text) := by
  obtain ⟨i, j, k, l, bytes, number, length⟩ := record_eq id fits
  rw [length_record, bytes, List.cons_append, List.cons_append, List.cons_append, List.cons_append,
    unpackFields]
  simp only [number, length, List.take_left, List.drop_left, Nat.lt_irrefl, if_false,
    Text.decode?_encode, Nat.add_assoc]

/-- Records of different numbers at the front are read one after another. -/
theorem unpackFields_spell (fit : ∀ entry ∈ entries, Fits entry) (offset : Nat) (rest : Bytes)
    (fields : Fields) (new : (fields.entries.map Prod.fst ++ entries.map Prod.fst).Nodup) :
    unpackFields offset (spell entries ++ rest) fields =
      unpackFields (offset + (spell entries).length) rest (fields.insertAll entries) := by
  induction entries generalizing offset fields with
  | nil => rfl
  | cons entry others ih =>
    obtain ⟨fits, fit⟩ := List.forall_mem_cons.1 fit
    have apart : entry.1 ∉ fields.entries.map Prod.fst := by
      intro member
      exact (List.nodup_append.1 new).2.2 _ member _ List.mem_cons_self rfl
    have numbers := (((Fields.perm_place apart entry.2).map Prod.fst).append_right
      (others.map Prod.fst)).trans List.perm_middle.symm
    have later := ih fit (offset + (record entry.1 (Text.encode entry.2)).length)
      (fields.insert entry.1 entry.2) (numbers.nodup_iff.2 new)
    rw [spell_cons, List.append_assoc, unpackFields_record fits,
      if_neg (by rwa [Fields.contains_iff]), later, List.length_append, Nat.add_assoc]
    rfl

/-- It matters which numbers have been seen, not in which order. -/
theorem RecordFault.of_seen {others : List FieldId} (faulty : RecordFault offset seen rest fault)
    (same : ∀ id, id ∈ seen ↔ id ∈ others) : RecordFault offset others rest fault := by
  cases faulty with
  | cut more short => exact .cut more short
  | truncated short => exact .truncated short
  | garbled length noText => exact .garbled length noText
  | repeated fits again => exact .repeated fits ((same _).1 again)

/-- What is no record is reported. -/
theorem unpackFields_of_fault
    (faulty : RecordFault offset (fields.entries.map Prod.fst) rest fault) :
    unpackFields offset rest fields = .error fault := by
  cases faulty with
  | cut more short =>
    match rest, more, short with
    | [_], _, _ | [_, _], _, _ | [_, _, _], _, _ => rw [unpackFields] <;> simp
  | @truncated i j k l bytes short =>
    have less : (bytes.take (Bytes.ofWord16 k l)).length < Bytes.ofWord16 k l := by
      rw [List.length_take]
      omega
    rw [unpackFields]
    exact if_pos less
  | @garbled i j k l value bytes length noText =>
    rw [unpackFields]
    simp only [← length, List.take_left, Nat.lt_irrefl, if_false, noText]
  | repeated fits again => rw [unpackFields_record fits, if_pos (Fields.contains_iff.2 again)]

/-- A byte string begins with a record of a new number, or something is wrong with it. -/
theorem record_or_fault (offset : Nat) (seen : List FieldId) {bytes : Bytes} (more : bytes ≠ []) :
    (∃ entry rest, Fits entry ∧ entry.1 ∉ seen ∧
        bytes = record entry.1 (Text.encode entry.2) ++ rest) ∨
      ∃ fault, RecordFault offset seen bytes fault := by
  match bytes with
  | [] => exact absurd rfl more
  | [_] | [_, _] | [_, _, _] => exact .inr ⟨_, .cut more (by simp)⟩
  | i :: j :: k :: l :: rest =>
    by_cases short : rest.length < Bytes.ofWord16 k l
    · exact .inr ⟨_, .truncated short⟩
    · have length : (rest.take (Bytes.ofWord16 k l)).length = Bytes.ofWord16 k l := by
        rw [List.length_take]
        omega
      rw [← List.take_append_drop (Bytes.ofWord16 k l) rest]
      cases text : Text.decode? (rest.take (Bytes.ofWord16 k l)) with
      | none => exact .inr ⟨_, .garbled length text⟩
      | some value =>
        have bytes := Text.eq_encode_of_decode? text
        have fits : Fits (UInt16.ofNat (Bytes.ofWord16 i j), value) := by
          rw [Fits, ← bytes, length]
          exact Nat.le_of_lt_succ (Bytes.ofWord16_lt k l)
        have spelled : record (UInt16.ofNat (Bytes.ofWord16 i j)) (Text.encode value) =
            i :: j :: k :: l :: rest.take (Bytes.ofWord16 k l) := by
          have number : (UInt16.ofNat (Bytes.ofWord16 i j)).toNat = Bytes.ofWord16 i j := by
            rw [UInt16.toNat_ofNat', Nat.mod_eq_of_lt (Bytes.ofWord16_lt i j)]
          rw [← bytes, record, length, number, Bytes.word16_ofWord16, Bytes.word16_ofWord16]
          rfl
        rw [← List.cons_append, ← List.cons_append, ← List.cons_append, ← List.cons_append,
          ← spelled]
        by_cases again : UInt16.ofNat (Bytes.ofWord16 i j) ∈ seen
        · exact .inr ⟨_, .repeated fits again⟩
        · exact .inl ⟨(_, value), _, fits, again, rfl⟩

/-- A byte string begins with records of new numbers, and then it ends or something is wrong. -/
theorem spelled (offset : Nat) (seen : List FieldId) (bytes : Bytes) (once : seen.Nodup) :
    ∃ entries rest, bytes = spell entries ++ rest ∧ (∀ entry ∈ entries, Fits entry) ∧
      (seen ++ entries.map Prod.fst).Nodup ∧
      (rest = [] ∨ ∃ fault, RecordFault (offset + (spell entries).length)
        (seen ++ entries.map Prod.fst) rest fault) := by
  -- by induction on the length: a record at the front leaves less to be read
  induction length : bytes.length using Nat.strong_induction_on generalizing offset seen bytes with
  | _ n ih =>
  subst length
  by_cases more : bytes = []
  · exact ⟨[], [], more, fun _ => (nomatch ·), by simpa using once, .inl rfl⟩
  rcases record_or_fault offset seen more with ⟨entry, rest, fits, new, rfl⟩ | ⟨fault, faulty⟩
  · have shorter : rest.length < (record entry.1 (Text.encode entry.2) ++ rest).length := by
      rw [List.length_append, length_record]
      omega
    have once' : (seen ++ [entry.1]).Nodup :=
      List.nodup_append.2 ⟨once, List.nodup_singleton _, fun id member id' own => by
        rintro rfl
        exact new (List.mem_singleton.1 own ▸ member)⟩
    obtain ⟨entries, left, rfl, fit, numbers, stop⟩ := ih _ shorter
      (offset + (record entry.1 (Text.encode entry.2)).length) (seen ++ [entry.1]) rest once' rfl
    refine ⟨entry :: entries, left, ?_, List.forall_mem_cons.2 ⟨fits, fit⟩, ?_, ?_⟩
    · rw [spell_cons, List.append_assoc]
    · rwa [List.append_assoc] at numbers
    · rwa [List.append_assoc, Nat.add_assoc, ← List.length_append, ← spell_cons] at stop
  · refine ⟨[], bytes, rfl, fun _ => (nomatch ·), by simpa using once, .inr ⟨fault, ?_⟩⟩
    simpa using faulty

/-- Records at the front of a byte string that is made of records are among these. -/
theorem prefix_of_spell_append {others : List (FieldId × String)}
    (fit : ∀ entry ∈ entries, Fits entry) (fit' : ∀ entry ∈ others, Fits entry)
    (same : spell entries ++ rest = spell others) :
    ∃ later, others = entries ++ later ∧ rest = spell later := by
  induction entries generalizing others with
  | nil => exact ⟨others, rfl, same⟩
  | cons entry entries ih =>
    cases others with
    | nil =>
      have none := congrArg List.length same
      rw [spell_cons, List.append_assoc, List.length_append, length_record, spell_nil,
        List.length_nil] at none
      omega
    | cons other others =>
      obtain ⟨fits, fitLater⟩ := List.forall_mem_cons.1 fit
      obtain ⟨fits', fitLater'⟩ := List.forall_mem_cons.1 fit'
      obtain ⟨i, j, k, l, bytes, number, length⟩ := record_eq entry.1 fits
      obtain ⟨i', j', k', l', bytes', number', length'⟩ := record_eq other.1 fits'
      rw [spell_cons, spell_cons, bytes, bytes', List.append_assoc] at same
      simp only [List.cons_append, List.cons.injEq] at same
      obtain ⟨rfl, rfl, rfl, rfl, values⟩ := same
      obtain ⟨value, left⟩ := List.append_inj values (length.symm.trans length')
      obtain ⟨later, split, spelled⟩ := ih fitLater fitLater' left
      refine ⟨later, ?_, spelled⟩
      rw [split, List.cons_append,
        Prod.ext (number.symm.trans number') (Text.encode_injective value)]

/-! ## Type indicators -/

theorem unpackType_encode {indicator : String} (ascii : ∀ b ∈ Text.encode indicator, b < 0x80) :
    unpackType (Text.encode indicator) = .ok indicator := by
  rw [unpackType, Text.decode?_encode]
  exact if_pos (Text.isAscii_iff.2 ascii)

theorem unpackType_of_not_ascii {bytes : Bytes} (other : ∃ b ∈ bytes, 0x80 ≤ b) :
    unpackType bytes = .error (.badType (Text.decodeLossy bytes) "not ascii") := by
  obtain ⟨b, member, high⟩ := other
  unfold unpackType
  split
  · next indicator text =>
    rw [Text.eq_encode_of_decode? text] at member
    exact if_neg fun ascii => UInt8.not_lt.2 high (Text.isAscii_iff.1 ascii b member)
  · rfl

end Message

end Multiplex
