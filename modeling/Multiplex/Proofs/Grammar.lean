import Multiplex.Proofs.Records

/-!
# Which byte strings are messages

A byte string is read as a message exactly if it is four ASCII bytes and, after them, complete
records of different numbers (`Message.Spells`); the message has just these fields. Any other byte
string is refused, and the fault is that of the first place at which it departs from this form
(`Message.FirstFault`). Reading by position, where every subtraction and every access is checked,
gives the same answer and never fails a check (`Message.scan?`).

Main statement: `Message.grammar_of_unpack`.
-/

namespace Multiplex

namespace Bytes

/-- The bytes from one position up to another, if these are positions in the byte string. -/
def slice? (bytes : Bytes) (start stop : Nat) : Option Bytes :=
  if start ≤ stop ∧ stop ≤ bytes.length then some ((bytes.take stop).drop start) else none

/-- The number that the octets at a position and at the next one write, if both are there. -/
def word16At? (bytes : Bytes) (position : Nat) : Option Nat :=
  match bytes[position]?, bytes[position + 1]? with
  | some high, some low => some (ofWord16 high low)
  | _, _ => none

end Bytes

/-- A difference that is not negative. -/
def difference? (a b : Nat) : Option Nat :=
  if b ≤ a then some (a - b) else none

/-- The first fields of a map. -/
def Fields.take (fields : Fields) (count : Nat) : Fields :=
  ⟨fields.entries.take count, fields.ascending.sublist (List.take_sublist _ _)⟩

namespace Message

/-- A byte string that spells a type indicator and fields of different numbers, in any order. -/
structure Spells (indicator : String) (entries : List (FieldId × String)) (raw : Bytes) : Prop where
  four : (Text.encode indicator).length = 4
  ascii : ∀ b ∈ Text.encode indicator, b < 0x80
  fit : ∀ entry ∈ entries, Fits entry
  once : (entries.map Prod.fst).Nodup
  bytes : raw = Text.encode indicator ++ spell entries

/-- What is wrong with a byte string at the first place at which something is. -/
inductive FirstFault : Bytes → WireError → Prop
  | tooShort {raw : Bytes} (short : raw.length < 4) :
      FirstFault raw (.tooShort 4 raw.length "message type indicator")
  | noAscii {type rest : Bytes} (four : type.length = 4) (other : ∃ b ∈ type, 0x80 ≤ b) :
      FirstFault (type ++ rest) (.badType (Text.decodeLossy type) "not ascii")
  /-- The record after some good ones is faulty; it starts where these end. -/
  | record {indicator : String} {entries : List (FieldId × String)} {good rest : Bytes}
      {fault : WireError} (spells : Spells indicator entries good)
      (faulty : RecordFault good.length (entries.map Prod.fst) rest fault) :
      FirstFault (good ++ rest) fault

/-- Reads field records from a position on, into a field map. The result is none if a difference is
negative or a byte is not there. -/
def scanFields? (raw : Bytes) (offset : Nat) (fields : Fields) :
    Option (Except WireError Fields) :=
  if raw.length ≤ offset then some (.ok fields)
  else
    (difference? raw.length offset).bind fun remaining =>
      if remaining < 4 then
        some (.error
          (.tooShort 4 remaining ("field record header at offset " ++ toString offset)))
      else
        (raw.word16At? offset).bind fun id =>
        (raw.word16At? (offset + 2)).bind fun need =>
        (difference? raw.length (offset + 4)).bind fun left =>
          if left < need then some (.error (.truncatedField (.ofNat id) offset need left))
          else
            (raw.slice? (offset + 4) (offset + 4 + need)).bind fun value =>
              match Text.decode? value with
              | none => some (.error (.badField (.ofNat id) (valueFault value)))
              | some text =>
                if fields.contains (.ofNat id) then
                  some (.error (.duplicateField (.ofNat id) offset))
                else scanFields? raw (offset + 4 + need) (fields.insert (.ofNat id) text)
  termination_by raw.length - offset
  decreasing_by omega

/-- Reads a message by position. -/
def scan? (raw : Bytes) : Option (Except WireError Message) :=
  if raw.length < indicatorLength then
    some (.error (.tooShort indicatorLength raw.length "message type indicator"))
  else
    (raw.slice? 0 indicatorLength).bind fun type =>
      match unpackType type with
      | .error fault => some (.error fault)
      | .ok indicator =>
        (scanFields? raw indicatorLength .empty).map fun read =>
          match read with
          | .error fault => .error fault
          | .ok fields => .ok ⟨indicator, fields⟩

/-- What reading makes of a byte string. -/
structure Grammatical (raw : Bytes) : Prop where
  accepts : ∀ message, unpack raw = .ok message ↔
    ∃ entries, Spells message.indicator entries raw ∧ message.fields.entries.Perm entries
  rejects : ∀ fault, unpack raw = .error fault ↔ FirstFault raw fault
  /-- No check fails. -/
  inside : scan? raw = some (unpack raw)
  /-- The beginning of the written form of a message is faulty, or breaks off after a record. -/
  beginning : ∀ (message : Message) (rest : Bytes), rest ≠ [] →
    message.pack = .ok (raw ++ rest) → (∃ fault, unpack raw = .error fault) ∨
      ∃ count < message.fields.entries.length,
        unpack raw = .ok ⟨message.indicator, message.fields.take count⟩

variable {raw : Bytes} {message : Message} {fault : WireError} {indicator : String}
  {entries : List (FieldId × String)} {offset : Nat} {fields : Fields}

/-! ## What is accepted and what is refused -/

theorem unpack_append {type : Bytes} (four : type.length = 4) (rest : Bytes) :
    unpack (type ++ rest) = match unpackType type with
      | .error fault => .error fault
      | .ok indicator =>
        match unpackFields 4 rest .empty with
        | .error fault => .error fault
        | .ok fields => .ok ⟨indicator, fields⟩ := by
  have long : ¬(type ++ rest).length < indicatorLength := by
    rw [List.length_append, indicatorLength]
    omega
  rewrite [unpack, if_neg long, indicatorLength, List.take_left' four, List.drop_left' four]
  rfl

theorem unpack_of_spells (spells : Spells indicator entries raw) :
    unpack raw = .ok ⟨indicator, Fields.empty.insertAll entries⟩ := by
  have read := unpackFields_spell spells.fit 4 [] .empty spells.once
  rw [List.append_nil, unpackFields] at read
  rw [spells.bytes, unpack_append spells.four, unpackType_encode spells.ascii, read]

theorem Spells.perm (spells : Spells indicator entries raw) :
    (Fields.empty.insertAll entries).entries.Perm entries :=
  Fields.perm_insertAll .empty spells.once

theorem unpack_of_fault (faulty : FirstFault raw fault) : unpack raw = .error fault := by
  cases faulty with
  | tooShort short => exact if_pos short
  | noAscii four other => rw [unpack_append four, unpackType_of_not_ascii other]
  | @record indicator entries good rest fault spells faulty =>
    have length : good.length = 4 + (spell entries).length := by
      rw [spells.bytes, List.length_append, spells.four]
    have read := unpackFields_spell spells.fit 4 rest .empty spells.once
    have seen : ∀ id, id ∈ entries.map Prod.fst ↔
        id ∈ (Fields.empty.insertAll entries).entries.map Prod.fst :=
      fun id => (spells.perm.map Prod.fst).mem_iff.symm
    rw [← length, unpackFields_of_fault (faulty.of_seen seen)] at read
    rw [spells.bytes, List.append_assoc, unpack_append spells.four,
      unpackType_encode spells.ascii, read]

/-- A byte string spells a message, or something is wrong with it. -/
theorem spells_or_fault (raw : Bytes) :
    (∃ indicator entries, Spells indicator entries raw) ∨ ∃ fault, FirstFault raw fault := by
  by_cases short : raw.length < 4
  · exact .inr ⟨_, .tooShort short⟩
  rw [← List.take_append_drop 4 raw]
  have four : (raw.take 4).length = 4 := by
    rw [List.length_take]
    omega
  by_cases other : ∃ b ∈ raw.take 4, 0x80 ≤ b
  · exact .inr ⟨_, .noAscii four other⟩
  · have low : ∀ b ∈ raw.take 4, b < 0x80 := by
      intro b member
      exact UInt8.not_le.1 fun high => other ⟨b, member, high⟩
    obtain ⟨indicator, type⟩ := Text.exists_encode_of_ascii low
    obtain ⟨entries, rest, records, fit, once, stop⟩ := spelled 4 [] (raw.drop 4) List.nodup_nil
    rw [← type] at four low
    have spells : Spells indicator entries (Text.encode indicator ++ spell entries) :=
      ⟨four, low, fit, once, rfl⟩
    rw [← type, records]
    rcases stop with rfl | ⟨fault, faulty⟩
    · exact .inl ⟨indicator, entries, by rwa [List.append_nil]⟩
    · refine .inr ⟨fault, ?_⟩
      rw [← List.append_assoc]
      refine .record spells ?_
      rwa [List.length_append, four]

theorem unpack_eq_ok_iff : unpack raw = .ok message ↔
    ∃ entries, Spells message.indicator entries raw ∧ message.fields.entries.Perm entries := by
  constructor
  · intro read
    rcases spells_or_fault raw with ⟨indicator, entries, spells⟩ | ⟨fault, faulty⟩
    · cases read.symm.trans (unpack_of_spells spells)
      exact ⟨entries, spells, spells.perm⟩
    · cases read.symm.trans (unpack_of_fault faulty)
  · rintro ⟨entries, spells, perm⟩
    have same : message.fields = Fields.empty.insertAll entries :=
      Fields.eq_of_perm (perm.trans spells.perm.symm)
    rw [unpack_of_spells spells, ← same]

theorem unpack_eq_error_iff : unpack raw = .error fault ↔ FirstFault raw fault := by
  refine ⟨fun refused => ?_, unpack_of_fault⟩
  rcases spells_or_fault raw with ⟨indicator, entries, spells⟩ | ⟨other, faulty⟩
  · cases refused.symm.trans (unpack_of_spells spells)
  · cases refused.symm.trans (unpack_of_fault faulty)
    exact faulty

/-! ## Reading by position -/

theorem difference?_length (inside : offset ≤ raw.length) :
    difference? raw.length offset = some (raw.drop offset).length := by
  rw [difference?, if_pos inside, List.length_drop]

theorem word16At?_of_drop {high low : UInt8} {rest : Bytes}
    (there : raw.drop offset = high :: low :: rest) :
    raw.word16At? offset = some (Bytes.ofWord16 high low) := by
  have first : raw[offset]? = some high := by
    rw [← List.head?_drop, there, List.head?_cons]
  have second : raw[offset + 1]? = some low := by
    rw [← List.head?_drop, ← List.drop_drop, there, List.drop_succ_cons, List.drop_zero,
      List.head?_cons]
  rw [Bytes.word16At?, first, second]

theorem slice?_of_le {count : Nat} (inside : offset + count ≤ raw.length) :
    raw.slice? offset (offset + count) = some ((raw.drop offset).take count) := by
  rw [Bytes.slice?, if_pos ⟨Nat.le_add_right _ _, inside⟩, List.drop_take, Nat.add_sub_cancel_left]

/-- Reading records by position reads what stands at the position, and no check fails. -/
theorem scanFields?_eq (inside : offset ≤ raw.length) (fields : Fields) :
    scanFields? raw offset fields = some (unpackFields offset (raw.drop offset) fields) := by
  -- by induction on what is still to be read
  induction length : raw.length - offset using Nat.strong_induction_on
    generalizing offset fields with
  | _ n ih =>
  subst length
  have remaining := difference?_length inside
  rw [scanFields?]
  match bytes : raw.drop offset with
  | [] => rw [if_pos (List.drop_eq_nil_iff.1 bytes), unpackFields]
  | [_] | [_, _] | [_, _, _] =>
    have more : ¬raw.length ≤ offset := by simp [← List.drop_eq_nil_iff, bytes]
    rw [bytes] at remaining
    rw [if_neg more, remaining]
    simp [unpackFields]
  | i :: j :: k :: l :: rest =>
    have more : ¬raw.length ≤ offset := by simp [← List.drop_eq_nil_iff, bytes]
    have second : raw.drop (offset + 2) = k :: l :: rest := by
      rw [← List.drop_drop, bytes]
      rfl
    have value : raw.drop (offset + 4) = rest := by
      rw [← List.drop_drop, bytes]
      rfl
    have total : raw.length = offset + 4 + rest.length := by
      have split := congrArg List.length bytes
      simp only [List.length_drop, List.length_cons] at split
      omega
    have head : offset + 4 ≤ raw.length := by omega
    have left := difference?_length head
    rw [bytes] at remaining
    rw [value] at left
    have four : ¬(i :: j :: k :: l :: rest).length < 4 := by simp
    rw [if_neg more, remaining, Option.bind_some, if_neg four, word16At?_of_drop bytes,
      Option.bind_some, word16At?_of_drop second, Option.bind_some, left, Option.bind_some,
      unpackFields]
    have taken : (rest.take (Bytes.ofWord16 k l)).length < Bytes.ofWord16 k l ↔
        rest.length < Bytes.ofWord16 k l := by
      rw [List.length_take]
      omega
    by_cases short : rest.length < Bytes.ofWord16 k l
    · rw [if_pos short, if_pos (taken.2 short)]
    · have whole : offset + 4 + Bytes.ofWord16 k l ≤ raw.length := by omega
      rw [if_neg short, if_neg fun less => short (taken.1 less), slice?_of_le whole, value,
        Option.bind_some]
      cases Text.decode? (rest.take (Bytes.ofWord16 k l)) with
      | none => rfl
      | some text =>
        dsimp only
        by_cases again : fields.contains (UInt16.ofNat (Bytes.ofWord16 i j)) = true
        · rw [if_pos again, if_pos again]
        · have next := ih (raw.length - (offset + 4 + Bytes.ofWord16 k l)) (by omega) whole
            (fields.insert (.ofNat (Bytes.ofWord16 i j)) text) rfl
          rw [if_neg again, if_neg again, next, ← List.drop_drop, value]

/-- Reading by position gives the answer of reading, and no check fails. -/
theorem scan?_eq (raw : Bytes) : scan? raw = some (unpack raw) := by
  rw [scan?, unpack]
  by_cases short : raw.length < indicatorLength
  · rw [if_pos short, if_pos short]
  · have inside : indicatorLength ≤ raw.length := Nat.not_lt.1 short
    have type : raw.slice? 0 (0 + indicatorLength) = some ((raw.drop 0).take indicatorLength) :=
      slice?_of_le (by omega)
    rw [Nat.zero_add, List.drop_zero] at type
    rw [if_neg short, if_neg short, type, Option.bind_some, scanFields?_eq inside]
    cases unpackType (raw.take indicatorLength) with
    | error fault => rfl
    | ok indicator =>
      cases unpackFields indicatorLength (raw.drop indicatorLength) .empty with
      | error fault => rfl
      | ok fields => rfl

/-! ## Written forms and their beginnings -/

/-- The written form of a message spells it, with its fields in ascending order. -/
theorem pack_eq_ok_iff : message.pack = .ok raw ↔
    Spells message.indicator message.fields.entries raw := by
  have once := Fields.nodup_of_ascending message.fields.ascending
  rw [pack]
  by_cases writable : isWritableType message.indicator = true
  · rw [if_pos writable]
    rw [isWritableType, Bool.and_eq_true, beq_iff_eq, Text.isAscii_iff] at writable
    obtain ⟨four, ascii⟩ := writable
    cases packed : packFields message.fields.entries with
    | error fault =>
      simp only [reduceCtorEq, false_iff]
      intro spells
      cases packed.symm.trans (packFields_eq_ok_iff.2 ⟨spells.fit, rfl⟩)
    | ok written =>
      obtain ⟨fit, rfl⟩ := packFields_eq_ok_iff.1 packed
      rw [Except.ok.injEq, eq_comm]
      exact ⟨fun bytes => ⟨four, ascii, fit, once, bytes⟩, Spells.bytes⟩
  · rw [if_neg writable]
    simp only [reduceCtorEq, false_iff]
    intro spells
    refine writable ?_
    rw [isWritableType, Bool.and_eq_true, beq_iff_eq, Text.isAscii_iff]
    exact ⟨spells.four, spells.ascii⟩

/-- The written form of a message reads back as the message. -/
theorem unpack_of_pack (packed : message.pack = .ok raw) : unpack raw = .ok message :=
  unpack_eq_ok_iff.2 ⟨_, pack_eq_ok_iff.1 packed, .refl _⟩

/-- What a beginning spells is the beginning of what the whole spells. -/
theorem Spells.of_append {other : String} {others : List (FieldId × String)} {rest : Bytes}
    (whole : Spells indicator entries (raw ++ rest)) (spells : Spells other others raw) :
    other = indicator ∧ ∃ later, entries = others ++ later ∧ rest = spell later := by
  have same := whole.bytes
  rw [spells.bytes, List.append_assoc] at same
  obtain ⟨type, records⟩ := List.append_inj same (spells.four.trans whole.four.symm)
  exact ⟨Text.encode_injective type, prefix_of_spell_append spells.fit whole.fit records⟩

/-- A byte string spells one type indicator and one list of fields. -/
theorem Spells.unique {other : String} {others : List (FieldId × String)}
    (spells : Spells indicator entries raw) (spells' : Spells other others raw) :
    other = indicator ∧ others = entries := by
  have whole : Spells indicator entries (raw ++ []) := by rwa [List.append_nil]
  obtain ⟨type, later, split, none⟩ := whole.of_append spells'
  cases later with
  | nil => exact ⟨type, by rw [split, List.append_nil]⟩
  | cons entry later => cases none

/-- The beginning of a written form is faulty, or it is the written form of the first fields. -/
theorem unpack_of_beginning {rest : Bytes} (less : rest ≠ [])
    (packed : message.pack = .ok (raw ++ rest)) : (∃ fault, unpack raw = .error fault) ∨
      ∃ count < message.fields.entries.length,
        unpack raw = .ok ⟨message.indicator, message.fields.take count⟩ := by
  rcases spells_or_fault raw with ⟨indicator, entries, spells⟩ | ⟨fault, faulty⟩
  · obtain ⟨rfl, later, split, spelled⟩ := (pack_eq_ok_iff.1 packed).of_append spells
    have more : later ≠ [] := by
      rintro rfl
      exact less spelled
    refine .inr ⟨entries.length, ?_, unpack_eq_ok_iff.2 ⟨entries, spells, ?_⟩⟩
    · rw [split, List.length_append]
      exact Nat.lt_add_of_pos_right (List.length_pos_iff.2 more)
    · show (message.fields.entries.take entries.length).Perm entries
      rw [split, List.take_left]
  · exact .inl ⟨fault, unpack_of_fault faulty⟩

/-- A byte string is read as a message exactly if it is spelled like one, and else its first fault
is reported. -/
theorem grammar_of_unpack (raw : Bytes) : Grammatical raw where
  accepts _ := unpack_eq_ok_iff
  rejects _ := unpack_eq_error_iff
  inside := scan?_eq raw
  beginning _ _ less packed := unpack_of_beginning less packed

end Message

end Multiplex
