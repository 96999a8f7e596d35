import Multiplex.Framing.Header
import Mathlib.Data.List.Basic

/-!
# Length headers are read as they are written

Each layout of a length header announces exactly the lengths up to its maximum, each by one byte
string of the size of a header, and each of these byte strings is read as that length and nothing
else is read as a length. So headers that are written one after another, whatever was there before
them and whatever lengths are refused in between, are read back as the lengths that they announce.

Main statement: `exact_of_header`.
-/

namespace Multiplex.Header

variable {header : Header} {bytes : Bytes} {length : Nat}

/-- The lengths announced by headers that follow one another, or the first fault. -/
def decodeAll (header : Header) (bytes : Bytes) : Except WireError (List Nat) :=
  match bytes with
  | [] => .ok []
  | first :: rest =>
    match header.decode ((first :: rest).take header.size) with
    | .error fault => .error fault
    | .ok length => (header.decodeAll ((first :: rest).drop header.size)).map (length :: ·)
termination_by bytes.length
decreasing_by
  have positive := header.two_le_size
  rw [List.length_drop, List.length_cons]
  omega

/-- What is written is read, and nothing else is. -/
structure Exact (header : Header) : Prop where
  /-- The lengths up to the maximum are announced. -/
  encodes_iff : ∀ length written,
    (header.encode length written).1 = .ok () ↔ length ≤ header.maxLength
  /-- A header comes after whatever has been written before, and leaves that as it is. -/
  appends : ∀ {length : Nat}, length ≤ header.maxLength → ∃ bytes, bytes.length = header.size ∧
    ∀ written, header.encode length written = (.ok (), written ++ bytes)
  /-- A length above the maximum is refused, and nothing is written. -/
  refuses : ∀ {length : Nat}, header.maxLength < length → ∀ written,
    header.encode length written =
      (.error (.lengthOutOfRange length header.maxLength header.name), written)
  /-- A header is read as the length for which it is written, and nothing else is read. -/
  decodes_iff : ∀ bytes length,
    header.decode bytes = .ok length ↔ header.encode length [] = (.ok (), bytes)
  /-- No two byte strings are read as one length. -/
  injective : ∀ {length : Nat} {bytes bytes' : Bytes}, header.decode bytes = .ok length →
    header.decode bytes' = .ok length → bytes = bytes'
  /-- What has not the size of a header is refused for that. -/
  misfits : ∀ {bytes : Bytes}, bytes.length ≠ header.size → header.decode bytes =
    .error (.tooShort header.size bytes.length (header.name ++ " length header"))
  /-- All else that announces no length is a bad header. -/
  rejects : ∀ {bytes : Bytes}, bytes.length = header.size →
    (∀ length, header.encode length [] ≠ (.ok (), bytes)) →
      ∃ reason, header.decode bytes = .error (.badHeader bytes reason)
  /-- Headers that are written one after another are read back, without the lengths that were
  refused. -/
  readsBack : ∀ lengths written, ∃ tail,
    header.appendAll lengths written = (lengths.map header.check, written ++ tail) ∧
      header.decodeAll tail = .ok (lengths.filter fun length => length ≤ header.maxLength)
  /-- Whatever is read as a list of lengths consists of their headers. -/
  readsOnly : ∀ {bytes : Bytes} {lengths : List Nat}, header.decodeAll bytes = .ok lengths →
    header.appendAll lengths [] = (lengths.map fun _ => .ok (), bytes)

/-! ## One header -/

/-- A decimal digit is the digit of its own value. -/
theorem digit_of_isDigit {b : UInt8} (is : isDigit b = true) :
    b.toNat - 48 ≤ 9 ∧ ∀ n, n % 10 = b.toNat - 48 → digit n = b := by
  rw [isDigit, Bool.and_eq_true, decide_eq_true_iff, decide_eq_true_iff] at is
  refine ⟨by omega, fun n same => ?_⟩
  apply UInt8.toNat_inj.1
  rw [digit, UInt8.toNat_ofNat']
  omega

/-- Four decimal digits are the digits of the number that they write. -/
theorem layout_decimal {a b c d : UInt8} (all : [a, b, c, d].all isDigit = true) :
    decimal [a, b, c, d] ≤ 9999 ∧ [a, b, c, d] = ascii4.layout (decimal [a, b, c, d]) := by
  simp only [List.all_cons, List.all_nil, Bool.and_true, Bool.and_eq_true] at all
  obtain ⟨ha, hb, hc, hd⟩ := all
  obtain ⟨a9, da⟩ := digit_of_isDigit ha
  obtain ⟨b9, db⟩ := digit_of_isDigit hb
  obtain ⟨c9, dc⟩ := digit_of_isDigit hc
  obtain ⟨d9, dd⟩ := digit_of_isDigit hd
  simp only [decimal, List.foldl_cons, List.foldl_nil, layout]
  refine ⟨by omega, ?_⟩
  rw [da _ (by omega), db _ (by omega), dc _ (by omega), dd _ (by omega)]

/-- Reserved octets that write zero are zero. -/
theorem reserved_eq_zero {c d : UInt8} (zero : Bytes.ofWord16 c d = 0) : c = 0 ∧ d = 0 := by
  rw [Bytes.ofWord16] at zero
  constructor <;> apply UInt8.toNat_inj.1
  · show c.toNat = 0
    omega
  · show d.toNat = 0
    omega

/-- What is read as a length is the header that announces it. -/
theorem layout_of_decode (read : header.decode bytes = .ok length) :
    length ≤ header.maxLength ∧ bytes = header.layout length := by
  unfold decode at read
  split at read
  · next a b c d =>
    split at read
    · next reserved =>
      cases read
      obtain ⟨rfl, rfl⟩ := reserved_eq_zero reserved
      refine ⟨Nat.le_of_lt_succ (Bytes.ofWord16_lt a b), ?_⟩
      rw [layout, Bytes.word16_ofWord16]
      rfl
    · cases read
  · next a b =>
    cases read
    exact ⟨Nat.le_of_lt_succ (Bytes.ofWord16_lt a b), (Bytes.word16_ofWord16 a b).symm⟩
  · next a b c d =>
    cases read
    exact ⟨Nat.le_of_lt_succ (Bytes.ofWord32_lt a b c d), (Bytes.word32_ofWord32 a b c d).symm⟩
  · split at read
    · next all =>
      cases read
      exact layout_decimal all
    · cases read
  · cases read

theorem decode_eq_ok_iff :
    header.decode bytes = .ok length ↔ header.encode length [] = (.ok (), bytes) := by
  constructor
  · intro read
    obtain ⟨small, rfl⟩ := layout_of_decode read
    exact encode_of_le small []
  · intro written
    rcases Nat.lt_or_ge header.maxLength length with large | small
    · rw [encode_of_lt large] at written
      cases written
    · rw [encode_of_le small] at written
      cases written
      exact decode_layout small

theorem decode_of_length_ne (differs : bytes.length ≠ header.size) : header.decode bytes =
    .error (.tooShort header.size bytes.length (header.name ++ " length header")) := by
  unfold decode
  split
  -- the byte strings that a layout looks into have the size of its headers
  · exact absurd rfl differs
  · exact absurd rfl differs
  · exact absurd rfl differs
  · exact absurd rfl differs
  · rfl

/-- A byte string of the right size is a header or a bad one. -/
theorem decode_of_length_eq (same : bytes.length = header.size) :
    (∃ length, header.decode bytes = .ok length) ∨
      ∃ reason, header.decode bytes = .error (.badHeader bytes reason) := by
  cases header with
  | vml =>
    obtain ⟨i, j, k, l, rfl⟩ := List.length_eq_four.1 same
    simp only [decode]
    split
    · exact .inl ⟨_, rfl⟩
    · exact .inr ⟨_, rfl⟩
  | binary2 =>
    obtain ⟨i, j, rfl⟩ := List.length_eq_two.1 same
    exact .inl ⟨_, rfl⟩
  | binary4 =>
    obtain ⟨i, j, k, l, rfl⟩ := List.length_eq_four.1 same
    exact .inl ⟨_, rfl⟩
  | ascii4 =>
    obtain ⟨i, j, k, l, rfl⟩ := List.length_eq_four.1 same
    simp only [decode]
    split
    · exact .inl ⟨_, rfl⟩
    · exact .inr ⟨_, rfl⟩

/-! ## Headers one after another -/

/-- The headers of the lengths that are not refused. -/
def layoutAll (header : Header) (lengths : List Nat) : Bytes :=
  (lengths.filter fun length => length ≤ header.maxLength).flatMap header.layout

/-- Every length is announced or refused for itself. -/
theorem appendAll_eq (header : Header) (lengths : List Nat) (written : Bytes) :
    header.appendAll lengths written =
      (lengths.map header.check, written ++ header.layoutAll lengths) := by
  induction lengths generalizing written with
  | nil => simp [appendAll, layoutAll]
  | cons length rest ih =>
    rw [appendAll, List.map_cons]
    rcases Nat.lt_or_ge header.maxLength length with large | small
    · rw [encode_of_lt large, check, if_pos large, layoutAll,
        List.filter_cons_of_neg (by simpa using large)]
      dsimp only
      rw [ih, layoutAll]
    · rw [encode_of_le small, check_eq_ok_iff.2 small, layoutAll,
        List.filter_cons_of_pos (by simpa using small), List.flatMap_cons]
      dsimp only
      rw [ih, layoutAll, List.append_assoc]

theorem decodeAll_nil : header.decodeAll [] = .ok [] := by
  rw [decodeAll]

/-- The first header is read apart from all others. -/
theorem decodeAll_of_ne_nil (nonempty : bytes ≠ []) : header.decodeAll bytes =
    match header.decode (bytes.take header.size) with
    | .error fault => .error fault
    | .ok length => (header.decodeAll (bytes.drop header.size)).map (length :: ·) := by
  obtain ⟨first, rest, rfl⟩ := List.exists_cons_of_ne_nil nonempty
  rw [decodeAll]

theorem layout_ne_nil (header : Header) (length : Nat) : header.layout length ≠ [] := by
  rw [← List.length_pos_iff, length_layout]
  exact Nat.lt_of_lt_of_le Nat.zero_lt_two header.two_le_size

theorem decodeAll_append (small : length ≤ header.maxLength) (rest : Bytes) :
    header.decodeAll (header.layout length ++ rest) =
      (header.decodeAll rest).map (length :: ·) := by
  have size := header.length_layout length
  rw [decodeAll_of_ne_nil (List.append_ne_nil_of_left_ne_nil (header.layout_ne_nil length) rest),
    List.take_left' size, List.drop_left' size, decode_layout small]

theorem decodeAll_flatMap (lengths : List Nat)
    (small : ∀ length ∈ lengths, length ≤ header.maxLength) :
    header.decodeAll (lengths.flatMap header.layout) = .ok lengths := by
  induction lengths with
  | nil => exact decodeAll_nil
  | cons length rest ih =>
    obtain ⟨first, others⟩ := List.forall_mem_cons.1 small
    rw [List.flatMap_cons, decodeAll_append first, ih others]
    rfl

/-- What is read as a list of lengths is made of the headers of all of them. -/
theorem flatMap_of_decodeAll {lengths : List Nat} (read : header.decodeAll bytes = .ok lengths) :
    (∀ length ∈ lengths, length ≤ header.maxLength) ∧
      bytes = lengths.flatMap header.layout := by
  -- along the lengths, each of which takes one header away
  induction lengths generalizing bytes with
  | nil =>
    refine ⟨fun _ => (nomatch ·), ?_⟩
    by_cases empty : bytes = []
    · exact empty
    · rw [decodeAll_of_ne_nil empty] at read
      split at read
      · cases read
      · cases rest : header.decodeAll (bytes.drop header.size) <;> rw [rest] at read <;> cases read
  | cons length others ih =>
    have nonempty : bytes ≠ [] := by
      rintro rfl
      rw [decodeAll_nil] at read
      cases read
    rw [decodeAll_of_ne_nil nonempty] at read
    split at read
    · cases read
    · next first head =>
      cases rest : header.decodeAll (bytes.drop header.size) with
      | error fault =>
        rw [rest] at read
        cases read
      | ok lengths =>
        rw [rest] at read
        cases read
        obtain ⟨small, taken⟩ := layout_of_decode head
        obtain ⟨small', dropped⟩ := ih rest
        refine ⟨List.forall_mem_cons.2 ⟨small, small'⟩, ?_⟩
        rw [List.flatMap_cons, ← taken, ← dropped, List.take_append_drop]

/-- Every layout is read as it is written. -/
theorem exact_of_header (header : Header) : header.Exact where
  encodes_iff length written := by
    rcases Nat.lt_or_ge header.maxLength length with large | small
    · simp [encode_of_lt large, Nat.not_le_of_lt large]
    · simp [encode_of_le small, small]
  appends small := ⟨_, header.length_layout _, encode_of_le small⟩
  refuses large := encode_of_lt large
  decodes_iff _ _ := decode_eq_ok_iff
  injective read read' :=
    (layout_of_decode read).2.trans (layout_of_decode read').2.symm
  misfits differs := decode_of_length_ne differs
  rejects {bytes} same unwritten := by
    refine (decode_of_length_eq same).resolve_left ?_
    rintro ⟨length, read⟩
    exact unwritten length (decode_eq_ok_iff.1 read)
  readsBack lengths written := by
    refine ⟨header.layoutAll lengths, appendAll_eq header lengths written, ?_⟩
    apply decodeAll_flatMap
    intro length member
    simpa using (List.mem_filter.1 member).2
  readsOnly {bytes lengths} read := by
    obtain ⟨small, rfl⟩ := flatMap_of_decodeAll read
    rw [appendAll_eq, List.nil_append, layoutAll,
      List.filter_eq_self.2 fun length member => by simpa using small length member]
    congr 1
    exact List.map_congr_left fun length member => check_eq_ok_iff.2 (small length member)

/-- Three lengths are written after one byte, and the second of them is refused. -/
example : binary2.appendAll [258, 65536, 7] [255] =
    ([.ok (), .error (.lengthOutOfRange 65536 65535 "binary2"), .ok ()], [255, 1, 2, 0, 7]) := by
  rfl

end Multiplex.Header
