import Multiplex.WireError

/-!
# Length headers

A frame is a length header followed by a payload of the announced length. Any way to write and read
headers of one size will do (`Framing`); there are four layouts at hand:

* `vml`: the length in two octets, then two reserved octets that are zero;
* `binary2`: the length in two octets;
* `binary4`: the length in four octets;
* `ascii4`: the length in four decimal digits.

Each layout has one written form for every length up to its maximum (`layout`), writing refuses any
greater length (`encode`), and reading inverts writing (`decode`). The main statements are the
small laws beside the definitions: `length_layout`, `check_eq_ok_iff`, `encode_of_le`,
`encode_of_lt` and `decode_layout`.
-/

namespace Multiplex

/-- How the lengths of payloads are announced: by headers of one size. -/
structure Framing where
  /-- The number of bytes of a header. -/
  size : Nat
  /-- The header that announces a length. -/
  encode : Nat → Except WireError Bytes
  /-- The length that a header announces. -/
  decode : Bytes → Except WireError Nat

/-- A layout of the length header. -/
inductive Header where
  | vml
  | binary2
  | binary4
  | ascii4
  deriving DecidableEq, Repr

namespace Header

/-- The name by which faults refer to a layout. -/
def name : Header → String
  | vml => "vml"
  | binary2 => "binary2"
  | binary4 => "binary4"
  | ascii4 => "ascii4"

/-- The number of bytes of a header. -/
def size : Header → Nat
  | binary2 => 2
  | vml | binary4 | ascii4 => 4

/-- The greatest length a header can announce. -/
def maxLength : Header → Nat
  | vml | binary2 => 65535
  | binary4 => 4294967295
  | ascii4 => 9999

/-- A header has at least two bytes. -/
theorem two_le_size (header : Header) : 2 ≤ header.size := by
  cases header <;> simp [size]

/-- The octet of a decimal digit. -/
def digit (n : Nat) : UInt8 :=
  UInt8.ofNat (48 + n % 10)

/-- The bytes that announce `length`, which is at most `maxLength`. -/
def layout : Header → (length : Nat) → Bytes
  | vml, length => Bytes.word16 length ++ [0, 0]
  | binary2, length => Bytes.word16 length
  | binary4, length => Bytes.word32 length
  | ascii4, length =>
    [digit (length / 1000), digit (length / 100), digit (length / 10), digit length]

@[simp] theorem length_layout (header : Header) (length : Nat) :
    (header.layout length).length = header.size := by
  cases header <;> rfl

/-- Refuses a length above the layout's maximum. -/
def check (header : Header) (length : Nat) : Except WireError Unit :=
  if header.maxLength < length then
    .error (.lengthOutOfRange length header.maxLength header.name)
  else .ok ()

theorem check_eq_ok_iff {header : Header} {length : Nat} :
    header.check length = .ok () ↔ length ≤ header.maxLength := by
  unfold check
  split
  · next h => simp only [reduceCtorEq, false_iff]; omega
  · next h => simp only [true_iff]; omega

/-- Appends the header that announces `length` to a byte string, which stays as it is if the length
is refused. -/
def encode (header : Header) (length : Nat) (written : Bytes) : Except WireError Unit × Bytes :=
  match header.check length with
  | .error e => (.error e, written)
  | .ok () => (.ok (), written ++ header.layout length)

theorem encode_of_le {header : Header} {length : Nat} (small : length ≤ header.maxLength)
    (written : Bytes) :
    header.encode length written = (.ok (), written ++ header.layout length) := by
  rw [encode, check_eq_ok_iff.2 small]

theorem encode_of_lt {header : Header} {length : Nat} (large : header.maxLength < length)
    (written : Bytes) : header.encode length written =
      (.error (.lengthOutOfRange length header.maxLength header.name), written) := by
  rw [encode, check, if_pos large]

/-- The header that announces `length`, by itself. -/
def announce (header : Header) (length : Nat) : Except WireError Bytes :=
  let (result, written) := header.encode length []
  result.map fun _ => written

theorem announce_eq_ok_iff {header : Header} {length : Nat} {bytes : Bytes} :
    header.announce length = .ok bytes ↔
      length ≤ header.maxLength ∧ bytes = header.layout length := by
  unfold announce
  rcases Nat.lt_or_ge header.maxLength length with large | small
  · rw [encode_of_lt large]
    simp only [Except.map, reduceCtorEq, false_iff, not_and]
    omega
  · rw [encode_of_le small]
    simp only [Except.map, List.nil_append, Except.ok.injEq, small, true_and]
    exact eq_comm

/-- Appends the headers of several lengths to a byte string, one after another; a length that is
refused adds nothing. The refusals are given in the order of the lengths. -/
def appendAll (header : Header) :
    (lengths : List Nat) → Bytes → List (Except WireError Unit) × Bytes
  | [], written => ([], written)
  | length :: rest, written =>
    let (result, written) := header.encode length written
    let (results, final) := header.appendAll rest written
    (result :: results, final)

/-- The octet is a decimal digit. -/
def isDigit (b : UInt8) : Bool :=
  48 ≤ b.toNat && b.toNat ≤ 57

/-- The number that decimal digits write, most significant first. -/
def decimal (digits : Bytes) : Nat :=
  digits.foldl (fun n b => n * 10 + (b.toNat - 48)) 0

/-- The length that a header announces. The wrong number of bytes is reported before anything else
about them. -/
def decode (header : Header) (bytes : Bytes) : Except WireError Nat :=
  match header, bytes with
  | vml, [a, b, c, d] =>
    if Bytes.ofWord16 c d = 0 then .ok (Bytes.ofWord16 a b)
    else .error (.badHeader bytes "reserved bytes not zero")
  | binary2, [a, b] => .ok (Bytes.ofWord16 a b)
  | binary4, [a, b, c, d] => .ok (Bytes.ofWord32 a b c d)
  | ascii4, [a, b, c, d] =>
    if [a, b, c, d].all isDigit then .ok (decimal [a, b, c, d])
    else .error (.badHeader bytes "expected 4 ascii digits")
  | header, bytes =>
    .error (.tooShort header.size bytes.length (header.name ++ " length header"))

/-- Framing by headers of this layout. -/
def framing (header : Header) : Framing where
  size := header.size
  encode := header.announce
  decode := header.decode

/-- The digits of a number below ten thousand are digits, and read back as the number. -/
theorem decimal_digits {n : Nat} (h : n ≤ 9999) :
    [digit (n / 1000), digit (n / 100), digit (n / 10), digit n].all isDigit = true ∧
      decimal [digit (n / 1000), digit (n / 100), digit (n / 10), digit n] = n := by
  have value : ∀ m : Nat, (digit m).toNat = 48 + m % 10 := by
    intro m
    simp only [digit, UInt8.toNat_ofNat']
    omega
  constructor
  · simp only [List.all_cons, List.all_nil, isDigit, value, Bool.and_true, Bool.and_eq_true,
      decide_eq_true_eq]
    omega
  · simp only [decimal, List.foldl_cons, List.foldl_nil, value]
    omega

/-- A written header reads back as the length it announces. -/
theorem decode_layout {header : Header} {length : Nat} (h : length ≤ header.maxLength) :
    header.decode (header.layout length) = .ok length := by
  cases header with
  | vml =>
    have reserved : Bytes.ofWord16 0 0 = 0 := rfl
    simp only [maxLength] at h
    simp [layout, Bytes.word16, decode, reserved,
      Bytes.ofWord16_word16 (show length < 65536 by omega)]
  | binary2 =>
    simp only [maxLength] at h
    simp [layout, Bytes.word16, decode, Bytes.ofWord16_word16 (show length < 65536 by omega)]
  | binary4 =>
    simp only [maxLength] at h
    simp [layout, Bytes.word32, decode,
      Bytes.ofWord32_word32 (show length < 4294967296 by omega)]
  | ascii4 =>
    simp only [maxLength] at h
    obtain ⟨digits, value⟩ := decimal_digits h
    simp only [layout, decode, digits, value, if_true]

end Header

end Multiplex
