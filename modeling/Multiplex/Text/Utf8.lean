import Multiplex.Bytes

/-!
# UTF-8 text

Text is written as its UTF-8 bytes (`Text.encode`) and read back only from valid UTF-8
(`Text.decode?`). Beside these stands a machine that reads one byte at a time and says where a
byte string stops being UTF-8 and how many bytes of a character had been accepted by then
(`Text.flaw?`); the same machine drives the lossy reading, which puts one replacement character in
place of every maximal rejected sequence (`Text.decodeLossy`).

Main statements: `decode?_encode` and `eq_encode_of_decode?` (reading accepts exactly what writing
produces).
-/

namespace Multiplex.Text

/-- The UTF-8 bytes of a text. -/
def encode (text : String) : Bytes :=
  text.toByteArray.data.toList

/-- The text whose UTF-8 bytes these are, if there is one. -/
def decode? (bytes : Bytes) : Option String :=
  if valid : (ByteArray.mk bytes.toArray).IsValidUTF8 then some ⟨⟨bytes.toArray⟩, valid⟩ else none

/-- What is written reads back. -/
@[simp] theorem decode?_encode (text : String) : decode? (encode text) = some text := by
  have whole : ByteArray.mk (encode text).toArray = text.toByteArray := by
    simp [encode]
  simp only [decode?, whole]
  rw [dif_pos text.isValidUTF8]

/-- What reads as a text is the written form of that text. -/
theorem eq_encode_of_decode? {bytes : Bytes} {text : String} (h : decode? bytes = some text) :
    bytes = encode text := by
  unfold decode? at h
  split at h
  · cases h
    simp [encode]
  · cases h

/-- Different texts are written differently. -/
theorem encode_injective {a b : String} (h : encode a = encode b) : a = b := by
  have := decode?_encode a
  rw [h, decode?_encode] at this
  exact (Option.some.inj this).symm

/-- Where a byte string stops being UTF-8: the index of the first byte of the offending character,
the number of its bytes accepted before the refusal (one if the first was refused), and whether the
input ended there instead. -/
structure Flaw where
  index : Nat
  width : Nat
  ended : Bool
  deriving DecidableEq, Repr

/-- The wording of a flaw. -/
def Flaw.message (flaw : Flaw) : String :=
  if flaw.ended then
    "incomplete utf-8 byte sequence from index " ++ toString flaw.index
  else
    "invalid utf-8 sequence of " ++ toString flaw.width ++ " bytes from index "
      ++ toString flaw.index

/-- What a character in progress still needs: `owed` further bytes, the next of which lies between
`low` and `high`. -/
structure Owing where
  owed : Nat
  low : UInt8
  high : UInt8
  deriving DecidableEq, Repr

/-- What a first byte leaves owed; none for a byte that starts no character. The bounds on the
second byte keep out overlong forms, surrogates and numbers above `U+10FFFF`. -/
def Owing.afterFirst? (b : UInt8) : Option Owing :=
  if b < 0x80 then some ⟨0, 0, 0⟩
  else if b < 0xC2 then none
  else if b < 0xE0 then some ⟨1, 0x80, 0xBF⟩
  else if b = 0xE0 then some ⟨2, 0xA0, 0xBF⟩
  else if b = 0xED then some ⟨2, 0x80, 0x9F⟩
  else if b < 0xF0 then some ⟨2, 0x80, 0xBF⟩
  else if b = 0xF0 then some ⟨3, 0x90, 0xBF⟩
  else if b < 0xF4 then some ⟨3, 0x80, 0xBF⟩
  else if b = 0xF4 then some ⟨3, 0x80, 0x8F⟩
  else none

/-- How far a character in progress gets: all owed bytes arrive (with the number of them), one is
refused after some were accepted, or the input ends. -/
inductive Reach where
  | complete (taken : Nat)
  | refused (taken : Nat)
  | ended
  deriving DecidableEq, Repr

/-- Reads the `owed` bytes of a character in progress, the next of which lies between `low` and
`high`; `taken` of them have been accepted. -/
def reach : (owed : Nat) → (low high : UInt8) → (taken : Nat) → Bytes → Reach
  | 0, _, _, taken, _ => .complete taken
  | _ + 1, _, _, _, [] => .ended
  | owed + 1, low, high, taken, b :: rest =>
    if low ≤ b ∧ b ≤ high then reach owed 0x80 0xBF (taken + 1) rest else .refused taken

/-- The result of reading one character at the front of a byte string: the length of a good
character, or the width of a rejected sequence and whether the input ended inside it. -/
inductive Front where
  | good (width : Nat)
  | bad (width : Nat) (ended : Bool)
  deriving DecidableEq, Repr

/-- Reads one character whose first byte is `b`. -/
def front (b : UInt8) (rest : Bytes) : Front :=
  match Owing.afterFirst? b with
  | none => .bad 1 false
  | some owing =>
    match reach owing.owed owing.low owing.high 0 rest with
    | .complete taken => .good (taken + 1)
    | .refused taken => .bad (taken + 1) false
    | .ended => .bad (rest.length + 1) true

/-- The first flaw of a byte string that starts at `index` of a longer one. -/
def flawFrom? (index : Nat) (bytes : Bytes) : Option Flaw :=
  match bytes with
  | [] => none
  | b :: rest =>
    match front b rest with
    | .good width => flawFrom? (index + width) (rest.drop (width - 1))
    | .bad width ended => some ⟨index, width, ended⟩
  termination_by bytes.length
  decreasing_by simp only [List.length_drop, List.length_cons]; omega

/-- The first place at which a byte string stops being UTF-8. -/
def flaw? (bytes : Bytes) : Option Flaw :=
  flawFrom? 0 bytes

/-- Reads a byte string as text, with one `U+FFFD` for every maximal rejected sequence. -/
def decodeLossy (bytes : Bytes) : String :=
  match bytes with
  | [] => ""
  | b :: rest =>
    match front b rest with
    | .good width =>
      ((decode? (b :: rest.take (width - 1))).getD "\uFFFD") ++ decodeLossy (rest.drop (width - 1))
    | .bad width _ => "\uFFFD" ++ decodeLossy (rest.drop (width - 1))
  termination_by bytes.length
  decreasing_by all_goals simp only [List.length_drop, List.length_cons]; omega

/-- All bytes of the text are below `0x80`. -/
def isAscii (text : String) : Bool :=
  (encode text).all (· < 0x80)

end Multiplex.Text
