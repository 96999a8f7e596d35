/-!
# Byte strings

Byte strings are lists of octets. This module writes numbers in network byte order and bytes in
hexadecimal, and gives the short digest that stands for a long byte string.

Main statements: two octets determine the number they write and the other way round
(`ofWord16_word16`, `word16_ofWord16`), and the same for four octets (`ofWord32_word32`,
`word32_ofWord32`).
-/

namespace Multiplex

/-- A byte string, first byte first. -/
abbrev Bytes := List UInt8

namespace Bytes

/-- The two octets of `n` modulo `2 ^ 16`, most significant first. -/
def word16 (n : Nat) : Bytes :=
  [UInt8.ofNat (n / 256), UInt8.ofNat n]

/-- The four octets of `n` modulo `2 ^ 32`, most significant first. -/
def word32 (n : Nat) : Bytes :=
  [UInt8.ofNat (n / 16777216), UInt8.ofNat (n / 65536), UInt8.ofNat (n / 256), UInt8.ofNat n]

/-- The number that two octets write, most significant first. -/
def ofWord16 (high low : UInt8) : Nat :=
  high.toNat * 256 + low.toNat

/-- The number that four octets write, most significant first. -/
def ofWord32 (a b c d : UInt8) : Nat :=
  a.toNat * 16777216 + b.toNat * 65536 + c.toNat * 256 + d.toNat

@[simp] theorem length_word16 (n : Nat) : (word16 n).length = 2 := rfl

theorem ofWord16_lt (high low : UInt8) : ofWord16 high low < 65536 := by
  have hh := high.toNat_lt
  have hl := low.toNat_lt
  simp only [ofWord16]
  omega

theorem ofWord32_lt (a b c d : UInt8) : ofWord32 a b c d < 4294967296 := by
  have ha := a.toNat_lt
  have hb := b.toNat_lt
  have hc := c.toNat_lt
  have hd := d.toNat_lt
  simp only [ofWord32]
  omega

/-- Two octets written from a number below `2 ^ 16` read back as that number. -/
theorem ofWord16_word16 {n : Nat} (h : n < 65536) :
    ofWord16 (UInt8.ofNat (n / 256)) (UInt8.ofNat n) = n := by
  simp only [ofWord16, UInt8.toNat_ofNat']
  omega

/-- The number read from two octets is written as these two octets. -/
theorem word16_ofWord16 (high low : UInt8) : word16 (ofWord16 high low) = [high, low] := by
  have hh := high.toNat_lt
  have hl := low.toNat_lt
  have e1 : (high.toNat * 256 + low.toNat) / 256 = high.toNat := by omega
  simp only [word16, ofWord16, e1, List.cons.injEq, and_true]
  constructor
  · exact UInt8.ofNat_toNat
  · apply UInt8.toNat_inj.1
    simp only [UInt8.toNat_ofNat']
    omega

/-- Four octets written from a number below `2 ^ 32` read back as that number. -/
theorem ofWord32_word32 {n : Nat} (h : n < 4294967296) :
    ofWord32 (UInt8.ofNat (n / 16777216)) (UInt8.ofNat (n / 65536)) (UInt8.ofNat (n / 256))
      (UInt8.ofNat n) = n := by
  simp only [ofWord32, UInt8.toNat_ofNat']
  omega

/-- The number read from four octets is written as these four octets. -/
theorem word32_ofWord32 (a b c d : UInt8) : word32 (ofWord32 a b c d) = [a, b, c, d] := by
  have ha := a.toNat_lt
  have hb := b.toNat_lt
  have hc := c.toNat_lt
  have hd := d.toNat_lt
  simp only [word32, ofWord32, List.cons.injEq, and_true]
  refine ⟨?_, ?_, ?_, ?_⟩ <;> apply UInt8.toNat_inj.1 <;> rw [UInt8.toNat_ofNat'] <;> omega

/-- The lower-case hexadecimal digit of a number below sixteen. -/
def hexDigit (n : Nat) : Char :=
  Char.ofNat (if n < 10 then 48 + n else 87 + n)

/-- Two lower-case hexadecimal digits per byte. -/
def hex (bytes : Bytes) : String :=
  String.ofList (bytes.flatMap fun b => [hexDigit (b.toNat / 16), hexDigit (b.toNat % 16)])

/-- The 64-bit FNV-1a digest: exclusive or with the next byte, then a multiplication by the FNV
prime, from the FNV offset basis on. -/
def fnv1a (bytes : Bytes) : UInt64 :=
  bytes.foldl (fun digest b => (digest ^^^ b.toUInt64) * 0x100000001b3) 0xcbf29ce484222325

/-- The digest of a byte string as sixteen hexadecimal digits. -/
def fingerprint (bytes : Bytes) : String :=
  let digest := (fnv1a bytes).toNat
  hex (word32 (digest / 4294967296) ++ word32 digest)

end Bytes

end Multiplex
