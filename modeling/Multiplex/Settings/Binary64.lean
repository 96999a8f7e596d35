/-!
# Double-precision numbers

A decimal numeral stands for the double-precision number nearest to it, of two equally near ones
for that with the even significand. This module computes that number in exact arithmetic, and the
integer that a double-precision number rounds to, halves going away from zero.
-/

namespace Multiplex.Settings

/-- A double-precision number. A finite one has the magnitude `significand * 2 ^ exponent`. -/
inductive Binary64 where
  | nan
  | infinite (negative : Bool)
  | finite (negative : Bool) (significand : Nat) (exponent : Int)
  deriving DecidableEq, Repr

namespace Binary64

/-- The quotient rounded to the nearest integer, a tie to the even one. -/
def roundDiv (num den : Nat) : Nat :=
  let q := num / den
  let twice := 2 * (num % den)
  if twice < den then q
  else if den < twice then q + 1
  else if q % 2 = 0 then q
  else q + 1

/-- The exponent of the last place of the number nearest to `num / den`: the significand has 53
bits, or fewer below the normal range. -/
def lastPlace (num den : Nat) : Int :=
  let guess : Int := (Nat.log2 num : Int) - (Nat.log2 den : Int) - 53
  let shift := guess + 53
  let reaches := den * Nat.pow 2 shift.toNat ≤ num * Nat.pow 2 (-shift).toNat
  max (if reaches then guess + 1 else guess) (-1074)

/-- The double-precision number nearest to `num / den`. -/
def ofRatio (negative : Bool) (num den : Nat) : Binary64 :=
  if num = 0 then finite negative 0 0
  else
    let exponent := lastPlace num den
    let significand := roundDiv (num * Nat.pow 2 (-exponent).toNat) (den * Nat.pow 2 exponent.toNat)
    if Nat.pow 2 1024 ≤ significand * Nat.pow 2 exponent.toNat then infinite negative
    else finite negative significand exponent

/-- The double-precision number nearest to `digits * 10 ^ exponent`. Numerals far outside the range
are settled by their number of digits. -/
def ofDecimal (negative : Bool) (digits : Nat) (exponent : Int) : Binary64 :=
  let length : Int := (Nat.toDigits 10 digits).length
  if digits = 0 then finite negative 0 0
  else if 400 < exponent + length then infinite negative
  else if exponent + length < -400 then finite negative 0 0
  else ofRatio negative (digits * Nat.pow 10 exponent.toNat) (Nat.pow 10 (-exponent).toNat)

/-- The number equals zero. -/
def isZero : Binary64 → Bool
  | finite _ significand _ => significand == 0
  | _ => false

/-- The greatest unsigned integer of 64 bits. -/
def maxUnsigned : Nat := 18446744073709551615

/-- The unsigned 64-bit integer that a number rounds to, halves going away from zero: the nearest
end of the range for a number outside it, and zero for what is no number. -/
def toUnsigned : Binary64 → Nat
  | nan => 0
  | infinite negative => if negative then 0 else maxUnsigned
  | finite true _ _ => 0
  | finite false significand exponent =>
    let halves := Nat.pow 2 (-exponent).toNat
    min maxUnsigned ((2 * significand * Nat.pow 2 exponent.toNat + halves) / (2 * halves))

end Binary64

end Multiplex.Settings
