import Multiplex.Settings.Numeral

/-!
# Values of settings

A setting comes from a file or from the environment as a value: a truth value, a number, a text,
or something that holds further values. Settings are lenient about which of these they take:
numbers, truth values and some words stand for one another.
-/

namespace Multiplex.Settings

/-- A value as it was found. -/
inductive Value where
  | truth (b : Bool)
  | integer (n : Int)
  | decimal (x : Binary64)
  | text (s : String)
  /-- A table without entries. -/
  | emptyTable
  /-- An array, or a table that has entries. -/
  | nested
  deriving DecidableEq, Repr

namespace Value

/-- The words for yes. -/
def yesWords : List (List Char) :=
  ["true".toList, "on".toList, "yes".toList]

/-- The words for no. -/
def noWords : List (List Char) :=
  ["false".toList, "off".toList, "no".toList]

/-- An unsigned integer of 64 bits. A decimal number is rounded and kept within the range; a truth
value or a word for one counts as one or zero. -/
def toUnsigned? : Value → Option Nat
  | truth b => some (if b then 1 else 0)
  | integer n => if 0 ≤ n then some n.toNat else none
  | decimal x => some x.toUnsigned
  | text s =>
    let word := lower s.toList
    if yesWords.contains word then some 1
    else if noWords.contains word then some 0
    else Numeral.unsigned? s.toList
  | emptyTable | nested => none

/-- A truth value. A number is true unless it is zero; a text has to be a word or a digit for yes
or no. -/
def toTruth? : Value → Option Bool
  | truth b => some b
  | integer n => some (n != 0)
  | decimal x => some (!x.isZero)
  | text s =>
    let word := lower s.toList
    if yesWords.contains word || word = ['1'] then some true
    else if noWords.contains word || word = ['0'] then some false
    else none
  | emptyTable | nested => none

/-- A field number. -/
def toFieldNumber? (value : Value) : Option UInt16 :=
  match value.toUnsigned? with
  | some n => if n < 65536 then some (UInt16.ofNat n) else none
  | none => none

end Value

end Multiplex.Settings
