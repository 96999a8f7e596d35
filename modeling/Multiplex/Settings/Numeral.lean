import Multiplex.Settings.Binary64

/-!
# Numerals

Integers and decimal numbers as they are written in a whole text: an optional sign, digits without
separators, and for decimal numbers a point, an exponent, or one of the words for what is infinite
or no number. Every reader here takes the whole text or nothing.
-/

namespace Multiplex.Settings

/-- The character is a decimal digit. -/
def isDigit (c : Char) : Bool :=
  '0' ≤ c && c ≤ '9'

/-- The number that digits write in a base. -/
def ofDigits (base : Nat) (digits : List Char) : Nat :=
  digits.foldl (fun n c =>
    n * base + (if isDigit c then c.toNat - 48 else c.toLower.toNat - 87)) 0

/-- The text with its ASCII capitals made small. -/
def lower (text : List Char) : List Char :=
  text.map Char.toLower

namespace Numeral

/-- Splits a sign off, which is true for a minus. -/
def splitSign : List Char → Bool × List Char
  | '+' :: rest => (false, rest)
  | '-' :: rest => (true, rest)
  | rest => (false, rest)

/-- A text of digits, at least one. -/
def digits? (text : List Char) : Option Nat :=
  if text.isEmpty || !text.all isDigit then none else some (ofDigits 10 text)

/-- A signed integer of 64 bits. -/
def integer? (text : List Char) : Option Int :=
  let (negative, rest) := splitSign text
  match digits? rest with
  | none => none
  | some n =>
    if negative then (if n ≤ 9223372036854775808 then some (-(n : Int)) else none)
    else if n ≤ 9223372036854775807 then some n
    else none

/-- An unsigned integer of 64 bits; a plus may precede it. -/
def unsigned? (text : List Char) : Option Nat :=
  let rest :=
    match text with
    | '+' :: rest => rest
    | rest => rest
  match digits? rest with
  | none => none
  | some n => if n ≤ Binary64.maxUnsigned then some n else none

/-- An exponent part, which may be missing: the letter, an optional sign, and digits. -/
def exponent? : List Char → Option Int
  | [] => some 0
  | c :: rest =>
    if c = 'e' || c = 'E' then
      let (negative, rest) := splitSign rest
      (digits? rest).map fun n => if negative then -(n : Int) else n
    else none

/-- A decimal number after its sign: digits with at most one point among, before or after them, and
an exponent. -/
def magnitude? (negative : Bool) (text : List Char) : Option Binary64 :=
  let whole := text.takeWhile isDigit
  let rest := text.dropWhile isDigit
  let (fraction, rest) :=
    match rest with
    | '.' :: rest => (rest.takeWhile isDigit, rest.dropWhile isDigit)
    | rest => ([], rest)
  if whole.isEmpty && fraction.isEmpty then none
  else
    (exponent? rest).map fun exponent =>
      .ofDecimal negative (ofDigits 10 (whole ++ fraction)) (exponent - fraction.length)

/-- A decimal number, or a word for what is infinite or no number in any case of its letters. -/
def decimal? (text : List Char) : Option Binary64 :=
  let (negative, rest) := splitSign text
  let word := lower rest
  if word = ['n', 'a', 'n'] then some .nan
  else if word = "inf".toList || word = "infinity".toList then some (.infinite negative)
  else magnitude? negative rest

end Numeral

end Multiplex.Settings
