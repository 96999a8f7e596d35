import Multiplex.Settings.Value

/-!
# The lexemes of TOML documents

A reader takes a lexeme from the front of a text and hands back the rest, or fails. This module
reads blanks, comments and line ends, strings of all four kinds, numbers, and dates and times.
-/

namespace Multiplex.Settings.Toml

/-- A reader takes something from the front of a text, or fails. -/
abbrev Reader (α : Type) := List Char → Option (α × List Char)

/-- The character is a blank. -/
def isBlank (c : Char) : Bool :=
  c == ' ' || c == '\t'

/-- The text after the blanks at its front. -/
def skipBlanks (text : List Char) : List Char :=
  text.dropWhile isBlank

/-- The character may stand in a comment: a tab or no control. -/
def isCommentChar (c : Char) : Bool :=
  c == '\t' || (0x20 ≤ c.toNat && c.toNat != 0x7F)

/-- The text after a comment, if there is one at its front. -/
def skipComment : List Char → List Char
  | '#' :: rest => rest.dropWhile isCommentChar
  | rest => rest

/-- The text after a line end. -/
def lineEnd? : List Char → Option (List Char)
  | '\n' :: rest => some rest
  | '\r' :: '\n' :: rest => some rest
  | _ => none

/-- The text after what may end a line: blanks, a comment, and the line end or the end of the
text. -/
def finishLine? (text : List Char) : Option (List Char) :=
  match skipComment (skipBlanks text) with
  | [] => some []
  | rest => lineEnd? rest

/-- The text after any blanks, comments and line ends; `inComment` tells that a comment has begun,
which has to end with its line. -/
def skipSpace? (inComment : Bool) (text : List Char) : Option (List Char) :=
  match text with
  | '\n' :: rest => skipSpace? false rest
  | '\r' :: '\n' :: rest => skipSpace? false rest
  | c :: rest =>
    if inComment then (if isCommentChar c then skipSpace? true rest else none)
    else if isBlank c then skipSpace? false rest
    else if c = '#' then skipSpace? true rest
    else some (c :: rest)
  | [] => if inComment then none else some []

/-! ## Strings -/

/-- The value of a hexadecimal digit. -/
def hexValue? (c : Char) : Option Nat :=
  if isDigit c then some (c.toNat - 48)
  else if 'a' ≤ c && c ≤ 'f' then some (c.toNat - 87)
  else if 'A' ≤ c && c ≤ 'F' then some (c.toNat - 55)
  else none

/-- Reads a character by its number, which has `count` hexadecimal digits. -/
def codePoint? (count : Nat) (text : List Char) : Option (Char × List Char) :=
  let digits := text.take count
  match digits.mapM hexValue? with
  | none => none
  | some values =>
    let code := values.foldl (fun n v => n * 16 + v) 0
    if digits.length = count ∧ Nat.isValidChar code then some (Char.ofNat code, text.drop count)
    else none

/-- Reads what follows a backslash. -/
def escape? : Reader Char
  | 'b' :: rest => some ('\x08', rest)
  | 't' :: rest => some ('\t', rest)
  | 'n' :: rest => some ('\n', rest)
  | 'f' :: rest => some ('\x0c', rest)
  | 'r' :: rest => some ('\r', rest)
  | '"' :: rest => some ('"', rest)
  | '\\' :: rest => some ('\\', rest)
  | 'u' :: rest => codePoint? 4 rest
  | 'U' :: rest => codePoint? 8 rest
  | _ => none

/-- The character may stand as itself in a string of one line. -/
def isStringChar (c : Char) : Bool :=
  isCommentChar c

/-- Reads the rest of a basic string of one line, after its opening quote. -/
def basicString : (fuel : Nat) → Reader (List Char)
  | 0, _ => none
  | _ + 1, [] => none
  | _ + 1, '"' :: rest => some ([], rest)
  | fuel + 1, '\\' :: rest =>
    match escape? rest with
    | none => none
    | some (c, rest) => (basicString fuel rest).map fun (cs, rest) => (c :: cs, rest)
  | fuel + 1, c :: rest =>
    if isStringChar c then (basicString fuel rest).map fun (cs, rest) => (c :: cs, rest) else none

/-- Reads the rest of a literal string of one line, after its opening quote. -/
def literalString : Reader (List Char)
  | [] => none
  | '\'' :: rest => some ([], rest)
  | c :: rest =>
    if isStringChar c then (literalString rest).map fun (cs, rest) => (c :: cs, rest) else none

/-- Skips a line break that directly follows an opening delimiter of three quotes. -/
def skipFirstBreak (text : List Char) : List Char :=
  (lineEnd? text).getD text

/-- Skips blanks and line ends. -/
def skipBreaks (text : List Char) : List Char :=
  match text with
  | '\r' :: '\n' :: rest => skipBreaks rest
  | '\n' :: rest => skipBreaks rest
  | ' ' :: rest => skipBreaks rest
  | '\t' :: rest => skipBreaks rest
  | rest => rest

/-- The text after a backslash that joins lines: blanks, a line end, and any blanks and line ends
after it. -/
def joinLines? (text : List Char) : Option (List Char) :=
  (lineEnd? (skipBlanks text)).map skipBreaks

/-- Reads the closing delimiter of a string of several lines, before which one or two quotes may
belong to the string. -/
def closeLong? (quote : Char) (text : List Char) : Option (List Char × List Char) :=
  let count := min 5 (text.takeWhile (· == quote)).length
  if count < 3 then none else some (List.replicate (count - 3) quote, text.drop count)

/-- Reads the rest of a string of several lines, after its opening delimiter and the line break
behind it. Escapes count in a basic string, whose quote is double. -/
def longString (quote : Char) : (fuel : Nat) → Reader (List Char)
  | 0, _ => none
  | fuel + 1, text =>
    match closeLong? quote text with
    | some closed => some closed
    | none =>
      match text with
      | [] => none
      | '\\' :: rest =>
        if quote = '"' then
          match joinLines? rest with
          | some rest => longString quote fuel rest
          | none =>
            match escape? rest with
            | none => none
            | some (c, rest) => (longString quote fuel rest).map fun (cs, rest) => (c :: cs, rest)
        else (longString quote fuel rest).map fun (cs, rest) => ('\\' :: cs, rest)
      | c :: rest =>
        match lineEnd? text with
        | some rest => (longString quote fuel rest).map fun (cs, rest) => ('\n' :: cs, rest)
        | none =>
          if isStringChar c then
            (longString quote fuel rest).map fun (cs, rest) => (c :: cs, rest)
          else none

/-- Reads a string of one line. -/
def shortString? : Reader (List Char)
  | '"' :: rest => basicString (rest.length + 1) rest
  | '\'' :: rest => literalString rest
  | _ => none

/-- Reads a string of any kind. -/
def string? : Reader (List Char)
  | '"' :: '"' :: '"' :: rest =>
    let rest := skipFirstBreak rest
    longString '"' (rest.length + 1) rest
  | '\'' :: '\'' :: '\'' :: rest =>
    let rest := skipFirstBreak rest
    longString '\'' (rest.length + 1) rest
  | text => shortString? text

/-! ## Numbers -/

/-- Reads digits as far as they go. Between two of them one underscore may stand; an underscore that
no digit follows fails. -/
def moreDigits? (isMember : Char → Bool) : Reader (List Char)
  | '_' :: c :: rest =>
    if isMember c then (moreDigits? isMember rest).map fun (cs, rest) => (c :: cs, rest) else none
  | ['_'] => none
  | c :: rest =>
    if isMember c then (moreDigits? isMember rest).map fun (cs, rest) => (c :: cs, rest)
    else some ([], c :: rest)
  | [] => some ([], [])

/-- Reads digits, at least one, between two of which one underscore may stand. -/
def groupedDigits? (isMember : Char → Bool) : Reader (List Char)
  | [] => none
  | c :: rest =>
    if isMember c then (moreDigits? isMember rest).map fun (cs, rest) => (c :: cs, rest) else none

/-- Reads the digits of a decimal integer, which start with a zero only if there is no other. -/
def wholeDigits? : Reader (List Char)
  | '0' :: rest => some (['0'], rest)
  | text => groupedDigits? isDigit text

/-- An integer of 64 bits. -/
def signedInteger? (negative : Bool) (n : Nat) : Option Int :=
  if negative then (if n ≤ 9223372036854775808 then some (-(n : Int)) else none)
  else if n ≤ 9223372036854775807 then some n
  else none

/-- Reads an integer in another base, after its mark. -/
def basedInteger? (base : Nat) (isMember : Char → Bool) (text : List Char) :
    Option (Value × List Char) :=
  match groupedDigits? isMember text with
  | none => none
  | some (digits, rest) =>
    (signedInteger? false (ofDigits base digits)).map fun n => (.integer n, rest)

/-- Reads an exponent after its letter. -/
def exponentPart? (text : List Char) : Option (Int × List Char) :=
  let (negative, rest) := Numeral.splitSign text
  (groupedDigits? isDigit rest).map fun (digits, rest) =>
    let n : Int := ofDigits 10 digits
    (if negative then -n else n, rest)

/-- A decimal number; one too great for any finite number is refused. -/
def decimalValue? (negative : Bool) (digits : List Char) (exponent : Int) : Option Value :=
  match Binary64.ofDecimal negative (ofDigits 10 digits) exponent with
  | .infinite false => none
  | x => some (.decimal x)

/-- Reads what may follow the whole part of a decimal number: a fraction, an exponent, or neither,
which leaves an integer. -/
def afterWhole? (negative : Bool) (whole : List Char) : Reader Value
  | '.' :: rest =>
    match groupedDigits? isDigit rest with
    | none => none
    | some (fraction, rest) =>
      let scale : Int := -(fraction.length : Int)
      match rest with
      | c :: after =>
        if c = 'e' || c = 'E' then
          match exponentPart? after with
          | none => none
          | some (exponent, rest) =>
            (decimalValue? negative (whole ++ fraction) (exponent + scale)).map (·, rest)
        else (decimalValue? negative (whole ++ fraction) scale).map (·, rest)
      | [] => (decimalValue? negative (whole ++ fraction) scale).map (·, [])
  | c :: rest =>
    if c = 'e' || c = 'E' then
      match exponentPart? rest with
      | none => none
      | some (exponent, rest) => (decimalValue? negative whole exponent).map (·, rest)
    else (signedInteger? negative (ofDigits 10 whole)).map fun n => (.integer n, c :: rest)
  | [] => (signedInteger? negative (ofDigits 10 whole)).map fun n => (.integer n, [])

/-- Reads a number. -/
def number? (text : List Char) : Option (Value × List Char) :=
  match text with
  | '0' :: 'x' :: rest => basedInteger? 16 (fun c => (hexValue? c).isSome) rest
  | '0' :: 'o' :: rest => basedInteger? 8 (fun c => '0' ≤ c && c ≤ '7') rest
  | '0' :: 'b' :: rest => basedInteger? 2 (fun c => c == '0' || c == '1') rest
  | text =>
    let (negative, rest) := Numeral.splitSign text
    match rest with
    | 'i' :: 'n' :: 'f' :: rest => some (.decimal (.infinite negative), rest)
    | 'n' :: 'a' :: 'n' :: rest => some (.decimal .nan, rest)
    | rest =>
      match wholeDigits? rest with
      | none => none
      | some (whole, rest) => afterWhole? negative whole rest

/-! ## Dates and times -/

/-- Reads a number of exactly `count` digits that lies in a range. -/
def fixedDigits? (count low high : Nat) (text : List Char) : Option (Nat × List Char) :=
  let digits := text.take count
  if digits.length = count ∧ digits.all isDigit = true then
    let n := ofDigits 10 digits
    if low ≤ n ∧ n ≤ high then some (n, text.drop count) else none
  else none

/-- The text after a given character. -/
def expect? (c : Char) : List Char → Option (List Char)
  | d :: rest => if c = d then some rest else none
  | [] => none

/-- The number of days of a month. -/
def daysOf (year month : Nat) : Nat :=
  if month = 2 then
    if year % 4 = 0 ∧ (year % 100 ≠ 0 ∨ year % 400 = 0) then 29 else 28
  else if month = 4 ∨ month = 6 ∨ month = 9 ∨ month = 11 then 30
  else 31

/-- The text after a date. -/
def date? (text : List Char) : Option (List Char) := do
  let (year, text) ← fixedDigits? 4 0 9999 text
  let text ← expect? '-' text
  let (month, text) ← fixedDigits? 2 1 12 text
  let text ← expect? '-' text
  let (_, text) ← fixedDigits? 2 1 (daysOf year month) text
  return text

/-- The text after a fraction of a second, which may be missing. -/
def secondFraction (text : List Char) : List Char :=
  match text with
  | '.' :: c :: rest => if isDigit c then rest.dropWhile isDigit else text
  | text => text

/-- The text after a time of day. -/
def time? (text : List Char) : Option (List Char) := do
  let (_, text) ← fixedDigits? 2 0 23 text
  let text ← expect? ':' text
  let (_, text) ← fixedDigits? 2 0 59 text
  let text ← expect? ':' text
  let (_, text) ← fixedDigits? 2 0 60 text
  return secondFraction text

/-- The text after the distance to universal time, which may be missing. A distance that has begun
has to be complete. -/
def zone? (text : List Char) : Option (List Char) :=
  match text with
  | [] => some []
  | c :: rest =>
    if c = 'Z' || c = 'z' then some rest
    else if c = '+' || c = '-' then do
      let (_, text) ← fixedDigits? 2 0 23 rest
      let text ← expect? ':' text
      let (_, text) ← fixedDigits? 2 0 59 text
      return text
    else some text

/-- The text after a date, a time of day, or both with a distance to universal time. -/
def moment? (text : List Char) : Option (List Char) :=
  match date? text with
  | none => time? text
  | some afterDate =>
    match afterDate with
    | c :: rest =>
      if c = 'T' || c = 't' || c = ' ' then
        match time? rest with
        | some afterTime => zone? afterTime
        | none => some afterDate
      else some afterDate
    | [] => some []

/-- Reads a number, or a date or time, which is kept as its text. -/
def numberOrMoment? (text : List Char) : Option (Value × List Char) :=
  match moment? text with
  | some rest => some (.text (String.ofList (text.take (text.length - rest.length))), rest)
  | none => number? text

end Multiplex.Settings.Toml
