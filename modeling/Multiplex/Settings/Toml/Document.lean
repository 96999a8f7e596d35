import Multiplex.Settings.Toml.Lexeme
import Multiplex.Settings.Toml.Tree

/-!
# TOML documents

A document is a sequence of lines: blank ones, comments, headers that open tables, and values under
keys. It is read as the entries of its outermost table, or not at all. Arrays and tables within a
line are read to find that they are right and then kept as `Value.nested` or `Value.emptyTable`,
for no setting holds one.
-/

namespace Multiplex.Settings.Toml

/-- How deep arrays and tables may lie in one another, and how many parts a dotted key may have. -/
def deepest : Nat := 79

/-! ## Keys -/

/-- The character may stand in a key without quotes. -/
def isKeyChar (c : Char) : Bool :=
  isDigit c || ('a' ≤ c && c ≤ 'z') || ('A' ≤ c && c ≤ 'Z') || c == '_' || c == '-'

/-- Reads one part of a key, quoted or not. -/
def keyPart? (text : List Char) : Option (List Char × List Char) :=
  match shortString? text with
  | some found => some found
  | none =>
    let part := text.takeWhile isKeyChar
    if part.isEmpty then none else some (part, text.dropWhile isKeyChar)

/-- Reads the parts of a key, with blanks around each: those before the last, and the last. -/
def keyParts? : (fuel : Nat) → List Char → Option ((List (List Char) × List Char) × List Char)
  | 0, _ => none
  | fuel + 1, text =>
    match keyPart? (skipBlanks text) with
    | none => none
    | some (part, rest) =>
      match skipBlanks rest with
      | '.' :: rest =>
        (keyParts? fuel rest).map fun ((way, last), rest) => ((part :: way, last), rest)
      | rest => some (([], part), rest)

/-- Reads a key. -/
def key? (text : List Char) : Option ((List (List Char) × List Char) × List Char) :=
  keyParts? deepest text

/-! ## Values -/

/-- Reads the rest of an array, after its opening bracket or a comma. -/
def elements? (element : Reader Value) : (fuel : Nat) → List Char → Option (List Char)
  | 0, _ => none
  | fuel + 1, text =>
    match skipSpace? false text with
    | none => none
    | some (']' :: rest) => some rest
    | some text =>
      match element text with
      | none => none
      | some (_, rest) =>
        match skipSpace? false rest with
        | some (',' :: rest) => elements? element fuel rest
        | some (']' :: rest) => some rest
        | _ => none

/-- Reads a key, an equals sign and a value into a table. -/
def pair? (value : Reader Value) (origin : Origin) (children : Children) (text : List Char) :
    Option (Children × List Char) :=
  match key? text with
  | some ((way, last), '=' :: rest) =>
    match value (skipBlanks rest) with
    | some (found, rest) => (addValue? way last found origin children).map (·, rest)
    | none => none
  | _ => none

/-- Reads the rest of a table within a line, after its opening brace or a comma. -/
def pairs? (value : Reader Value) : (fuel : Nat) → Children → List Char → Option (List Char)
  | 0, _, _ => none
  | fuel + 1, children, text =>
    match pair? value .header children text with
    | none => none
    | some (children, rest) =>
      match skipBlanks rest with
      | ',' :: rest => pairs? value fuel children rest
      | '\x7d' :: rest => some rest
      | _ => none

/-- Reads a table within a line, after its opening brace. -/
def inlineTable? (value : Reader Value) : Reader Value := fun text =>
  match skipBlanks text with
  | '\x7d' :: rest => some (.emptyTable, rest)
  | rest => (pairs? value rest.length [] rest).map (.nested, ·)

/-- Reads a value that holds no others. -/
def scalar? : Reader Value
  | 't' :: 'r' :: 'u' :: 'e' :: rest => some (.truth true, rest)
  | 'f' :: 'a' :: 'l' :: 's' :: 'e' :: rest => some (.truth false, rest)
  | text =>
    match string? text with
    | some (found, rest) => some (.text (String.ofList found), rest)
    | none => numberOrMoment? text

/-- Reads a value in which others lie at most `depth` deep. -/
def value? : (depth : Nat) → Reader Value
  | 0, text => scalar? text
  | depth + 1, text =>
    match text with
    | '[' :: rest => (elements? (value? depth) (rest.length + 1) rest).map (.nested, ·)
    | '\x7b' :: rest => inlineTable? (value? depth) rest
    | text => scalar? text

/-! ## Lines -/

/-- A document that has been read in part: the path of the table that its next values go to, and the
entries of its outermost table. -/
structure Draft where
  path : List (List Char)
  root : Children

/-- Reads a header after its opening bracket. -/
def header? (draft : Draft) (text : List Char) : Option (Draft × List Char) :=
  match text with
  | '[' :: text =>
    match key? text with
    | some ((way, last), ']' :: ']' :: rest) =>
      (openElement? way last draft.root).map fun root => (⟨way ++ [last], root⟩, rest)
    | _ => none
  | text =>
    match key? text with
    | some ((way, last), ']' :: rest) =>
      (openTable? way last draft.root).map fun root => (⟨way ++ [last], root⟩, rest)
    | _ => none

/-- Reads a value under a key into the table that is open. -/
def assignment? (draft : Draft) (text : List Char) : Option (Draft × List Char) :=
  match key? text with
  | some ((way, last), '=' :: rest) =>
    match value? deepest (skipBlanks rest) with
    | some (found, rest) =>
      (update? .implied (addValue? way last found) draft.path .header draft.root).map fun root =>
        (⟨draft.path, root⟩, rest)
    | none => none
  | _ => none

/-- Reads one line that is neither blank nor a comment. -/
def statement? (draft : Draft) : List Char → Option (Draft × List Char)
  | '[' :: rest => header? draft rest
  | text => assignment? draft text

/-- Reads lines until the end of the text, at most `fuel` of them. -/
def lines? : (fuel : Nat) → Draft → List Char → Option Children
  | 0, _, _ => none
  | fuel + 1, draft, text =>
    match skipBlanks text with
    | [] => some draft.root
    | text =>
      match finishLine? text with
      | some rest => lines? fuel draft rest
      | none =>
        match statement? draft text with
        | none => none
        | some (draft, rest) =>
          match finishLine? rest with
          | some rest => lines? fuel draft rest
          | none => none

/-- The text without a byte order mark at its front. -/
def skipByteOrderMark : List Char → List Char
  | '\ufeff' :: rest => rest
  | rest => rest

/-- The entries of the outermost table of a document, which one byte order mark may precede. -/
def document? (text : List Char) : Option (List (List Char × Value)) :=
  let text := skipByteOrderMark text
  (lines? (text.length + 1) ⟨[], []⟩ text).map fun root =>
    root.map fun (key, node) => (key, node.value)

end Multiplex.Settings.Toml
